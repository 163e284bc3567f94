import SqlCatalog.Proofs.Extraction.WellFormed

/-!
# Consistency

The check on extractions knows nothing of the text: it goes through the names
of all tables and columns and through the list of diagnostics.  What it asks is
stated here without the traversal, and it turns out to hold of the extraction
of every text, so a checked extraction is never refused.

Only an open token can break the order of the diagnostics.  It adds one of its
own behind those that reading the statements yields, and none of these is about
an open token or stands outside of statements.
-/

namespace SqlCatalog

namespace Extraction

/-! ## What is checked -/

/-- What is promised of every extraction. -/
structure KeepsPromises (extraction : Extraction) : Prop where
  /-- Every table has a name. -/
  tables : ∀ table ∈ extraction.tables, table.name ≠ ""
  /-- Every column has a name. -/
  columns : ∀ table ∈ extraction.tables, ∀ column ∈ table.columns,
    column.name ≠ ""
  /-- Nothing is reported behind an open token, hence at most one of these. -/
  last : ∀ front diagnostic back,
    extraction.diagnostics = front ++ diagnostic :: back →
      diagnostic.fault.isUnterminated = true → back = []
  /-- Nothing but an open token is reported outside of statements. -/
  outside : ∀ diagnostic ∈ extraction.diagnostics,
    diagnostic.location = .input → diagnostic.fault.isUnterminated = true

theorem isNamed_iff {table : Table} :
    isNamed table = true ↔
      table.name ≠ "" ∧ ∀ column ∈ table.columns, column.name ≠ "" := by
  simp [isNamed]

/-- Something stands behind all items but the last. -/
theorem mem_dropLast_iff
    {Item : Type} {items : List Item} {item : Item} :
    item ∈ items.dropLast ↔
      ∃ front back, items = front ++ item :: back ∧ back ≠ [] := by
  constructor
  · intro member
    obtain ⟨front, back, parts⟩ := List.append_of_mem member
    have filled : items ≠ [] := by
      rintro rfl
      cases member
    refine ⟨front, back ++ [items.getLast filled], ?_, by simp⟩
    rw [← List.cons_append, ← List.append_assoc, ← parts,
      List.dropLast_concat_getLast]
  · rintro ⟨front, back, rfl, more⟩
    rw [List.dropLast_append_of_ne_nil (List.cons_ne_nil _ _),
      List.dropLast_cons_of_ne_nil more]
    simp

/-- Nothing stands behind a marked item if none but the last can be marked. -/
theorem nothing_behind_iff
    {Item : Type} {items : List Item} {marked : Item → Bool} :
    (∀ front item back, items = front ++ item :: back →
        marked item = true → back = []) ↔
      ∀ item ∈ items.dropLast, marked item = false := by
  constructor
  · intro final item early
    obtain ⟨front, back, parts, more⟩ := mem_dropLast_iff.mp early
    cases mark : marked item with
    | false => rfl
    | true => exact absurd (final front item back parts mark) more
  · intro unmarked front item back parts mark
    by_contra more
    have early := mem_dropLast_iff.mpr ⟨front, back, parts, more⟩
    rw [unmarked item early] at mark
    cases mark

/-- The check asks for the promises and for nothing else. -/
theorem isConsistent_iff {extraction : Extraction} :
    extraction.isConsistent = true ↔ extraction.KeepsPromises := by
  simp only [isConsistent, Bool.and_eq_true, List.all_eq_true, isNamed_iff,
    Bool.or_eq_true, Bool.not_eq_true', bne_iff_ne]
  constructor
  · rintro ⟨⟨named, settled⟩, outside⟩
    refine ⟨fun table member => (named table member).1,
      fun table member => (named table member).2,
      nothing_behind_iff.mpr settled, ?_⟩
    intro diagnostic member place
    exact (outside diagnostic member).resolve_left (not_not.mpr place)
  · intro promises
    refine ⟨⟨?_, nothing_behind_iff.mp promises.last⟩, ?_⟩
    · intro table member
      exact ⟨promises.tables table member, promises.columns table member⟩
    · intro diagnostic member
      exact or_iff_not_imp_left.mpr fun place =>
        promises.outside diagnostic member (not_not.mp place)

end Extraction

/-! ## Whole texts -/

/--
The diagnostics of a text are those of its statements, none of them about an
open token, and behind them the one that an open token adds.
-/
theorem exists_diagnostics_extract (extractor : Extractor) (sql : String) :
    ∃ others place,
      (extractor.extract sql).diagnostics =
          others ++ ((tokenize sql).fault.map fun token =>
            Diagnostic.mk place (.unterminated token)).toList ∧
        ∀ diagnostic ∈ others,
          diagnostic.fault.isUnterminated = false ∧
            diagnostic.location ≠ .input := by
  rw [extract_eq_ofTokens]
  cases (tokenize sql).fault with
  | none =>
      refine ⟨_, .input, (List.append_nil _).symm, ?_⟩
      intro diagnostic member
      exact of_mem_ofTokens_none member
  | some token =>
      rw [ofTokens_open]
      refine ⟨_, _, rfl, ?_⟩
      intro diagnostic member
      exact of_mem_ofTokens_none member

/-- What is reported before the last diagnostic is not about an open token. -/
theorem isUnterminated_of_mem_dropLast
    {extractor : Extractor} {sql : String} {diagnostic : Diagnostic}
    (early : diagnostic ∈ (extractor.extract sql).diagnostics.dropLast) :
    diagnostic.fault.isUnterminated = false := by
  obtain ⟨others, place, parts, settled⟩ :=
    exists_diagnostics_extract extractor sql
  rw [parts] at early
  refine (settled diagnostic ?_).1
  cases fault : (tokenize sql).fault with
  | none =>
      rw [fault, Option.map_none, Option.toList_none, List.append_nil] at early
      exact List.dropLast_subset others early
  | some token =>
      rwa [fault, Option.map_some, Option.toList_some,
        List.dropLast_concat] at early

/-- Every extraction keeps what is promised. -/
theorem extract_keepsPromises (extractor : Extractor) (sql : String) :
    (extractor.extract sql).KeepsPromises := by
  refine ⟨?_, ?_, ?_, ?_⟩
  · intro table member
    obtain ⟨statement, -, found, read, rfl⟩ :=
      exists_clauses_of_mem_tables member
    exact (Statement.isWellFormed_table read).name
  · intro table member column inTable
    obtain ⟨statement, -, found, -, rfl⟩ := exists_clauses_of_mem_tables member
    obtain ⟨fragment, -, defined⟩ := Fragment.mem_columns_iff.mp inTable
    obtain ⟨first, rest, value, -, -, -, named, -, rfl⟩ :=
      Fragment.of_column_eq_some defined
    exact named
  · apply Extraction.nothing_behind_iff.mpr
    intro diagnostic early
    exact isUnterminated_of_mem_dropLast early
  · intro diagnostic member outside
    obtain ⟨others, place, parts, settled⟩ :=
      exists_diagnostics_extract extractor sql
    rw [parts] at member
    rcases List.mem_append.mp member with early | late
    · exact absurd outside (settled diagnostic early).2
    · rw [Option.mem_toList] at late
      obtain ⟨token, -, rfl⟩ := Option.map_eq_some_iff.mp late
      rfl

namespace Extractor

/-- A checked extraction is never refused. -/
theorem checked?_eq_some (extractor : Extractor) (sql : String) :
    extractor.checked? sql = some (extractor.extract sql) :=
  if_pos (Extraction.isConsistent_iff.mpr (extract_keepsPromises extractor sql))

end Extractor

end SqlCatalog
