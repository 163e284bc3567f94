import SqlCatalog.Proofs.Extraction.Accounting
import SqlCatalog.Proofs.Extraction.Placement
import SqlCatalog.Proofs.Fragment.Values

/-!
# Declared types

The type of a column stands behind the name and a blank and reaches up to the
next blank; nothing counts parentheses on the way.  A fragment is balanced, so
what the type leaves open is closed behind it: the type is cut inside its
parentheses exactly if that blank stands inside of them, as it does if the
arguments are written with a blank between them.  This holds unless a
parenthesis stands right behind the name, in the place of the blank: then the
type starts inside of that one and may hold its close.
-/

namespace SqlCatalog

namespace Fragment

/-! ## The tokens of a type -/

/-- The tokens that make up the declared type. -/
def typeTokens (fragment : List Token) : List Token :=
  (fragment.drop 2).takeWhile (· != Token.blank)

/-- The blank that ends the type stands inside of parentheses. -/
inductive CutsType : List Token → Prop
  | inside {first second : Token} {declared behind : List Token}
      (whole : Token.blank ∉ declared)
      (unclosed : 0 < Bracket.excess (first :: second :: declared)) :
      CutsType (first :: second :: (declared ++ Token.blank :: behind))

/-- The type is what its tokens spell, with or without the sign. -/
theorem dataType_cases (fragment : List Token) :
    dataType fragment = String.join (typeTokens fragment) ∨
      dataType fragment = String.join (typeTokens fragment) ++ " UNSIGNED" := by
  simp only [dataType]
  split
  case isTrue nothing =>
    left
    rw [typeTokens, List.isEmpty_iff.mp nothing]
    rfl
  case isFalse =>
    split
    · exact Or.inr rfl
    · exact Or.inl rfl

section Tokens

variable {first second : Token} {declared : List Token}

/-- A type without a blank behind it takes the rest of the fragment. -/
theorem typeTokens_of_not_mem
    (whole : Token.blank ∉ declared) :
    typeTokens (first :: second :: declared) = declared := by
  apply List.takeWhile_eq_self_iff.mpr
  intro token member
  exact bne_iff_ne.mpr (ne_of_mem_of_not_mem member whole)

theorem typeTokens_append
    (whole : Token.blank ∉ declared) (behind : List Token) :
    typeTokens (first :: second :: (declared ++ Token.blank :: behind)) =
      declared := by
  have passed : ∀ token ∈ declared, (token != Token.blank) = true :=
    fun token member => bne_iff_ne.mpr (ne_of_mem_of_not_mem member whole)
  simp [typeTokens, List.takeWhile_append_of_pos passed]

theorem CutsType.unclosed
    {fragment : List Token}
    (cuts : CutsType fragment) :
    0 < Bracket.excess (fragment.take 2 ++ typeTokens fragment) := by
  cases cuts with
  | inside whole unclosed =>
      rw [typeTokens_append whole]
      exact unclosed

/-- Between the name and the type no parenthesis is opened or closed. -/
theorem excess_eq_zero_of_quoted
    {rest : List Token}
    (balanced : Bracket.Balanced (first :: second :: rest))
    (quoted : first.isQuoted = true)
    (apart : second ≠ "(") :
    Bracket.excess [first, second] = 0 := by
  have name : Bracket.weight first = 0 := by
    apply Bracket.weight_eq_zero
    · exact ne_of_isQuoted quoted (by decide)
    · exact ne_of_isQuoted quoted (by decide)
  have bound := balanced.nonneg 2
  have noClose : second ≠ ")" := by
    rintro rfl
    have minus : Bracket.weight ")" = -1 := rfl
    simp [name, minus] at bound
  simp [name, Bracket.weight_eq_zero apart noClose]

end Tokens

/-- The tokens of a type are balanced exactly if no blank cuts the type. -/
theorem balanced_typeTokens_iff
    {first second : Token} {rest : List Token}
    (balanced : Bracket.Balanced (first :: second :: rest))
    (quoted : first.isQuoted = true)
    (apart : second ≠ "(") :
    Bracket.Balanced (typeTokens (first :: second :: rest)) ↔
      ¬CutsType (first :: second :: rest) := by
  have level := excess_eq_zero_of_quoted balanced quoted apart
  have inner : Bracket.Balanced rest :=
    (Bracket.Balanced.of_append
      (show Bracket.Balanced ([first, second] ++ rest) from balanced) level).2
  constructor
  · intro settled cuts
    have unclosed := cuts.unclosed
    rw [Bracket.excess_append, settled.settled] at unclosed
    change 0 < Bracket.excess [first, second] + 0 at unclosed
    omega
  · intro uncut
    by_cases spaced : Token.blank ∈ rest
    · obtain ⟨declared, behind, rfl, whole⟩ := List.eq_append_cons_of_mem spaced
      have bound : ¬0 < Bracket.excess ([first, second] ++ declared) :=
        fun unclosed => uncut (.inside whole unclosed)
      have opened : 0 ≤ Bracket.excess declared := by
        simpa using inner.nonneg declared.length
      rw [Bracket.excess_append, level] at bound
      rw [typeTokens_append whole]
      exact (inner.of_append (by omega)).1
    · rwa [typeTokens_of_not_mem spaced]

/-- The parentheses of a type have their partners exactly if it is not cut. -/
theorem hasClose_typeTokens_iff
    {first second : Token} {rest : List Token}
    (balanced : Bracket.Balanced (first :: second :: rest))
    (quoted : first.isQuoted = true)
    (apart : second ≠ "(") :
    (∀ front behind,
        typeTokens (first :: second :: rest) = front ++ "(" :: behind →
          Bracket.HasClose behind) ↔
      ¬CutsType (first :: second :: rest) := by
  constructor
  · intro closed cuts
    have level := excess_eq_zero_of_quoted balanced quoted apart
    have unclosed := cuts.unclosed
    have bound := Bracket.excess_le_zero_of_hasClose closed
    rw [Bracket.excess_append] at unclosed
    change 0 < Bracket.excess [first, second] + _ at unclosed
    omega
  · intro uncut front behind parts
    have settled := (balanced_typeTokens_iff balanced quoted apart).mpr uncut
    rw [parts] at settled
    exact settled.hasClose

/--
What is known of the type of a column from the fragment that defines it.  Where
a parenthesis stands right behind the name, the type starts inside of it and
may hold its close.
-/
structure IsTypeOf (fragment : List Token) (text : String) : Prop where
  /-- The type is spelled by its tokens, with or without the sign. -/
  spelled :
    text = String.join (typeTokens fragment) ∨
      text = String.join (typeTokens fragment) ++ " UNSIGNED"
  /-- The type is balanced unless a blank cuts it. -/
  balanced : fragment[1]? ≠ some "(" →
    (Bracket.Balanced (typeTokens fragment) ↔ ¬CutsType fragment)
  /-- All parentheses of the type have their partners unless a blank cuts it. -/
  closed : fragment[1]? ≠ some "(" →
    ((∀ front behind, typeTokens fragment = front ++ "(" :: behind →
        Bracket.HasClose behind) ↔
      ¬CutsType fragment)

theorem isTypeOf_column
    {fragment : List Token} {found : Column}
    (read : column fragment = .ok (some found))
    (balanced : Bracket.Balanced fragment) :
    IsTypeOf fragment found.dataType := by
  obtain ⟨first, rest, value, rfl, quoted, more, -, -, rfl⟩ :=
    of_column_eq_some read
  obtain ⟨second, rest, rfl⟩ := List.exists_cons_of_ne_nil more
  refine ⟨dataType_cases _, ?_, ?_⟩
  · intro apart
    exact balanced_typeTokens_iff balanced quoted (by simpa using apart)
  · intro apart
    exact hasClose_typeTokens_iff balanced quoted (by simpa using apart)

end Fragment

/-! ## Whole texts -/

/--
Every column of every table takes its type from a fragment that defines it.
Unless a parenthesis stands right behind the name there, the type is cut inside
its parentheses exactly if the blank that ends it stands inside of them.
-/
theorem extract_declaredType (extractor : Extractor) (sql : String) :
    ∀ table ∈ (extractor.extract sql).tables,
      ∃ statement ∈ Statement.split (extractor.canonical sql),
        ∃ found, Statement.clauses statement = .ok (some found) ∧
          table = Statement.withColumns found.table
            (Fragment.split found.body) ∧
          ∀ column ∈ table.columns, ∃ fragment ∈ Fragment.split found.body,
            Fragment.column fragment = .ok (some column) ∧
              Fragment.IsTypeOf fragment column.dataType := by
  intro table member
  obtain ⟨statement, listed, found, read, rfl⟩ :=
    exists_clauses_of_mem_tables member
  refine ⟨statement, listed, found, read, rfl, ?_⟩
  intro column inTable
  obtain ⟨fragment, inBody, defined⟩ := Fragment.mem_columns_iff.mp inTable
  have balanced :=
    Fragment.balanced_of_mem_split (Statement.balanced_body read) inBody
  exact ⟨fragment, inBody, defined, Fragment.isTypeOf_column defined balanced⟩

/-- The same arguments with and without a blank between them. -/
theorem extract_declaredType_cut :
    let sql :=
      "CREATE TABLE \x60t\x60 (\x60a\x60 DECIMAL(10,2) UNSIGNED, \x60b\x60 DECIMAL(10, 2))"
    let whole : Column := { name := "a", dataType := "DECIMAL(10,2) UNSIGNED" }
    let cut : Column := { name := "b", dataType := "DECIMAL(10," }
    let table : Table := { name := "t", columns := [whole, cut] }
    ((Extractor.mk 10).extract sql).tables = [table] ∧
      (∃ fragment, Fragment.column fragment = .ok (some whole) ∧
        Bracket.Balanced (Fragment.typeTokens fragment)) ∧
      ∃ fragment, Fragment.column fragment = .ok (some cut) ∧
        ¬Bracket.Balanced (Fragment.typeTokens fragment) := by
  intro sql whole cut table
  have tables : ((Extractor.mk 10).extract sql).tables = [table] := by
    decide +kernel
  have statements :
      Statement.split ((Extractor.mk 10).canonical sql) =
        [Statement.ofText sql] := by
    decide +kernel
  let first : List Token :=
    ["\x60a\x60", " ", "DECIMAL", "(", "10", ",", "2", ")", " ", "UNSIGNED"]
  let second : List Token :=
    ["\x60b\x60", " ", "DECIMAL", "(", "10", ",", " ", "2", ")"]
  have reading :
      Statement.read (Statement.ofText sql) =
        .definition { name := "t" } [first, second] := by
    decide +kernel
  obtain ⟨statement, listed, found, read, -, columns⟩ :=
    extract_declaredType ⟨10⟩ sql table (by rw [tables]; simp)
  rw [statements, List.mem_singleton] at listed
  have fragments : Fragment.split found.body = [first, second] := by
    rw [← listed, Statement.read, read] at reading
    exact (Statement.Reading.definition.inj reading).2
  rw [fragments] at columns
  have firstColumn : Fragment.column first = .ok (some whole) := by
    decide +kernel
  have secondColumn : Fragment.column second = .ok (some cut) := by
    decide +kernel
  refine ⟨tables, ?_, ?_⟩
  · obtain ⟨fragment, inBody, defined, type⟩ := columns whole (by simp [table])
    refine ⟨fragment, defined, ?_⟩
    simp only [List.mem_cons, List.not_mem_nil, or_false] at inBody
    rcases inBody with rfl | rfl
    · refine (type.balanced (by decide)).mpr ?_
      intro cuts
      exact absurd cuts.unclosed (by decide)
    · rw [secondColumn] at defined
      exact absurd defined (by decide)
  · obtain ⟨fragment, inBody, defined, type⟩ := columns cut (by simp [table])
    refine ⟨fragment, defined, ?_⟩
    simp only [List.mem_cons, List.not_mem_nil, or_false] at inBody
    rcases inBody with rfl | rfl
    · rw [firstColumn] at defined
      exact absurd defined (by decide)
    · rw [type.balanced (by decide), not_not]
      have declared : Token.blank ∉ ["DECIMAL", "(", "10", ","] := by decide
      exact .inside declared (by decide)

/-- A blank between the arguments leaves the parenthesis of the type open. -/
theorem dataType_cut_at_blank :
    let sql := "CREATE TABLE \x60t\x60 (\x60a\x60 DECIMAL(10, 2) NOT NULL)"
    let fragment : List Token :=
      ["\x60a\x60", " ", "DECIMAL", "(", "10", ",", " ", "2", ")", " ", "NOT",
        " ", "NULL"]
    Statement.read (Statement.ofText sql) =
        .definition { name := "t" } [fragment] ∧
      ((Extractor.mk 10).extract sql).tables.flatMap Table.columns =
        [{ name := "a", dataType := "DECIMAL(10,", notNull := true }] ∧
      Fragment.typeTokens fragment = ["DECIMAL", "("] ++ ["10", ","] ∧
      ¬Bracket.HasClose ["10", ","] := by
  refine ⟨by decide +kernel, by decide +kernel, by decide, ?_⟩
  rintro ⟨inside, behind, parts, -⟩
  have close : ")" ∈ ["10", ","] := by
    rw [parts]
    simp
  exact absurd close (by decide)

end SqlCatalog
