import SqlCatalog.Extraction.Extractor
import SqlCatalog.Proofs.Lexing.Seam
import SqlCatalog.Proofs.Statement.Faults

/-!
# Extraction from canonical tokens

An extraction depends on a text only through its canonical tokens and the
token that was left open.  `Extraction.ofTokens` is this dependence, and
`extract_eq_ofTokens` says that nothing else is looked at.

Two facts about it carry the results on whole texts.  The position of the open
token shows in the diagnostics and nowhere else, and statements on both sides
of a semicolon are read independently, the later ones under later numbers.
-/

namespace SqlCatalog

/-! ## Diagnostics that were moved -/

/-- A fault whose open token, if there is one, was moved. -/
def Fault.moved (distance : Int) : Fault → Fault
  | unterminated token => unterminated (token.moved distance)
  | fault => fault

/-- A place with a number of statements in front. -/
def Location.moved (statements : Nat) : Location → Location
  | input => input
  | statement number => statement (statements + number)
  | column number fragment => column (statements + number) fragment

/-- A diagnostic of a text that has something else in front. -/
def Diagnostic.moved (statements : Nat) (distance : Int)
    (diagnostic : Diagnostic) : Diagnostic where
  location := diagnostic.location.moved statements
  fault := diagnostic.fault.moved distance

/-! ## The dependence on canonical tokens -/

namespace Extractor

/-- The statement that an open token spoils, by its number. -/
def broken? (tokens : List Token) (fault : Option Unterminated) :
    Option (Nat × Unterminated) :=
  fault.bind fun token =>
    (lastStatement? tokens).map fun place => (place, token)

/-- The open token if it spoils no statement. -/
def dangling? (tokens : List Token) (fault : Option Unterminated) :
    Option Unterminated :=
  if (broken? tokens fault).isSome then none else fault

end Extractor

open Extractor

/-- The extraction from canonical tokens and the token that was left open. -/
def Extraction.ofTokens (tokens : List Token) (fault : Option Unterminated) :
    Extraction where
  tables :=
    (Statement.split tokens).zipIdx.filterMap fun (statement, number) =>
      (outcome (broken? tokens fault) statement number).table?
  diagnostics :=
    ((Statement.split tokens).zipIdx.flatMap fun (statement, number) =>
        (outcome (broken? tokens fault) statement number).diagnostics number) ++
      ((dangling? tokens fault).map fun token =>
        Diagnostic.mk .input (.unterminated token)).toList

/-- The canonical tokens that an extractor reads. -/
def Extractor.canonical (extractor : Extractor) (sql : String) : List Token :=
  Token.normalize extractor.minTokens (tokenize sql).tokens

theorem zipIdx_map_zipIdx
    {Item Image : Type}
    (image : Item × Nat → Image) (items : List Item) (start : Nat) :
    ((items.zipIdx start).map image).zipIdx start =
      (items.zipIdx start).map fun entry => (image entry, entry.2) := by
  induction items generalizing start with
  | nil => rfl
  | cons item items hypothesis => simp [hypothesis]

/-- An extraction looks at the canonical tokens and the open token only. -/
theorem extract_eq_ofTokens (extractor : Extractor) (sql : String) :
    extractor.extract sql =
      .ofTokens (extractor.canonical sql) (tokenize sql).fault := by
  simp only [extract, Report.extraction, Extraction.ofTokens,
    Extraction.mk.injEq]
  constructor
  · simp only [Report.tables, report, List.filterMap_map]
    rfl
  · simp only [Report.diagnostics, report, zipIdx_map_zipIdx,
      List.flatMap_map]
    rfl

/-! ## What moves with the text in front -/

theorem Fault.moved_eq_self
    {fault : Fault}
    (closed : fault.isUnterminated = false)
    (distance : Int) :
    fault.moved distance = fault := by
  cases fault with
  | unterminated token => cases closed
  | _ => rfl

theorem Statement.isUnterminated_of_clauses_error
    {statement : List Token} {fault : Fault}
    (failed : Statement.clauses statement = .error fault) :
    fault.isUnterminated = false := by
  rcases Statement.clauses_error failed with
    (rfl | ⟨index, rfl⟩) | rfl | rfl <;> rfl

/-- A fault that is listed is that of the fragment at its place. -/
theorem Fragment.of_mem_faults
    {fragments : List (List Token)} {place : Nat} {fault : Fault}
    (member : (place, fault) ∈ Fragment.faults fragments) :
    ∃ fragment ∈ fragments, Fragment.column fragment = .error fault := by
  simp only [Fragment.faults, List.mem_filterMap, Option.map_eq_some_iff] at member
  rcases member with ⟨⟨fragment, number⟩, listed, found, failed, same⟩
  cases same
  refine ⟨fragment, List.fst_mem_of_mem_zipIdx listed, ?_⟩
  unfold Fragment.fault? at failed
  split at failed
  · cases failed
  · cases failed
    assumption

theorem Fragment.isUnterminated_of_mem_faults
    {fragments : List (List Token)} {place : Nat} {fault : Fault}
    (member : (place, fault) ∈ Fragment.faults fragments) :
    fault.isUnterminated = false := by
  obtain ⟨fragment, -, failed⟩ := Fragment.of_mem_faults member
  rcases Fragment.column_error failed with rfl | rfl | rfl <;> rfl

/-- Reading finds the same faults under a later number. -/
theorem diagnostics_read_moved
    (statement : List Token) (before number : Nat) (distance : Int) :
    (Outcome.read (Statement.read statement)).diagnostics (before + number) =
      ((Outcome.read (Statement.read statement)).diagnostics number).map
        (Diagnostic.moved before distance) := by
  unfold Statement.read
  split
  case h_1 fault failed =>
    have closed := Statement.isUnterminated_of_clauses_error failed
    simp [Outcome.diagnostics, Diagnostic.moved, Location.moved,
      Fault.moved_eq_self closed]
  case h_2 => rfl
  case h_3 found _ =>
    simp only [Outcome.diagnostics, List.map_map]
    apply List.map_congr_left
    rintro ⟨place, fault⟩ member
    have closed := Fragment.isUnterminated_of_mem_faults member
    simp [Diagnostic.moved, Location.moved, Fault.moved_eq_self closed]

/-- What reading leaves out is a statement or some fragments of its body. -/
theorem of_mem_read
    {statement : List Token} {number : Nat} {diagnostic : Diagnostic}
    (member : diagnostic ∈
      (Outcome.read (Statement.read statement)).diagnostics number) :
    (∃ fault, Statement.clauses statement = .error fault ∧
      diagnostic = ⟨.statement number, fault⟩) ∨
    ∃ clauses place fault, Statement.clauses statement = .ok (some clauses) ∧
      (place, fault) ∈ Fragment.faults (Fragment.split clauses.body) ∧
      diagnostic = ⟨.column number place, fault⟩ := by
  unfold Statement.read at member
  split at member
  case h_1 fault failed =>
    exact Or.inl ⟨fault, failed, List.mem_singleton.mp member⟩
  case h_2 => cases member
  case h_3 clauses found =>
    rcases List.mem_map.mp member with ⟨⟨place, fault⟩, listed, rfl⟩
    exact Or.inr ⟨clauses, place, fault, found, listed, rfl⟩

theorem isUnterminated_of_mem_read
    {statement : List Token} {number : Nat} {diagnostic : Diagnostic}
    (member : diagnostic ∈
      (Outcome.read (Statement.read statement)).diagnostics number) :
    diagnostic.fault.isUnterminated = false := by
  rcases of_mem_read member with
    ⟨fault, failed, rfl⟩ | ⟨clauses, place, fault, -, listed, rfl⟩
  · exact Statement.isUnterminated_of_clauses_error failed
  · exact Fragment.isUnterminated_of_mem_faults listed

/-- Where an open token is reported. -/
def openPlace (tokens : List Token) : Location :=
  ((lastStatement? tokens).map Location.statement).getD .input

/-- A diagnostic is about the open token or comes from reading a statement. -/
theorem of_mem_ofTokens
    {tokens : List Token} {fault : Option Unterminated}
    {diagnostic : Diagnostic}
    (member : diagnostic ∈ (Extraction.ofTokens tokens fault).diagnostics) :
    (∃ token, fault = some token ∧
      diagnostic = ⟨openPlace tokens, .unterminated token⟩) ∨
    ∃ statement number, (statement, number) ∈ (Statement.split tokens).zipIdx ∧
      diagnostic ∈
        (Outcome.read (Statement.read statement)).diagnostics number := by
  rcases List.mem_append.mp member with early | late
  · rcases List.mem_flatMap.mp early with
      ⟨⟨statement, number⟩, listed, reported⟩
    simp only [outcome] at reported
    split at reported
    case h_1 place token broken =>
      split at reported
      case isTrue same =>
        obtain rfl := List.mem_singleton.mp reported
        rcases Option.bind_eq_some_iff.mp broken with ⟨spoiler, found, rest⟩
        rcases Option.map_eq_some_iff.mp rest with ⟨last, here, pair⟩
        cases pair
        refine Or.inl ⟨token, found, ?_⟩
        rw [openPlace, here, same]
        rfl
      case isFalse => exact Or.inr ⟨statement, number, listed, reported⟩
    case h_2 => exact Or.inr ⟨statement, number, listed, reported⟩
  · rw [Option.mem_toList] at late
    rcases Option.map_eq_some_iff.mp late with ⟨token, dangling, rfl⟩
    simp only [dangling?] at dangling
    split at dangling
    case isTrue => cases dangling
    case isFalse unbroken =>
      refine Or.inl ⟨token, dangling, ?_⟩
      have outside : lastStatement? tokens = none := by
        simpa [broken?, dangling] using unbroken
      rw [openPlace, outside]
      rfl

/-- An open token that is reported is the one that was left open. -/
theorem fault_of_mem_ofTokens
    {tokens : List Token} {fault : Option Unterminated}
    {diagnostic : Diagnostic} {token : Unterminated}
    (member : diagnostic ∈ (Extraction.ofTokens tokens fault).diagnostics)
    (unclosed : diagnostic.fault = .unterminated token) :
    fault = some token := by
  rcases of_mem_ofTokens member with
    ⟨spoiler, found, rfl⟩ | ⟨statement, number, -, reported⟩
  · cases unclosed
    exact found
  · have closed := isUnterminated_of_mem_read reported
    rw [unclosed] at closed
    cases closed

/-- An open token is reported at a position behind each closed token. -/
theorem Placed.le_position
    {front token behind : String} {kind : Lexeme.Kind} {before : List Lexeme}
    (placed : Placed front token behind kind before)
    (closed : Lexeme.isOpen ⟨kind, token.toList⟩ = false)
    {extractor : Extractor} {diagnostic : Diagnostic} {spoiler : Unterminated}
    (member : diagnostic ∈
      (extractor.extract (front ++ token ++ behind)).diagnostics)
    (unclosed : diagnostic.fault = .unterminated spoiler) :
    byteLength (front ++ token).toList ≤ spoiler.position := by
  rw [extract_eq_ofTokens] at member
  have found := fault_of_mem_ofTokens member unclosed
  rw [placed.fault closed] at found
  exact le_position_of_lastFault? found

/-- A spoiled statement with others in front of it. -/
def movedPlace (before : Nat) (distance : Int) (place : Nat × Unterminated) :
    Nat × Unterminated :=
  (before + place.1, place.2.moved distance)

/-- The outcome of a statement changes with its number in no other way. -/
theorem outcome_moved
    (broken : Option (Nat × Unterminated)) (statement : List Token)
    (before number : Nat) (distance : Int) :
    (outcome (broken.map (movedPlace before distance)) statement
        (before + number)).table? =
      (outcome broken statement number).table? ∧
    (outcome (broken.map (movedPlace before distance)) statement
        (before + number)).diagnostics (before + number) =
      ((outcome broken statement number).diagnostics number).map
        (Diagnostic.moved before distance) := by
  have read := diagnostics_read_moved statement before number distance
  cases broken with
  | none => exact ⟨rfl, read⟩
  | some place =>
      by_cases same : number = place.1
      · simp [outcome, movedPlace, same, Outcome.table?, Outcome.diagnostics,
          Diagnostic.moved, Location.moved, Fault.moved]
      · simpa [outcome, movedPlace, same] using read

/-- Statements with others in front of them yield the same tables. -/
theorem tables_moved
    (broken : Option (Nat × Unterminated)) (statements : List (List Token))
    (before : Nat) (distance : Int) :
    ((statements.zipIdx before).filterMap fun (statement, number) =>
        (outcome (broken.map (movedPlace before distance)) statement
          number).table?) =
      statements.zipIdx.filterMap fun (statement, number) =>
        (outcome broken statement number).table? := by
  rw [List.zipIdx_eq_map_add, List.filterMap_map]
  congr 1
  funext entry
  obtain ⟨statement, number⟩ := entry
  exact (outcome_moved broken statement before number distance).1

/-- Statements with others in front of them yield the moved diagnostics. -/
theorem diagnostics_moved
    (broken : Option (Nat × Unterminated)) (statements : List (List Token))
    (before : Nat) (distance : Int) :
    ((statements.zipIdx before).flatMap fun (statement, number) =>
        (outcome (broken.map (movedPlace before distance)) statement
          number).diagnostics number) =
      (statements.zipIdx.flatMap fun (statement, number) =>
        (outcome broken statement number).diagnostics number).map
          (Diagnostic.moved before distance) := by
  rw [List.zipIdx_eq_map_add, List.flatMap_map, List.map_flatMap]
  congr 1
  funext entry
  obtain ⟨statement, number⟩ := entry
  exact (outcome_moved broken statement before number distance).2

/-- An open token that spoils no statement is reported where it is moved to. -/
theorem map_dangling_moved
    (dangling : Option Unterminated) (before : Nat) (distance : Int) :
    ((dangling.map (Unterminated.moved distance)).map fun token =>
        Diagnostic.mk .input (.unterminated token)).toList =
      (dangling.map fun token =>
        Diagnostic.mk .input (.unterminated token)).toList.map
          (Diagnostic.moved before distance) := by
  cases dangling <;> rfl

/--
Where the last statement has a number of others in front, so has the one that
an open token spoils.
-/
theorem broken?_moved
    {tokens later : List Token} {before : Nat}
    (last : lastStatement? later = (lastStatement? tokens).map (before + ·))
    (fault : Option Unterminated) (distance : Int) :
    broken? later (fault.map (Unterminated.moved distance)) =
      (broken? tokens fault).map (movedPlace before distance) := by
  unfold broken?
  rw [last]
  cases fault with
  | none => rfl
  | some token => cases lastStatement? tokens <;> rfl

/-- An open token that spoils no statement spoils none where it is moved to. -/
theorem dangling?_moved
    {tokens later : List Token} {before : Nat}
    (last : lastStatement? later = (lastStatement? tokens).map (before + ·))
    (fault : Option Unterminated) (distance : Int) :
    dangling? later (fault.map (Unterminated.moved distance)) =
      (dangling? tokens fault).map (Unterminated.moved distance) := by
  unfold dangling?
  rw [broken?_moved last, Option.isSome_map]
  split <;> rfl

/-- The position of the open token shows in the diagnostics alone. -/
theorem ofTokens_moved
    (tokens : List Token) (fault : Option Unterminated) (distance : Int) :
    Extraction.ofTokens tokens (fault.map (Unterminated.moved distance)) =
      { tables := (Extraction.ofTokens tokens fault).tables
        diagnostics := (Extraction.ofTokens tokens fault).diagnostics.map
          (Diagnostic.moved 0 distance) } := by
  have last :
      lastStatement? tokens = (lastStatement? tokens).map (0 + ·) := by
    simp
  simp only [Extraction.ofTokens, broken?_moved last, dangling?_moved last,
    List.map_append]
  rw [tables_moved, diagnostics_moved, map_dangling_moved]

end SqlCatalog
