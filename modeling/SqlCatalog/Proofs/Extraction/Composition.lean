import SqlCatalog.Proofs.Extraction.Canonical
import SqlCatalog.Proofs.Statement.Cutting
import SqlCatalog.Proofs.Token.Squeeze

/-!
# Texts joined by a semicolon

Two texts with a semicolon between them are read as if each stood alone.  The
scanner starts afresh behind the semicolon, no run of blanks reaches across
it, and the open token of the second text spoils the same statement as before.
Only the numbers of the later statements and the position of the open token
tell that something stands in front.
-/

namespace SqlCatalog

/-! ## Canonical tokens on both sides -/

namespace Extractor

/-- An open token spoils the same statement, which has a later number. -/
theorem lastStatement?_append_semicolon (front back : List Token) :
    lastStatement? (front ++ ";" :: back) =
      (lastStatement? back).map ((Statement.split front).length + ·) := by
  unfold lastStatement?
  rw [Statement.tail_append_semicolon, Statement.split_append_semicolon,
    List.length_append]
  cases held : (Token.trim (Statement.tail back)).isEmpty with
  | true => rfl
  | false =>
      have some := List.length_pos_iff.mpr (Statement.split_ne_nil_of_tail held)
      cases count : (Statement.split back).length with
      | zero => omega
      | succ before => simp

end Extractor

open Extractor

/-- With nothing left open every statement is read. -/
theorem outcome_of_ne
    {broken : Option (Nat × Unterminated)} {number : Nat}
    (other : ∀ place ∈ broken, number ≠ place.1)
    (statement : List Token) :
    outcome broken statement number = .read (Statement.read statement) := by
  cases broken with
  | none => rfl
  | some place =>
      have apart := other place rfl
      simp [outcome, apart]

/-- A spoiled statement behind all statements of a text does not concern it. -/
theorem ofTokens_of_behind
    {tokens : List Token} {broken : Option (Nat × Unterminated)}
    (behind : ∀ place ∈ broken, (Statement.split tokens).length ≤ place.1) :
    Extraction.ofTokens tokens none =
      { tables :=
          (Statement.split tokens).zipIdx.filterMap fun (statement, number) =>
            (outcome broken statement number).table?
        diagnostics :=
          (Statement.split tokens).zipIdx.flatMap fun (statement, number) =>
            (outcome broken statement number).diagnostics number } := by
  have early :
      ∀ entry ∈ (Statement.split tokens).zipIdx,
        outcome none entry.1 entry.2 = outcome broken entry.1 entry.2 := by
    intro entry member
    have bound := List.snd_lt_of_mem_zipIdx member
    refine (outcome_of_ne ?_ entry.1).symm
    intro place found
    have later := behind place found
    omega
  have tables :=
    List.filterMap_congr fun entry member =>
      congrArg Outcome.table? (early entry member)
  have diagnostics :=
    List.flatMap_congr fun entry member =>
      congrArg (Outcome.diagnostics entry.2) (early entry member)
  rw [Extraction.ofTokens, Extraction.mk.injEq]
  exact ⟨tables, (List.append_nil _).trans diagnostics⟩

/-- Canonical tokens on both sides of a semicolon are read independently. -/
theorem ofTokens_append_semicolon
    (front back : List Token) (fault : Option Unterminated) (distance : Int) :
    Extraction.ofTokens (front ++ ";" :: back)
        (fault.map (Unterminated.moved distance)) =
      { tables :=
          (Extraction.ofTokens front none).tables ++
            (Extraction.ofTokens back fault).tables
        diagnostics :=
          (Extraction.ofTokens front none).diagnostics ++
            (Extraction.ofTokens back fault).diagnostics.map
              (Diagnostic.moved (Statement.split front).length distance) } := by
  have last := lastStatement?_append_semicolon front back
  -- The spoiled statement comes behind all those of the front.
  have behind :
      ∀ place ∈ (broken? back fault).map
          (movedPlace (Statement.split front).length distance),
        (Statement.split front).length ≤ place.1 := by
    intro place found
    rcases Option.map_eq_some_iff.mp found with ⟨inner, -, rfl⟩
    exact Nat.le_add_right _ _
  rw [ofTokens_of_behind behind]
  simp only [Extraction.ofTokens, broken?_moved last, dangling?_moved last,
    Statement.split_append_semicolon, List.zipIdx_append,
    List.filterMap_append, List.flatMap_append, List.map_append,
    Nat.zero_add]
  rw [tables_moved, diagnostics_moved,
    map_dangling_moved _ (Statement.split front).length, List.append_assoc]

/-! ## The scanner at a semicolon -/

/-- The lexeme of a semicolon. -/
def semicolon : Lexeme := ⟨.symbol, [';']⟩

/-- A semicolon is a lexeme of its own, whatever follows. -/
theorem standsBefore_semicolon (rest : List Char) :
    semicolon.StandsBefore rest := by
  refine .symbol (by decide) ?_
  intro next _
  simp [joins, longSymbols]

/-- Whether the token is a comment that a line feed ends. -/
def Token.isLineComment (token : Token) : Bool :=
  ['#'].isPrefixOf token.toList || ['-', '-'].isPrefixOf token.toList

theorem Lexeme.StandsBefore.isLineComment_token
    {lexeme : Lexeme} {rest : List Char}
    (stands : lexeme.StandsBefore rest)
    (line : lexeme.kind = .lineComment) :
    lexeme.token.isLineComment = true := by
  cases stands with
  | @lineComment first body _ opening _ _ =>
      rcases opening with rfl | ⟨rfl, second⟩
      · simp [Lexeme.token, Token.isLineComment]
      · cases body with
        | nil => simp at second
        | cons next body =>
            obtain rfl : next = '-' := by simpa using second
            simp [Lexeme.token, Token.isLineComment]
  | _ => cases line

/--
A text that leaves nothing open and does not end in a line comment is read up
to a semicolon behind it as if it stood alone.
-/
theorem lexemes_append_semicolon
    {front : List Char}
    (closed : ∀ lexeme ∈ lexemes front, lexeme.isOpen = false)
    (ended : ∀ lexeme ∈ (lexemes front).getLast?,
      lexeme.kind ≠ .lineComment)
    (back : List Char) :
    lexemes (front ++ ';' :: back) =
      lexemes front ++ semicolon :: lexemes back := by
  have alone : Reads (lexemes front) [] := reads_lexemes front
  have last :
      ∀ lexeme ∈ (lexemes front).getLast?,
        lexeme.StandsBefore (';' :: back) := by
    intro lexeme final
    have member := List.mem_of_getLast? final
    have stands := alone.standsBefore_of_getLast? final
    refine stands.before_neutral (closed lexeme member) (by decide) ?_ ?_ back
    · intro line
      exact absurd line (ended lexeme final)
    · intro _
      decide
  have reads := alone.swap (by simp) last
  have text : ';' :: back = semicolon.text ++ back := rfl
  rw [← spelling_lexemes front, lexemes_of_reads (spelling_lexemes front ▸ reads), text,
    lexemes_of_standsBefore (standsBefore_semicolon back), spelling_lexemes]

/-- The canonical tokens of both texts stand around that of the semicolon. -/
theorem normalize_append_semicolon
    {minTokens : Nat} {front back : List Token}
    (enoughFront : minTokens ≤ front.length)
    (enoughBack : minTokens ≤ back.length) :
    Token.normalize minTokens (front ++ ";" :: back) =
      Token.normalize minTokens front ++
        ";" :: Token.normalize minTokens back := by
  have enough : minTokens ≤ (front ++ ";" :: back).length := by
    rw [List.length_append]
    omega
  have itself : Token.canonical ";" = ";" := by decide
  have other : (";" : Token) ≠ Token.blank := by decide
  rw [Token.normalize_of_le enough, Token.normalize_of_le enoughFront,
    Token.normalize_of_le enoughBack, List.map_append, List.map_cons, itself,
    Token.squeeze_append_cons_of_ne other]

/-- What the second text leaves open lies behind the first and a semicolon. -/
theorem lastFault?_append_semicolon
    {front : List Lexeme}
    (closed : Lexeme.lastFault? 0 front = none)
    (back : List Lexeme) :
    Lexeme.lastFault? 0 (front ++ semicolon :: back) =
      (Lexeme.lastFault? 0 back).map
        (Unterminated.moved (byteLength (spelling front) + 1)) := by
  have width : byteLength semicolon.text = 1 := rfl
  have complaint (position : Nat) : semicolon.fault? position = none := rfl
  rw [lastFault?_append, closed, Lexeme.lastFault?, complaint, width,
    lastFault?_moved 0]
  simp

/-! ## Whole texts -/

section Joined

variable {front back : String}

/-- A text whose last token is no line comment has no such lexeme at its end. -/
theorem kind_ne_lineComment_of_ended
    (ended : ∀ token ∈ (tokenize front).tokens.getLast?,
      token.isLineComment = false) :
    ∀ lexeme ∈ (lexemes front.toList).getLast?, lexeme.kind ≠ .lineComment := by
  intro lexeme final line
  have shown : lexeme.token ∈ (tokenize front).tokens.getLast? := by
    rw [tokenize_tokens, List.getLast?_map, final]
    rfl
  have stands := (reads_lexemes front.toList).standsBefore_of_getLast? final
  have comment := stands.isLineComment_token line
  rw [ended lexeme.token shown] at comment
  cases comment

/-- Both texts are scanned on their own. -/
theorem lexemes_joined
    (closed : (tokenize front).fault = none)
    (ended : ∀ token ∈ (tokenize front).tokens.getLast?,
      token.isLineComment = false)
    (back : String) :
    lexemes (front ++ ";" ++ back).toList =
      lexemes front.toList ++ semicolon :: lexemes back.toList := by
  rw [tokenize_fault, lastFault?_eq_none_iff] at closed
  rw [← lexemes_append_semicolon closed (kind_ne_lineComment_of_ended ended)]
  simp

/-- The canonical tokens of both texts stand around a semicolon. -/
theorem canonical_joined
    {extractor : Extractor}
    (enoughFront :
      extractor.minTokens ≤ (tokenize front).tokens.length)
    (enoughBack :
      extractor.minTokens ≤ (tokenize back).tokens.length)
    (seam : lexemes (front ++ ";" ++ back).toList =
      lexemes front.toList ++ semicolon :: lexemes back.toList) :
    extractor.canonical (front ++ ";" ++ back) =
      extractor.canonical front ++ ";" :: extractor.canonical back := by
  have token : semicolon.token = ";" := rfl
  rw [Extractor.canonical, tokenize_tokens, seam, List.map_append,
    List.map_cons, token]
  exact normalize_append_semicolon enoughFront enoughBack

/-- The second text leaves open what the whole does, at a later position. -/
theorem fault_joined
    (closed : (tokenize front).fault = none)
    (seam : lexemes (front ++ ";" ++ back).toList =
      lexemes front.toList ++ semicolon :: lexemes back.toList) :
    (tokenize (front ++ ";" ++ back)).fault =
      (tokenize back).fault.map
        (Unterminated.moved (byteLength front.toList + 1)) := by
  rw [tokenize_fault] at closed
  rw [tokenize_fault, tokenize_fault, seam, lastFault?_append_semicolon closed,
    spelling_lexemes]

end Joined

/--
Extraction takes texts joined by a semicolon to their tables and diagnostics
one after the other, provided that the first text closes all its literals and
comments and that both have tokens enough.
-/
theorem extract_append_semicolon
    (extractor : Extractor) (front back : String)
    (enoughFront :
      extractor.minTokens ≤ (tokenize front).tokens.length)
    (enoughBack :
      extractor.minTokens ≤ (tokenize back).tokens.length)
    (closed : (tokenize front).fault = none)
    (ended : ∀ token ∈ (tokenize front).tokens.getLast?,
      token.isLineComment = false) :
    extractor.extract (front ++ ";" ++ back) =
      { tables :=
          (extractor.extract front).tables ++ (extractor.extract back).tables
        diagnostics :=
          (extractor.extract front).diagnostics ++
            (extractor.extract back).diagnostics.map
              (Diagnostic.moved
                (Statement.split (extractor.canonical front)).length
                (byteLength front.toList + 1)) } := by
  have seam := lexemes_joined closed ended back
  rw [extract_eq_ofTokens, extract_eq_ofTokens, extract_eq_ofTokens,
    canonical_joined enoughFront enoughBack seam, fault_joined closed seam,
    ofTokens_append_semicolon, closed]

/--
A faulty column in front keeps its number, and the open literal behind it is
reported where it stands in the whole text.
-/
theorem extract_append_open_literal :
    ((tokenize "CREATE TABLE 'a' ('x') /* ; */").fault = none ∧
      (tokenize "SELECT 'open").fault = some (.literal 7)) ∧
    (Extractor.mk 3).extract
        ("CREATE TABLE 'a' ('x') /* ; */" ++ ";" ++ "SELECT 'open") =
      { tables := [{ name := "a" }]
        diagnostics :=
          [⟨.column 0 0, .bareColumnName 1⟩,
            ⟨.statement 1, .unterminated (.literal 38)⟩] } := by
  refine ⟨by decide +kernel, ?_⟩
  rw [extract_append_semicolon ⟨3⟩ _ _ (by decide +kernel)
    (by decide +kernel) (by decide +kernel) (by decide +kernel)]
  decide +kernel

end SqlCatalog
