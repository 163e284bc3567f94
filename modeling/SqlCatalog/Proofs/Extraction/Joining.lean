import SqlCatalog.Proofs.Bracket.Matching
import SqlCatalog.Proofs.Extraction.Accounting
import SqlCatalog.Proofs.Statement.Cutting

/-!
# Joining fragments

Dividing a body at its commas undoes joining fragments by commas, as long as
each fragment closes its parentheses and hides its commas in them, and a
balanced body is such a join in one way only.  Fragments that hold nothing keep
their place; just a last one is dropped.

So the fragments of a table definition are independent of each other.  What a
fragment contributes are its column and its diagnostic, and putting another
fragment in its place exchanges this contribution and no other.
-/

namespace SqlCatalog

namespace Fragment

/-! ## Dividing and joining -/

/-- Joined by commas, the pieces of a body make up the body. -/
theorem intercalate_pieces (body : List Token) :
    [","].intercalate (pieces body) = body := by
  have general (depth : Int) :
      [","].intercalate ((cut depth body).1 :: (cut depth body).2) = body := by
    induction body generalizing depth with
    | nil => rfl
    | cons token rest hypothesis =>
        have later := hypothesis (depth + Bracket.weight token)
        rw [cut]
        split
        case isTrue divides =>
          rw [List.intercalate_cons_cons, later, divides.1]
          rfl
        case isFalse =>
          conv_rhs => rw [← later]
          cases (cut (depth + Bracket.weight token) rest).2 with
          | nil => simp
          | cons next others => simp [List.intercalate_cons_cons]
  exact general 0

/-- Dividing leaves no comma outside of parentheses. -/
theorem undivided_cut (depth : Int) (body : List Token) :
    (∀ front back, (cut depth body).1 = front ++ "," :: back →
        depth + Bracket.excess front ≠ 0) ∧
      ∀ piece ∈ (cut depth body).2, IsUndivided piece := by
  induction body generalizing depth with
  | nil => simp [cut]
  | cons token rest hypothesis =>
      obtain ⟨first, later⟩ := hypothesis (depth + Bracket.weight token)
      rw [cut]
      split
      case isTrue divides =>
        obtain ⟨rfl, rfl⟩ := divides
        refine ⟨by simp, ?_⟩
        intro piece member
        rcases List.mem_cons.mp member with rfl | member
        · intro front back parts
          simpa [Bracket.weight] using first front back parts
        · exact later piece member
      case isFalse passed =>
        refine ⟨?_, later⟩
        intro front back parts
        cases front with
        | nil =>
            injection parts with comma _
            intro level
            exact passed ⟨comma, by simpa using level⟩
        | cons same front =>
            injection parts with same inside
            subst same
            rw [Bracket.excess_cons, ← Int.add_assoc]
            exact first front back inside

theorem isPiece_of_mem_pieces
    {body piece : List Token}
    (balanced : Bracket.Balanced body)
    (member : piece ∈ pieces body) :
    IsPiece piece := by
  refine ⟨balanced_of_mem_pieces balanced member, ?_⟩
  obtain ⟨first, later⟩ := undivided_cut 0 body
  rcases List.mem_cons.mp member with rfl | member
  · intro front back parts
    simpa using first front back parts
  · exact later piece member

/-- A balanced body is a join of pieces in exactly one way. -/
theorem existsUnique_pieces
    {body : List Token}
    (balanced : Bracket.Balanced body) :
    ∃! fragments, fragments ≠ [] ∧ (∀ fragment ∈ fragments, IsPiece fragment) ∧
      [","].intercalate fragments = body := by
  refine ⟨pieces body, ⟨List.cons_ne_nil _ _, ?_, intercalate_pieces body⟩, ?_⟩
  · exact fun piece member => isPiece_of_mem_pieces balanced member
  · rintro fragments ⟨filled, each, rfl⟩
    exact (pieces_intercalate filled each).symm

theorem split_intercalate_concat
    {front : List (List Token)} {last : List Token}
    (each : ∀ fragment ∈ front ++ [last], IsPiece fragment) :
    split ([","].intercalate (front ++ [last])) =
      front.map Token.trim ++
        if Token.trim last = [] then [] else [Token.trim last] := by
  rw [split, pieces_intercalate (by simp) each, List.map_append, dropEmptyLast]
  by_cases nothing : Token.trim last = []
  · simp [nothing]
  · simp [nothing]

/-! ## Outer blanks of a body -/

theorem IsPiece.of_blanks
    {before inside behind : List Token}
    (whole : IsPiece (before ++ (inside ++ behind)))
    (first : ∀ token ∈ before, token = Token.blank)
    (last : ∀ token ∈ behind, token = Token.blank) :
    IsPiece inside := by
  refine ⟨whole.balanced.of_blanks first last, ?_⟩
  rintro front back rfl
  have apart := whole.undivided (before ++ front) (back ++ behind) (by simp)
  rwa [Bracket.excess_append, Bracket.excess_of_blanks first,
    Int.zero_add] at apart

theorem IsPiece.trimStart
    {fragment : List Token}
    (piece : IsPiece fragment) :
    IsPiece (Token.trimStart fragment) := by
  obtain ⟨front, parts, blanks, -⟩ := Token.trimStart_parts fragment
  rw [parts, ← List.append_nil (Token.trimStart fragment)] at piece
  exact piece.of_blanks blanks (by simp)

theorem IsPiece.trimEnd
    {fragment : List Token}
    (piece : IsPiece fragment) :
    IsPiece (Token.trimEnd fragment) := by
  obtain ⟨back, parts, blanks, -⟩ := Token.trimEnd_parts fragment
  rw [parts, ← List.nil_append (Token.trimEnd fragment ++ back)] at piece
  exact piece.of_blanks (by simp) blanks

theorem intercalate_append
    {front back : List (List Token)}
    (filled : front ≠ []) (also : back ≠ []) :
    [","].intercalate (front ++ back) =
      [","].intercalate front ++ "," :: [","].intercalate back := by
  obtain ⟨next, others, rfl⟩ := List.exists_cons_of_ne_nil also
  induction front with
  | nil => exact absurd rfl filled
  | cons fragment later hypothesis =>
      cases later with
      | nil => simp [List.intercalate_cons_cons]
      | cons second later =>
          have parts := hypothesis (List.cons_ne_nil second later)
          rw [List.cons_append] at parts
          simp [List.intercalate_cons_cons, parts]

/-- Trimming a join trims its first fragment in front and its last one behind. -/
theorem trim_intercalate
    (first : List Token) (middle : List (List Token)) (last : List Token) :
    Token.trim ([","].intercalate (first :: (middle ++ [last]))) =
      [","].intercalate
        (Token.trimStart first :: (middle ++ [Token.trimEnd last])) := by
  have comma : "," ≠ Token.blank := by decide
  have join (first last : List Token) :
      [","].intercalate (first :: (middle ++ [last])) =
        first ++ "," :: [","].intercalate (middle ++ [last]) := by
    have parts := intercalate_append (List.cons_ne_nil first [])
      (List.concat_ne_nil last middle)
    simpa using parts
  have joinLast (first last : List Token) :
      [","].intercalate (first :: (middle ++ [last])) =
        [","].intercalate (first :: middle) ++ "," :: last := by
    have parts := intercalate_append (List.cons_ne_nil first middle)
      (List.cons_ne_nil last [])
    simpa using parts
  rw [Token.trim, join, Token.trimStart_append_cons comma, ← join, joinLast,
    Token.trimEnd_append_cons comma, joinLast]

/--
The fragments of a join whose outer blanks were taken off.  All but the one in
the middle stay the same if another one is put in its place.
-/
theorem split_trim_intercalate
    (front middle : List (List Token)) (last : List Token)
    (pieces : ∀ piece ∈ front ++ (middle ++ [last]), IsPiece piece) :
    ∃ before behind : List (List Token), before.length = front.length ∧
      ∀ fragment, IsPiece fragment →
        ∃ own,
          (own = Token.trim fragment ∨
            front = [] ∧ own = Token.trim (Token.trimStart fragment)) ∧
          split (Token.trim
              ([","].intercalate (front ++ fragment :: (middle ++ [last])))) =
            before ++ own :: behind := by
  simp only [List.forall_mem_append, List.forall_mem_singleton] at pieces
  obtain ⟨inFront, inMiddle, inLast⟩ := pieces
  -- What stands behind the exchanged fragment is split in the same way.
  obtain ⟨behind, parts⟩ :
      ∃ behind, ∀ others : List (List Token), (∀ other ∈ others, IsPiece other) →
        split ([","].intercalate (others ++ (middle ++ [Token.trimEnd last]))) =
          others.map Token.trim ++ behind := by
    refine ⟨middle.map Token.trim ++
      if Token.trim (Token.trimEnd last) = [] then []
      else [Token.trim (Token.trimEnd last)], fun others each => ?_⟩
    have pieces :
        ∀ piece ∈ (others ++ middle) ++ [Token.trimEnd last], IsPiece piece := by
      simp only [List.forall_mem_append, List.forall_mem_singleton]
      exact ⟨⟨each, inMiddle⟩, inLast.trimEnd⟩
    rw [← List.append_assoc, split_intercalate_concat pieces, List.map_append,
      List.append_assoc]
  cases front with
  | nil =>
      refine ⟨[], behind, rfl, fun fragment piece =>
        ⟨_, Or.inr ⟨rfl, rfl⟩, ?_⟩⟩
      rw [List.nil_append, trim_intercalate]
      exact parts [Token.trimStart fragment] (by simp [piece.trimStart])
  | cons first front =>
      rw [List.forall_mem_cons] at inFront
      refine ⟨Token.trim (Token.trimStart first) :: front.map Token.trim, behind,
        by simp, fun fragment piece => ⟨_, Or.inl rfl, ?_⟩⟩
      have each :
          ∀ other ∈ Token.trimStart first :: (front ++ [fragment]),
            IsPiece other := by
        rw [List.forall_mem_cons, List.forall_mem_append, List.forall_mem_singleton]
        exact ⟨inFront.1.trimStart, inFront.2, piece⟩
      have whole := trim_intercalate first (front ++ fragment :: middle) last
      simp only [List.append_assoc, List.cons_append] at whole ⊢
      rw [whole]
      have found := parts _ each
      simpa using found

/-! ## Contributions of fragments -/

/-- What a fragment adds to its table and to what is left out. -/
structure Contribution where
  /-- The column, if the fragment defines one. -/
  column : Option Column
  /-- The diagnostic, if the fragment is at fault. -/
  diagnostic : Option Diagnostic
deriving DecidableEq, Repr

/-- The contribution of the fragment at a place of the statement. -/
def contribution (number place : Nat) (fragment : List Token) :
    Contribution where
  column := column? fragment
  diagnostic := (fault? fragment).map fun fault =>
    ⟨.column number place, fault⟩

/-- The contributions of the fragments of a body, by their places. -/
def contributions (number : Nat) (body : List Token) : List Contribution :=
  (split body).zipIdx.map fun entry => contribution number entry.2 entry.1

/-- The contributions make up the columns and the diagnostics. -/
theorem outcome_of_contributions
    {statement : List Token} {found : Statement.Clauses}
    (read : Statement.clauses statement = .ok (some found))
    (number : Nat) :
    (Outcome.read (Statement.read statement)).table? =
        some { found.table with
          columns := (contributions number found.body).filterMap (·.column) } ∧
      (Outcome.read (Statement.read statement)).diagnostics number =
        (contributions number found.body).filterMap (·.diagnostic) := by
  have reading :
      Statement.read statement = .definition found.table (split found.body) := by
    rw [Statement.read, read]
  rw [reading, contributions, List.filterMap_map, List.filterMap_map]
  constructor
  · rw [Outcome.table?, Statement.withColumns, columns_eq_filterMap_zipIdx]
    rfl
  · rw [diagnostics_definition_eq, List.filterMap_eq_flatMap_toList]
    rfl

/-- A fragment in the place of another exchanges one contribution. -/
theorem contributions_replace
    {body changed : List Token} {before behind : List (List Token)}
    {fragment other : List Token}
    (parts : split body = before ++ fragment :: behind)
    (replaced : split changed = before ++ other :: behind)
    (number : Nat) :
    before.length < (contributions number body).length ∧
      contributions number changed =
        (contributions number body).set before.length
          (contribution number before.length other) := by
  rw [contributions, contributions, parts, replaced]
  simp [List.zipIdx_append]

end Fragment

/-- What is read off header and options does not depend on the body. -/
theorem Statement.clauses_body
    {header body options : List Token} {found : Clauses}
    (read : (Spans.mk header body options).clauses = .ok found) :
    found.body = body ∧ ∀ other,
      (Spans.mk header other options).clauses =
        .ok { found with body := other } := by
  obtain ⟨name, naming, read⟩ := bind_ok_cases read
  obtain ⟨comment, commenting, read⟩ := bind_ok_cases read
  cases read
  refine ⟨rfl, fun other => ?_⟩
  rw [Spans.clauses, naming, commenting]
  rfl

/-- A definition with another body is read with that body. -/
theorem Statement.clauses_replace_body
    {header body options : List Token} {found : Clauses}
    (noOpen : "(" ∉ header)
    (balanced : Bracket.Balanced body)
    (read : clauses (header ++ "(" :: (body ++ ")" :: options)) =
      .ok (some found))
    {other : List Token}
    (also : Bracket.Balanced other) :
    found.body = Token.trim body ∧
      clauses (header ++ "(" :: (other ++ ")" :: options)) =
        .ok (some { found with body := Token.trim other }) := by
  rw [clauses_of_balanced noOpen balanced] at read
  rw [clauses_of_balanced noOpen also]
  split at read
  case isFalse => cases read
  case isTrue create =>
    cases inner : (Spans.mk (Token.trim header) (Token.trim body)
        (Token.trim options)).clauses with
    | error fault =>
        rw [inner] at read
        cases read
    | ok clauses =>
        rw [inner] at read
        cases read
        obtain ⟨same, others⟩ := clauses_body inner
        rw [if_pos create, others]
        exact ⟨same, rfl⟩

/-- A statement with the given fragments between its parentheses. -/
def Statement.ofFragments (header : List Token) (fragments : List (List Token))
    (options : List Token) : List Token :=
  header ++ "(" :: ([","].intercalate fragments ++ ")" :: options)

open Fragment

section Replaced

variable
    {front back : List (List Token)} {fragment other : List Token}
    (pieces : ∀ piece ∈ front ++ other :: fragment :: back, IsPiece piece)
include pieces

/-- A definition with one fragment in the place of another is still read. -/
theorem clauses_replace_fragment
    {header options : List Token} {found : Statement.Clauses}
    (noOpen : "(" ∉ header)
    (read : Statement.clauses
        (Statement.ofFragments header (front ++ fragment :: back) options) =
      .ok (some found)) :
    found.body = Token.trim ([","].intercalate (front ++ fragment :: back)) ∧
      Statement.clauses
          (Statement.ofFragments header (front ++ other :: back) options) =
        .ok (some { found with
          body := Token.trim ([","].intercalate (front ++ other :: back)) }) := by
  simp only [List.forall_mem_append, List.forall_mem_cons] at pieces
  obtain ⟨inFront, piece, replaced, inBack⟩ := pieces
  have comma : Bracket.Balanced [","] :=
    Bracket.balanced_of_not_mem (by decide) (by decide)
  have balanced (inside : List Token) (piece : IsPiece inside) :
      Bracket.Balanced ([","].intercalate (front ++ inside :: back)) := by
    apply comma.intercalate
    simp only [List.forall_mem_append, List.forall_mem_cons]
    exact ⟨fun part member => (inFront part member).balanced, piece.balanced,
      fun part member => (inBack part member).balanced⟩
  exact Statement.clauses_replace_body noOpen (balanced fragment replaced) read
    (balanced other piece)

/-- A fragment that is not the last one makes one contribution of its own. -/
theorem contributions_replace_fragment
    (filled : back ≠ []) (number : Nat) {body : List Token}
    (joined :
      body = Token.trim ([","].intercalate (front ++ fragment :: back))) :
    front.length < (contributions number body).length ∧
      ∃ own,
        (own = Token.trim other ∨
          front = [] ∧ own = Token.trim (Token.trimStart other)) ∧
        contributions number
            (Token.trim ([","].intercalate (front ++ other :: back))) =
          (contributions number body).set front.length
            (contribution number front.length own) := by
  simp only [List.forall_mem_append, List.forall_mem_cons] at pieces
  obtain ⟨inFront, piece, replaced, inBack⟩ := pieces
  obtain rfl | ⟨middle, last, rfl⟩ := List.eq_nil_or_concat' back
  · exact absurd rfl filled
  obtain ⟨before, behind, length, parts⟩ :=
    split_trim_intercalate front middle last
      (List.forall_mem_append.mpr ⟨inFront, inBack⟩)
  obtain ⟨_, -, whole⟩ := parts fragment replaced
  obtain ⟨own, which, exchanged⟩ := parts other piece
  rw [← joined] at whole
  have places := contributions_replace whole exchanged number
  rw [length] at places
  exact ⟨places.1, own, which, places.2⟩

end Replaced

/--
Dividing undoes joining, a last fragment that holds nothing apart, and each
balanced body is a join in one way.  A fragment other than the last one can be
put in the place of another: the definition is still one of the same table, and
of what the fragments contribute nothing changes but the contribution at that
place.
-/
theorem split_inverts_join :
    (∀ (front : List (List Token)) (last : List Token),
      (∀ fragment ∈ front ++ [last], IsPiece fragment) →
        split ([","].intercalate (front ++ [last])) =
          front.map Token.trim ++
            if Token.trim last = [] then [] else [Token.trim last]) ∧
    (∀ body, Bracket.Balanced body →
      ∃! fragments, fragments ≠ [] ∧ (∀ fragment ∈ fragments, IsPiece fragment) ∧
        [","].intercalate fragments = body) ∧
    ∀ (header options : List Token) (front back : List (List Token))
      (fragment other : List Token) (found : Statement.Clauses) (number : Nat),
      let define (inside : List Token) :=
        Statement.ofFragments header (front ++ inside :: back) options
      "(" ∉ header → back ≠ [] →
      (∀ piece ∈ front ++ other :: fragment :: back, IsPiece piece) →
      Statement.clauses (define fragment) = .ok (some found) →
        ((Outcome.read (Statement.read (define fragment))).table? =
            some { found.table with
              columns := (contributions number found.body).filterMap (·.column) } ∧
          (Outcome.read (Statement.read (define fragment))).diagnostics number =
            (contributions number found.body).filterMap (·.diagnostic)) ∧
        front.length < (contributions number found.body).length ∧
        ∃ own changed,
          (own = Token.trim other ∨
            front = [] ∧ own = Token.trim (Token.trimStart other)) ∧
          changed = (contributions number found.body).set front.length
            (contribution number front.length own) ∧
          (Outcome.read (Statement.read (define other))).table? =
            some { found.table with columns := changed.filterMap (·.column) } ∧
          (Outcome.read (Statement.read (define other))).diagnostics number =
            changed.filterMap (·.diagnostic) := by
  refine ⟨fun front last each => split_intercalate_concat each,
    fun body balanced => existsUnique_pieces balanced, ?_⟩
  intro header options front back fragment other found number define noOpen
    filled pieces read
  obtain ⟨body, changed⟩ := clauses_replace_fragment pieces noOpen read
  obtain ⟨within, own, which, exchanged⟩ :=
    contributions_replace_fragment pieces filled number body
  refine ⟨outcome_of_contributions read number, within, own, _, which, rfl, ?_⟩
  rw [← exchanged]
  exact outcome_of_contributions changed number

/--
A type with a comma in parentheses, an inner fragment that holds nothing and a
last one that holds a blank; a name that stands alone gives way to a column.
-/
theorem split_inverts_join_enum :
    let header := ["CREATE", " ", "TABLE", " ", "'t'"]
    let enum := ["'a'", " ", "ENUM", "(", "'x'", ",", "'y'", ")"]
    let define (inside : List Token) :=
      Statement.ofFragments header [enum, [], inside, [" "]] []
    split ([","].intercalate [enum, [], [" "]]) = [enum, []] ∧
      (∃! fragments, fragments ≠ [] ∧
        (∀ fragment ∈ fragments, IsPiece fragment) ∧
        [","].intercalate fragments = enum) ∧
      (Outcome.read (Statement.read (define [" ", "'b'"]))).diagnostics 0 =
        [⟨.column 0 2, .bareColumnName 1⟩] ∧
      ∃ changed : List Contribution,
        (Outcome.read (Statement.read (define [" ", "'c'", " ", "INT"]))).table? =
            some { name := "t", columns := changed.filterMap (·.column) } ∧
          changed.map (·.diagnostic) = [none, none, none] ∧
          changed.map (·.column) =
            [some { name := "a", dataType := "ENUM('x','y')" }, none,
              some { name := "c", dataType := "INT" }] := by
  intro header enum define
  have plain {tokens : List Token}
      (absent : "(" ∉ tokens ∧ ")" ∉ tokens ∧ "," ∉ tokens) : IsPiece tokens :=
    isPiece_of_not_mem absent.1 absent.2.1 absent.2.2
  have arguments : IsPiece ("(" :: (["'x'", ",", "'y'"] ++ [")"])) :=
    isPiece_wrap (by decide) (by decide)
  have named : IsPiece ["'a'", " ", "ENUM"] := plain (by decide)
  have enumPiece : IsPiece enum := named.append arguments
  have nothing : IsPiece [] := plain (by decide)
  have blank : IsPiece [" "] := plain (by decide)
  have bare : IsPiece [" ", "'b'"] := plain (by decide)
  have column : IsPiece [" ", "'c'", " ", "INT"] := plain (by decide)
  obtain ⟨join, unique, exchange⟩ := split_inverts_join
  have read :
      Statement.clauses (define [" ", "'b'"]) =
        .ok (some
          { table := { name := "t" }
            body := [","].intercalate [enum, [], [" ", "'b'"], []] }) := by
    decide +kernel
  obtain ⟨⟨-, reported⟩, -, own, changed, which, rfl, table, -⟩ :=
    exchange header [] [enum, []] [[" "]] [" ", "'b'"] [" ", "'c'", " ", "INT"] _ 0
      (by decide) (by decide) (by simp [*]) read
  refine ⟨join [enum, []] [" "] (by simp [*]), unique enum enumPiece.balanced,
    ?_, _, table, ?_⟩
  · exact reported.trans (by decide +kernel)
  · rcases which with rfl | ⟨filled, -⟩
    · decide +kernel
    · cases filled

end SqlCatalog
