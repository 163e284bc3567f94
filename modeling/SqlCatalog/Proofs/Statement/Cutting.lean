import Mathlib.Data.List.TakeWhile
import SqlCatalog.Proofs.Bracket.Matching
import SqlCatalog.Statement.Clauses
import SqlCatalog.Statement.Split

/-!
# Cutting statements

Statements joined by semicolons fall apart where they were joined, and the
tokens behind the last semicolon are the last of them.  A definition with a
balanced body is cut around that body.
-/

namespace SqlCatalog.Statement

/-! ## Semicolons -/

theorem tail_append_semicolon (front back : List Token) :
    tail (front ++ ";" :: back) = tail back := by
  have stop : ((";" :: front.reverse).takeWhile (· != ";")) = [] := by
    simp
  unfold tail
  rw [List.reverse_append, List.reverse_cons, List.append_assoc,
    List.singleton_append, List.takeWhile_append, stop, List.append_nil]
  split
  case isTrue whole =>
    rw [List.takeWhile_prefix _ |>.eq_of_length whole]
  case isFalse => rfl

theorem tail_of_not_mem
    {tokens : List Token}
    (single : ";" ∉ tokens) :
    tail tokens = tokens := by
  have whole : tokens.reverse.takeWhile (· != ";") = tokens.reverse := by
    rw [List.takeWhile_eq_self_iff]
    intro token member
    rw [bne_iff_ne]
    rintro rfl
    exact single (List.mem_reverse.mp member)
  rw [tail, whole, List.reverse_reverse]

theorem chunks_of_not_mem
    {tokens : List Token}
    (single : ";" ∉ tokens) :
    chunks tokens = [tokens] := by
  induction tokens with
  | nil => rfl
  | cons token rest hypothesis =>
      rw [List.mem_cons, not_or] at single
      have later := hypothesis single.2
      simp only [chunks, List.cons.injEq] at later
      have other : ¬token = ";" := fun same => single.1 same.symm
      simp [chunks, cut, other, later.1, later.2]

/-- A semicolon of the sequence behind which there is no other. -/
theorem exists_last_semicolon
    {tokens : List Token}
    (several : ";" ∈ tokens) :
    ∃ front back, tokens = front ++ ";" :: back ∧ ";" ∉ back := by
  -- The last semicolon is the first one from the end.
  rcases List.eq_append_cons_of_mem (List.mem_reverse.mpr several) with
    ⟨back, front, reversed, single⟩
  refine ⟨front.reverse, back.reverse, ?_, ?_⟩
  · rw [← List.reverse_reverse tokens, reversed]
    simp
  · rwa [List.mem_reverse]

/-- The tokens up to the last semicolon, that one included. -/
def finished (tokens : List Token) : List Token :=
  (tokens.reverse.dropWhile (· != ";")).reverse

/-- The last semicolon divides the sequence in two. -/
theorem finished_append_tail (tokens : List Token) :
    finished tokens ++ tail tokens = tokens := by
  rw [finished, tail, ← List.reverse_append, List.takeWhile_append_dropWhile,
    List.reverse_reverse]

theorem finished_append_semicolon (front back : List Token) :
    finished (front ++ ";" :: back) = front ++ ";" :: finished back := by
  have whole := finished_append_tail (front ++ ";" :: back)
  rw [tail_append_semicolon] at whole
  refine List.append_cancel_right (whole.trans ?_)
  rw [List.append_assoc, List.cons_append, finished_append_tail]

theorem finished_of_not_mem
    {tokens : List Token}
    (single : ";" ∉ tokens) :
    finished tokens = [] := by
  have whole := finished_append_tail tokens
  rw [tail_of_not_mem single] at whole
  exact List.append_left_eq_self.mp whole

/-- The tokens behind the last semicolon are a chunk of their own. -/
theorem tail_mem_chunks (tokens : List Token) : tail tokens ∈ chunks tokens := by
  by_cases several : ";" ∈ tokens
  · obtain ⟨front, back, rfl, last⟩ := exists_last_semicolon several
    rw [tail_append_semicolon, chunks_append_semicolon,
      tail_of_not_mem last, chunks_of_not_mem last]
    exact List.mem_append_right _ (List.mem_singleton_self _)
  · rw [tail_of_not_mem several, chunks_of_not_mem several]
    exact List.mem_singleton_self tokens

theorem split_ne_nil_of_tail
    {tokens : List Token}
    (held : (Token.trim (tail tokens)).isEmpty = false) :
    split tokens ≠ [] := by
  have member : Token.trim (tail tokens) ∈ split tokens := by
    rw [split, List.mem_filter]
    refine ⟨List.mem_map_of_mem (tail_mem_chunks tokens), ?_⟩
    rw [held]
    rfl
  exact List.ne_nil_of_mem member

/-- Statements joined by semicolons are split where they were joined. -/
theorem split_intercalate
    {statements : List (List Token)}
    (each : ∀ statement ∈ statements,
      ";" ∉ statement ∧ Token.trim statement = statement ∧ statement ≠ []) :
    split ([";"].intercalate statements) = statements := by
  induction statements with
  | nil => rfl
  | cons statement later hypothesis =>
      rcases each statement List.mem_cons_self with ⟨absent, trimmed, filled⟩
      have alone : split statement = [statement] := by
        simp [split, chunks_of_not_mem absent, trimmed, filled]
      cases later with
      | nil => rw [List.intercalate_singleton, alone]
      | cons next later =>
          have others := hypothesis fun other member =>
            each other (List.mem_cons_of_mem statement member)
          rw [List.intercalate_cons_cons, List.append_assoc,
            List.singleton_append, split_append_semicolon, alone, others,
            List.singleton_append]

/-! ## Parentheses -/

theorem position?_of_not_mem
    {keyword : Token} {tokens : List Token}
    (absent : keyword ∉ tokens) :
    position? keyword tokens = none := by
  rw [position?, List.findIdx?_eq_none_iff]
  intro token member
  rw [beq_eq_false_iff_ne]
  rintro rfl
  exact absent member

theorem position?_append
    {keyword : Token} {front : List Token}
    (absent : keyword ∉ front)
    (back : List Token) :
    position? keyword (front ++ keyword :: back) = some front.length := by
  have passed := position?_of_not_mem absent
  rw [position?] at passed
  rw [position?, List.findIdx?_append, passed]
  simp [List.findIdx?_cons]

/-- A definition is cut at its first parenthesis and the close of that. -/
theorem spans_of_balanced
    {front body : List Token}
    (noOpen : "(" ∉ front)
    (balanced : Bracket.Balanced body)
    (options : List Token) :
    spans (front ++ "(" :: (body ++ ")" :: options)) =
      .ok ⟨Token.trim front, Token.trim body, Token.trim options⟩ := by
  have start := position?_append noOpen (body ++ ")" :: options)
  have close := Bracket.closing_of_balanced balanced front options
  have inside :
      ((front ++ "(" :: (body ++ ")" :: options)).take
        (front.length + body.length + 1)).drop (front.length + 1) = body := by
    have parts :
        front ++ "(" :: (body ++ ")" :: options) =
          ((front ++ ["("]) ++ body) ++ ")" :: options := by
      simp
    rw [parts, List.take_left' (by simp; omega), List.drop_left' (by simp)]
  have behind :
      (front ++ "(" :: (body ++ ")" :: options)).drop
        (front.length + body.length + 1 + 1) = options := by
    have parts :
        front ++ "(" :: (body ++ ")" :: options) =
          (front ++ "(" :: (body ++ [")"])) ++ options := by
      simp
    rw [parts, List.drop_left' (by simp; omega)]
  simp only [spans, start, close, inside, behind, List.take_left]

/-- What cutting a statement at its first parenthesis amounts to. -/
inductive IsCut : List Token → Except Fault Spans → Prop
  /-- There is no parenthesis at which a body could start. -/
  | missing {statement : List Token}
      (noOpen : "(" ∉ statement) :
      IsCut statement (.error .missingBody)
  /-- The first parenthesis has no partner. -/
  | unclosed {front rest : List Token}
      (noOpen : "(" ∉ front)
      (unclosed : ¬Bracket.HasClose rest) :
      IsCut (front ++ "(" :: rest) (.error (.unclosedParenthesis front.length))
  /-- The first parenthesis and its partner enclose the body. -/
  | whole {front body options : List Token}
      (noOpen : "(" ∉ front)
      (balanced : Bracket.Balanced body) :
      IsCut (front ++ "(" :: (body ++ ")" :: options))
        (.ok ⟨Token.trim front, Token.trim body, Token.trim options⟩)

theorem isCut_spans (statement : List Token) :
    IsCut statement (spans statement) := by
  by_cases several : "(" ∈ statement
  · obtain ⟨front, rest, rfl, noOpen⟩ := List.eq_append_cons_of_mem several
    by_cases closed : Bracket.HasClose rest
    · obtain ⟨body, options, rfl, balanced⟩ := closed
      rw [spans_of_balanced noOpen balanced]
      exact .whole noOpen balanced
    · have failed :
          spans (front ++ "(" :: rest) =
            .error (.unclosedParenthesis front.length) := by
        simp only [spans, position?_append noOpen,
          Bracket.closing_of_not_hasClose closed]
      rw [failed]
      exact .unclosed noOpen closed
  · rw [spans, position?_of_not_mem several]
    exact .missing several

/-- Whether a statement defines a table is decided in front of its body. -/
theorem isCreateTable_append_open (front rest : List Token) :
    isCreateTable (front ++ "(" :: rest) = isCreateTable front := by
  have general
      {pattern : Pattern}
      (refused : ∀ element ∈ pattern, element.accepts "(" = false) :
      pattern.fits (front ++ "(" :: rest) = pattern.fits front := by
    induction pattern generalizing front with
    | nil => simp
    | cons element pattern hypothesis =>
        rw [List.forall_mem_cons] at refused
        cases front with
        | nil => simp [refused.1]
        | cons token front => simp [hypothesis front refused.2]
  exact general (by decide)

/-- The clauses of a definition with a balanced body. -/
theorem clauses_of_balanced
    {front body : List Token}
    (noOpen : "(" ∉ front)
    (balanced : Bracket.Balanced body)
    (options : List Token) :
    clauses (front ++ "(" :: (body ++ ")" :: options)) =
      if isCreateTable front then
        (Spans.mk (Token.trim front) (Token.trim body)
          (Token.trim options)).clauses.map some
      else .ok none := by
  rw [clauses, isCreateTable_append_open, spans_of_balanced noOpen balanced]
  split
  · simp only [bind, Except.bind, pure, Except.pure]
    cases (Spans.mk (Token.trim front) (Token.trim body)
      (Token.trim options)).clauses <;> rfl
  · rfl

end SqlCatalog.Statement
