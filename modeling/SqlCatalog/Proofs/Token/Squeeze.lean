import SqlCatalog.Token.Canonical

/-!
# Runs of blanks

Shortening runs of blanks is local: a token that is no blank divides a
sequence into parts that are shortened on their own, and of blanks side by
side all but one can be left out beforehand.
-/

namespace SqlCatalog.Token

/-- A token that is no blank divides a sequence into independent parts. -/
theorem squeeze_append_cons_of_ne
    {token : Token}
    (other : token ≠ blank)
    (front back : List Token) :
    squeeze (front ++ token :: back) =
      squeeze front ++ token :: squeeze back := by
  fun_induction squeeze front with
  | case1 => exact squeeze_cons_of_ne other back
  | case2 first => simp [squeeze, other, squeeze_cons_of_ne other]
  | case3 first next rest blanks hypothesis =>
      simpa [squeeze, blanks] using hypothesis
  | case4 first next rest apart hypothesis =>
      simpa [squeeze, apart] using hypothesis

/-- A blank is left out if the sequence goes on with one. -/
theorem squeeze_blank_cons (tokens : List Token) :
    squeeze (blank :: tokens) =
      if tokens.head? = some blank then squeeze tokens
      else blank :: squeeze tokens := by
  cases tokens with
  | nil => rfl
  | cons next rest => simp [squeeze]

/-- Of two blanks side by side the sequence keeps one anyway. -/
theorem squeeze_append_blank_blank (front back : List Token) :
    squeeze (front ++ blank :: blank :: back) =
      squeeze (front ++ blank :: back) := by
  induction front with
  | nil => simp [squeeze]
  | cons first front hypothesis =>
      cases front with
      | nil =>
          simp only [List.cons_append, List.nil_append] at hypothesis ⊢
          rw [squeeze, hypothesis, squeeze]
      | cons next front =>
          simp only [List.cons_append] at hypothesis ⊢
          rw [squeeze, hypothesis, squeeze]

/-- Shortening runs leaves out no token altogether. -/
theorem mem_squeeze_iff {token : Token} (tokens : List Token) :
    token ∈ squeeze tokens ↔ token ∈ tokens := by
  fun_induction squeeze tokens with
  | case1 => exact Iff.rfl
  | case2 first => exact Iff.rfl
  | case3 first next rest blanks hypothesis =>
      obtain ⟨rfl, rfl⟩ := blanks
      simp [hypothesis]
  | case4 first next rest apart hypothesis =>
      rw [List.mem_cons, hypothesis, ← List.mem_cons]

/-- A sequence of blanks is shortened to one at most. -/
theorem squeeze_of_blanks
    {tokens : List Token}
    (blanks : ∀ token ∈ tokens, token = blank) :
    squeeze tokens = [] ∨ squeeze tokens = [blank] := by
  fun_induction squeeze tokens with
  | case1 => exact Or.inl rfl
  | case2 first => exact Or.inr (by simpa using blanks)
  | case3 first next rest both hypothesis =>
      exact hypothesis fun token member =>
        blanks token (List.mem_cons_of_mem first member)
  | case4 first next rest apart =>
      exact absurd ⟨blanks first (by simp), blanks next (by simp)⟩ apart

/-! ## Blanks at the ends -/

theorem trimStart_parts (tokens : List Token) :
    ∃ front, tokens = front ++ trimStart tokens ∧
      (∀ token ∈ front, token = blank) ∧ front.length ≤ 1 := by
  fun_cases trimStart tokens with
  | case1 => exact ⟨[], rfl, by simp⟩
  | case2 rest => exact ⟨[blank], rfl, by simp⟩
  | case3 token rest => exact ⟨[], rfl, by simp⟩

theorem trimEnd_parts (tokens : List Token) :
    ∃ back, tokens = trimEnd tokens ++ back ∧
      (∀ token ∈ back, token = blank) ∧ back.length ≤ 1 := by
  fun_cases trimEnd tokens with
  | case1 last =>
      obtain ⟨others, rfl⟩ := List.getLast?_eq_some_iff.mp last
      exact ⟨[blank], by rw [List.dropLast_concat], by simp⟩
  | case2 => exact ⟨[], by simp, by simp⟩

theorem trimStart_append_cons
    {token : Token}
    (other : token ≠ blank)
    (front back : List Token) :
    trimStart (front ++ token :: back) = trimStart front ++ token :: back := by
  cases front with
  | nil => simp [trimStart, other]
  | cons first front =>
      rw [List.cons_append, trimStart, trimStart]
      split <;> rfl

theorem trimEnd_append_cons
    {token : Token}
    (other : token ≠ blank)
    (front back : List Token) :
    trimEnd (front ++ token :: back) = front ++ token :: trimEnd back := by
  cases back with
  | nil => simp [trimEnd, other]
  | cons next rest =>
      have last :
          (front ++ token :: next :: rest).getLast? = (next :: rest).getLast? := by
        simp [List.getLast?_cons]
      rw [trimEnd, trimEnd, last]
      split
      · rw [List.dropLast_append_cons, List.dropLast_cons_cons]
      · rfl

/-- What is trimmed off a sequence is one blank at most on either side. -/
theorem trim_parts (tokens : List Token) :
    ∃ front back, tokens = front ++ (trim tokens ++ back) ∧
      (∀ token ∈ front, token = blank) ∧ (∀ token ∈ back, token = blank) ∧
        front.length ≤ 1 ∧ back.length ≤ 1 := by
  obtain ⟨front, started, before, few⟩ := trimStart_parts tokens
  obtain ⟨back, ended, behind, fewer⟩ := trimEnd_parts (trimStart tokens)
  exact ⟨front, back, by rwa [trim, ← ended], before, behind, few, fewer⟩

theorem trim_blank_cons
    {tokens : List Token}
    (last : tokens.getLast? ≠ some blank) :
    trim (blank :: tokens) = tokens := by
  rw [trim, trimStart, if_pos rfl, trimEnd, if_neg last]

/-- Nothing is left of a shortened sequence exactly if it holds blanks only. -/
theorem trim_squeeze_eq_nil_iff (tokens : List Token) :
    trim (squeeze tokens) = [] ↔ ∀ token ∈ tokens, token = blank := by
  constructor
  · intro nothing token member
    obtain ⟨front, back, parts, before, behind, -⟩ :=
      trim_parts (squeeze tokens)
    rw [← mem_squeeze_iff, parts, nothing, List.nil_append,
      List.mem_append] at member
    rcases member with member | member
    · exact before token member
    · exact behind token member
  · intro blanks
    rcases squeeze_of_blanks blanks with nothing | single
    · rw [nothing, trim_nil]
    · rw [single]
      rfl

end SqlCatalog.Token
