import SqlCatalog.Token.Basic

/-!
# Arrangements of clauses

Clauses stand one behind another with a blank in front of each.  A clause that
is known has a keyword, and words that are reserved for keywords stand nowhere
but in clauses of their own.  Therefore a search for a keyword finds the first
clause that has it, whatever the clauses in front of it hold, and among clauses
with different keywords the order does not matter.
-/

namespace SqlCatalog

/-- A clause of a definition. -/
structure Clause where
  /-- The keyword, if the clause is a known one. -/
  keyword? : Option Token
  /-- The tokens of the clause. -/
  tokens : List Token
  /-- The text that the clause declares. -/
  text : String
deriving DecidableEq, Repr

namespace Clause

/-- The tokens of clauses with a blank in front of each clause. -/
def arrange (clauses : List Clause) : List Token :=
  clauses.flatMap fun clause => Token.blank :: clause.tokens

/-- The first clause with a keyword. -/
def find? (keyword : Token) (clauses : List Clause) : Option Clause :=
  clauses.find? fun clause => clause.keyword? == some keyword

/-- Whether a clause has a keyword. -/
def has (keyword : Token) (clauses : List Clause) : Bool :=
  (find? keyword clauses).isSome

/-- The text of the first clause with a keyword, empty if there is none. -/
def textOf (keyword : Token) (clauses : List Clause) : String :=
  ((find? keyword clauses).map text).getD ""

/-- The clauses that have a keyword. -/
def known (clauses : List Clause) : List Clause :=
  clauses.filter fun clause => clause.keyword?.isSome

/-- No two clauses have the same keyword. -/
def Distinct (clauses : List Clause) : Prop :=
  (clauses.filterMap keyword?).Nodup

/-- A reserved word that stands in the clause is its keyword. -/
def IsKeyed (reserved : List Token) (clause : Clause) : Prop :=
  ∀ token ∈ clause.tokens, token ∈ reserved → clause.keyword? = some token

/-- A clause is keyed if no token behind its keyword is reserved. -/
theorem isKeyed_cons
    {reserved : List Token} {keyword : Token} {rest : List Token}
    (free : ∀ token ∈ rest, token ∉ reserved)
    (text : String) :
    IsKeyed reserved ⟨some keyword, keyword :: rest, text⟩ := by
  intro token member listed
  rcases List.mem_cons.mp member with rfl | inside
  · rfl
  · exact absurd listed (free token inside)

theorem isKeyed_of_free
    {reserved tokens : List Token}
    (free : ∀ token ∈ tokens, token ∉ reserved)
    (keyword? : Option Token) (text : String) :
    IsKeyed reserved ⟨keyword?, tokens, text⟩ := by
  intro token member listed
  exact absurd listed (free token member)

/-! ## The clause with a keyword -/

theorem has_eq_true
    {keyword : Token} {clauses : List Clause} {clause : Clause}
    (found : find? keyword clauses = some clause) :
    has keyword clauses = true := by
  rw [has, found]
  rfl

theorem has_eq_false
    {keyword : Token} {clauses : List Clause}
    (absent : find? keyword clauses = none) :
    has keyword clauses = false := by
  rw [has, absent]
  rfl

theorem textOf_eq
    {keyword : Token} {clauses : List Clause} {clause : Clause}
    (found : find? keyword clauses = some clause) :
    textOf keyword clauses = clause.text := by
  rw [textOf, found]
  rfl

theorem textOf_eq_empty
    {keyword : Token} {clauses : List Clause}
    (absent : find? keyword clauses = none) :
    textOf keyword clauses = "" := by
  rw [textOf, absent]
  rfl

theorem has_congr
    {clauses others : List Clause} {keyword : Token}
    (same : find? keyword clauses = find? keyword others) :
    has keyword clauses = has keyword others := by
  rw [has, same, has]

theorem textOf_congr
    {clauses others : List Clause} {keyword : Token}
    (same : find? keyword clauses = find? keyword others) :
    textOf keyword clauses = textOf keyword others := by
  rw [textOf, same, textOf]

/-- Clauses without a keyword do not matter. -/
theorem find?_known (keyword : Token) (clauses : List Clause) :
    find? keyword (known clauses) = find? keyword clauses := by
  have same (clause : Clause) :
      decide (clause.keyword?.isSome = true ∧
        (clause.keyword? == some keyword) = true) =
          (clause.keyword? == some keyword) := by
    cases clause.keyword? with
    | none => rfl
    | some own => simp [Bool.beq_eq_decide_eq]
  simp only [find?, known, List.find?_filter, same]

/-- Of clauses with different keywords, at most one has a given keyword. -/
theorem Distinct.filter_cases
    {clauses : List Clause}
    (distinct : Distinct clauses)
    (keyword : Token) :
    clauses.filter (fun clause => clause.keyword? == some keyword) = [] ∨
      ∃ clause,
        clauses.filter (fun clause => clause.keyword? == some keyword) =
          [clause] := by
  have inside :=
    (List.filter_sublist (l := clauses)
      (p := fun clause => clause.keyword? == some keyword)).filterMap keyword?
  have alone := distinct.sublist inside
  cases found :
      clauses.filter fun clause => clause.keyword? == some keyword with
  | nil => exact Or.inl rfl
  | cons first others =>
      cases others with
      | nil => exact Or.inr ⟨first, rfl⟩
      | cons second others =>
          have own {clause : Clause} (member : clause ∈ first :: second :: others) :
              clause.keyword? = some keyword := by
            rw [← found] at member
            simpa using (List.mem_filter.mp member).2
          rw [found] at alone
          simp [own] at alone

theorem Distinct.perm
    {clauses permuted : List Clause}
    (distinct : Distinct clauses)
    (same : permuted.Perm clauses) :
    Distinct permuted :=
  (same.filterMap keyword?).nodup_iff.mpr distinct

/-- Behind a clause with a keyword stands no clause with the same one. -/
theorem Distinct.keyword?_ne
    {front back : List Clause} {clause other : Clause} {keyword : Token}
    (distinct : Distinct (front ++ clause :: back))
    (own : clause.keyword? = some keyword)
    (behind : other ∈ back) :
    other.keyword? ≠ some keyword := by
  intro also
  rw [Distinct, List.filterMap_append, List.filterMap_cons_some own] at distinct
  have apart := (List.nodup_cons.mp (List.nodup_append.mp distinct).2.1).1
  exact apart (List.mem_filterMap.mpr ⟨other, behind, also⟩)

/-- The order of clauses with different keywords does not matter. -/
theorem Distinct.find?_perm
    {clauses permuted : List Clause}
    (distinct : Distinct clauses)
    (same : permuted.Perm clauses)
    (keyword : Token) :
    find? keyword permuted = find? keyword clauses := by
  have parts := same.filter fun clause => clause.keyword? == some keyword
  rw [find?, find?, ← List.head?_filter, ← List.head?_filter]
  rcases distinct.filter_cases keyword with nothing | ⟨clause, single⟩
  · rw [nothing] at parts ⊢
    rw [parts.eq_nil]
  · rw [single] at parts ⊢
    rw [List.perm_singleton.mp parts]

/-! ## Where a keyword stands -/

theorem head?_arrange (clauses : List Clause) :
    ∀ token ∈ (arrange clauses).head?, token = Token.blank := by
  cases clauses with
  | nil => simp [arrange]
  | cons clause clauses => simp [arrange]

section Arrangements

variable {reserved : List Token} {keyword : Token}
  (listed : keyword ∈ reserved) (solid : Token.blank ∉ reserved)

include listed solid

theorem not_mem_arrange
    {clauses : List Clause}
    (keyed : ∀ clause ∈ clauses, IsKeyed reserved clause)
    (other : ∀ clause ∈ clauses, clause.keyword? ≠ some keyword) :
    keyword ∉ arrange clauses := by
  intro member
  obtain ⟨clause, inside, member⟩ := List.mem_flatMap.mp member
  rcases List.mem_cons.mp member with rfl | member
  · exact solid listed
  · exact other clause inside (keyed clause inside keyword member listed)

/--
A reserved word stands nowhere in an arrangement, or the first place where it
stands belongs to the first clause with this keyword.
-/
theorem arrange_cases
    {clauses : List Clause}
    (keyed : ∀ clause ∈ clauses, IsKeyed reserved clause) :
    (find? keyword clauses = none ∧ keyword ∉ arrange clauses) ∨
    ∃ clause before behind,
      find? keyword clauses = some clause ∧
        clause ∈ clauses ∧ clause.keyword? = some keyword ∧
        arrange clauses = Token.blank :: (before ++ (clause.tokens ++ behind)) ∧
        keyword ∉ before ∧ (Distinct clauses → keyword ∉ behind) := by
  cases found : find? keyword clauses with
  | none =>
      refine Or.inl ⟨rfl, not_mem_arrange listed solid keyed ?_⟩
      intro clause inside same
      rw [find?, List.find?_eq_none] at found
      exact found clause inside (beq_iff_eq.mpr same)
  | some clause =>
      obtain ⟨same, front, back, rfl, others⟩ :=
        List.find?_eq_some_iff_append.mp found
      have absent : keyword ∉ arrange front := by
        apply not_mem_arrange listed solid
        · intro other inside
          exact keyed other (List.mem_append_left _ inside)
        · intro other inside
          simpa using others other inside
      -- A blank stands in front of the first clause and in front of this one.
      obtain ⟨before, blank⟩ :
          ∃ before, arrange front ++ [Token.blank] = Token.blank :: before := by
        cases front with
        | nil => exact ⟨[], rfl⟩
        | cons first front => exact ⟨_, rfl⟩
      refine Or.inr ⟨clause, before, arrange back, rfl, by simp,
        beq_iff_eq.mp same, ?_, ?_, ?_⟩
      · have parts :
            arrange (front ++ clause :: back) =
              (arrange front ++ [Token.blank]) ++
                (clause.tokens ++ arrange back) := by
          simp [arrange]
        rw [parts, blank, List.cons_append]
      · intro member
        have whole := List.mem_cons_of_mem Token.blank member
        rw [← blank, List.mem_append, List.mem_singleton] at whole
        rcases whole with inside | rfl
        · exact absent inside
        · exact solid listed
      · intro distinct
        apply not_mem_arrange listed solid
        · intro other inside
          exact keyed other (List.mem_append_right _ (List.mem_cons_of_mem _ inside))
        · intro other inside
          exact distinct.keyword?_ne (beq_iff_eq.mp same) inside

end Arrangements

end Clause

end SqlCatalog
