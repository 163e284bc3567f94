import Mathlib.Data.List.Chain
import SqlCatalog.Proofs.Token.Squeeze

/-!
# Spaced sequences

In canonical form no two blanks stand side by side.  The parts of a sequence
inherit this, so trimming leaves no blank at either end although it takes off
one blank at most, and behind a blank inside of a part stands another token.
-/

namespace SqlCatalog.Token

/-- No two blanks stand side by side. -/
def IsSpaced (tokens : List Token) : Prop :=
  tokens.IsChain fun left right => left = blank → right ≠ blank

/-- No blank stands at the start or at the end. -/
structure IsTrimmed (tokens : List Token) : Prop where
  /-- The first token is no blank. -/
  first : tokens.head? ≠ some blank
  /-- The last token is no blank. -/
  last : tokens.getLast? ≠ some blank

/-- A part of a spaced sequence is spaced. -/
theorem IsSpaced.of_part
    {part tokens : List Token}
    (spaced : IsSpaced tokens)
    (inside : part <:+: tokens) :
    IsSpaced part :=
  List.IsChain.infix spaced inside

/-- Behind a blank stands no other blank. -/
theorem IsSpaced.ne_blank
    {tokens : List Token} {token : Token}
    (spaced : IsSpaced tokens)
    (inside : [blank, token] <:+: tokens) :
    token ≠ blank :=
  (List.isChain_cons_cons.mp (spaced.of_part inside)).1 rfl

theorem head?_squeeze (tokens : List Token) :
    (squeeze tokens).head? = tokens.head? := by
  fun_induction squeeze tokens with
  | case1 => rfl
  | case2 token => rfl
  | case3 token next rest blanks hypothesis =>
      obtain ⟨rfl, rfl⟩ := blanks
      exact hypothesis
  | case4 token next rest apart => rfl

/-- Shortening runs of blanks leaves no two of them side by side. -/
theorem isSpaced_squeeze (tokens : List Token) : IsSpaced (squeeze tokens) := by
  fun_induction squeeze tokens with
  | case1 => exact .nil
  | case2 token => exact .singleton token
  | case3 token next rest blanks hypothesis => exact hypothesis
  | case4 token next rest apart hypothesis =>
      refine List.isChain_cons.mpr ⟨?_, hypothesis⟩
      rw [head?_squeeze]
      rintro _ ⟨⟩ first second
      exact apart ⟨first, second⟩

/-- A spaced sequence has no runs of blanks to be shortened. -/
theorem IsSpaced.squeeze_eq_self
    {tokens : List Token}
    (spaced : IsSpaced tokens) :
    squeeze tokens = tokens := by
  fun_induction squeeze tokens with
  | case1 => rfl
  | case2 token => rfl
  | case3 token next rest blanks hypothesis =>
      exact absurd blanks.2 ((List.isChain_cons_cons.mp spaced).1 blanks.1)
  | case4 token next rest apart hypothesis =>
      rw [hypothesis (List.isChain_cons_cons.mp spaced).2]

/-! ## Trimming -/

/-- What trimming leaves is a part of the sequence. -/
theorem infix_trim (tokens : List Token) : trim tokens <:+: tokens := by
  obtain ⟨front, back, parts, -⟩ := trim_parts tokens
  exact ⟨front, back, by rw [List.append_assoc, ← parts]⟩

theorem trimStart_suffix (tokens : List Token) : trimStart tokens <:+ tokens := by
  fun_cases trimStart tokens with
  | case1 => exact List.suffix_refl _
  | case2 rest => exact List.suffix_cons _ rest
  | case3 token rest => exact List.suffix_refl _

theorem IsSpaced.head?_trimStart
    {tokens : List Token}
    (spaced : IsSpaced tokens) :
    (trimStart tokens).head? ≠ some blank := by
  fun_cases trimStart tokens with
  | case1 => simp
  | case2 rest =>
      intro found
      obtain ⟨behind, rfl⟩ := List.head?_eq_some_iff.mp found
      exact spaced.ne_blank ⟨[], behind, rfl⟩ rfl
  | case3 token rest other => simpa using other

/-- Since no two blanks stand side by side, trimming takes off all of them. -/
theorem IsSpaced.isTrimmed_trim
    {tokens : List Token}
    (spaced : IsSpaced tokens) :
    IsTrimmed (trim tokens) := by
  have start := spaced.head?_trimStart
  have within := spaced.of_part (trimStart_suffix tokens).isInfix
  rw [trim]
  generalize trimStart tokens = started at start within
  fun_cases trimEnd started with
  | case1 last =>
      obtain ⟨others, rfl⟩ := List.getLast?_eq_some_iff.mp last
      rw [List.dropLast_concat]
      refine ⟨?_, ?_⟩
      · intro found
        rw [List.head?_append, found] at start
        exact start rfl
      · intro found
        obtain ⟨before, rfl⟩ := List.getLast?_eq_some_iff.mp found
        exact within.ne_blank ⟨before, [], by simp⟩ rfl
  | case2 other => exact ⟨start, other⟩

end SqlCatalog.Token
