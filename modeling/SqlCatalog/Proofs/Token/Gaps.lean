import SqlCatalog.Proofs.Lexing.Uppercase
import SqlCatalog.Proofs.Token.Spacing

/-!
# Gaps in canonical form

Canonical form keeps the solid tokens, those that are quoted and those that are
neither comments nor blanks, each in its canonical spelling and in order.  Of
what stands between two of them, before the first or behind the last it keeps a
single blank, and nothing if nothing stands there.  So no two blanks stand side
by side.
-/

namespace SqlCatalog

namespace Token

/-! ## Solid tokens -/

/-- Whether the token is quoted, or neither a comment nor a blank. -/
def isSolid (token : Token) : Bool :=
  token.isQuoted || !(token.isComment || token.isBlank)

/-- How a solid token is spelled: as it is if it is quoted, else in upper case. -/
def solidSpelling (token : Token) : Token :=
  if token.isQuoted then token else token.upper

theorem canonical_of_isSolid
    {token : Token}
    (solid : token.isSolid = true) :
    token.canonical = token.solidSpelling := by
  rw [canonical, solidSpelling]
  cases quoted : token.isQuoted with
  | true => rfl
  | false =>
      have other : (token.isComment || token.isBlank) = false := by
        simpa [isSolid, quoted] using solid
      simp [other]

/-- A solid token is not spelled as the canonical blank. -/
theorem solidSpelling_ne_blank
    {token : Token}
    (solid : token.isSolid = true) :
    token.solidSpelling ≠ blank := by
  intro same
  rw [solidSpelling] at same
  split at same
  case isTrue quoted =>
    rw [same] at quoted
    exact absurd quoted (by decide)
  case isFalse unquoted =>
    have gap : token.isBlank = true := by
      rw [← isBlank_upper, same]
      decide
    simp [isSolid, unquoted, gap] at solid

/-- Exactly the solid tokens do not become the canonical blank. -/
theorem canonical_ne_blank_iff (token : Token) :
    token.canonical ≠ blank ↔ token.isSolid = true := by
  constructor
  · intro other
    by_contra gap
    apply other
    rw [isSolid, Bool.not_eq_true, Bool.or_eq_false_iff,
      Bool.not_eq_false'] at gap
    simp [canonical, gap.1, gap.2]
  · intro solid
    rw [canonical_of_isSolid solid]
    exact solidSpelling_ne_blank solid

/-! ## Runs of blanks -/

/-- What canonical form keeps of a gap. -/
def shortenGap (gap : List Token) : List Token :=
  if gap.isEmpty then [] else [blank]

/-- Shortening runs of blanks keeps the other tokens. -/
theorem filter_squeeze (tokens : List Token) :
    (squeeze tokens).filter (· ≠ blank) = tokens.filter (· ≠ blank) := by
  fun_induction squeeze tokens with
  | case1 => rfl
  | case2 token => rfl
  | case3 token next rest blanks hypothesis =>
      rw [hypothesis, blanks.1]
      rfl
  | case4 token next rest apart hypothesis =>
      rw [List.filter_cons, List.filter_cons, hypothesis]

/-- Shortening runs of blanks leaves one blank of each. -/
theorem splitOnP_squeeze (tokens : List Token) :
    (squeeze tokens).splitOnP (· ≠ blank) =
      (tokens.splitOnP (· ≠ blank)).map shortenGap := by
  induction tokens with
  | nil => rfl
  | cons token rest hypothesis =>
      by_cases blanks : token = blank
      · subst blanks
        rw [squeeze_blank_cons, List.splitOnP_cons_eq_if_modifyHead]
        split
        case isTrue run =>
          obtain ⟨more, rfl⟩ := List.head?_eq_some_iff.mp run
          rw [hypothesis, List.splitOnP_cons_eq_if_modifyHead]
          cases more.splitOnP (· ≠ blank) with
          | nil => rfl
          | cons gap gaps => rfl
        case isFalse ended =>
          rw [List.splitOnP_cons_eq_if_modifyHead, hypothesis]
          cases rest with
          | nil => rfl
          | cons next more =>
              have other : next ≠ blank := by simpa using ended
              rw [List.splitOnP_cons_eq_if_modifyHead]
              simp [other, shortenGap]
      · rw [squeeze_cons_of_ne blanks, List.splitOnP_cons_eq_if_modifyHead,
          List.splitOnP_cons_eq_if_modifyHead, hypothesis]
        simp [blanks, shortenGap]

theorem splitOnP_map
    {α β : Type}
    (image : α → β)
    (divides : β → Bool)
    (items : List α) :
    (items.map image).splitOnP divides =
      (items.splitOnP fun item => divides (image item)).map
        (List.map image) := by
  induction items with
  | nil => rfl
  | cons item items hypothesis =>
      rw [List.map_cons, List.splitOnP_cons_eq_if_modifyHead,
        List.splitOnP_cons_eq_if_modifyHead, hypothesis]
      split
      · rfl
      · cases items.splitOnP fun item => divides (image item) with
        | nil => rfl
        | cons gap gaps => rfl

/-! ## Canonical form -/

/-- The sequence has the solid tokens and the gaps of the original one. -/
structure KeepsGaps (raw tokens : List Token) : Prop where
  /-- No two blanks stand side by side. -/
  spaced : IsSpaced tokens
  /-- The other tokens are the solid ones, respelled and in order. -/
  solid : tokens.filter (· ≠ blank) = (raw.filter isSolid).map solidSpelling
  /--
  Before, between and behind them stands a blank where something else stood,
  and nothing where nothing stood.
  -/
  gaps : tokens.splitOnP (· ≠ blank) = (raw.splitOnP isSolid).map shortenGap

/-- Canonical form keeps the solid tokens and a blank of each gap. -/
theorem keepsGaps_normalize (raw : List Token) :
    KeepsGaps raw (normalize 0 raw) := by
  have same :
      (fun token : Token => decide (token.canonical ≠ blank)) = isSolid := by
    funext token
    rw [Bool.eq_iff_iff, decide_eq_true_iff, canonical_ne_blank_iff]
  rw [normalize_zero]
  refine ⟨isSpaced_squeeze _, ?_, ?_⟩
  · rw [filter_squeeze, List.filter_map, Function.comp_def, same]
    apply List.map_congr_left
    intro token member
    exact canonical_of_isSolid (List.mem_filter.mp member).2
  · rw [splitOnP_squeeze, splitOnP_map, same, List.map_map]
    apply List.map_congr_left
    intro gap _
    simp [shortenGap]

end Token

end SqlCatalog
