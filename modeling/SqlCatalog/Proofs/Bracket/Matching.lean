import SqlCatalog.Proofs.Fragment.Pieces
import SqlCatalog.Proofs.Token.Squeeze

/-!
# Matching parentheses

An opening parenthesis has a partner if what follows starts with a balanced
sequence and a closing parenthesis.  The search for the close finds exactly
the partner: it succeeds only there, and it fails only if there is none.

Inside a balanced sequence every opening parenthesis has its partner.  So has
every one inside a piece of a balanced body, since dividing at commas outside
of parentheses and trimming blanks leaves balanced pieces.
-/

namespace SqlCatalog

namespace Bracket

/-! ## Sequences behind open parentheses -/

/-- The sequence closes `depth` parentheses that were open and no others. -/
structure Settles (depth : Int) (tokens : List Token) : Prop where
  /-- Behind the sequence no parenthesis is open. -/
  settled : depth + excess tokens = 0
  /-- No initial part closes more parentheses than were open. -/
  nonneg : ∀ count, 0 ≤ depth + excess (tokens.take count)

theorem settles_zero_iff (tokens : List Token) :
    Settles 0 tokens ↔ Balanced tokens := by
  constructor
  · rintro ⟨settled, nonneg⟩
    exact ⟨by simpa using settled, by simpa using nonneg⟩
  · rintro ⟨settled, nonneg⟩
    exact ⟨by simpa using settled, by simpa using nonneg⟩

theorem settles_nil_iff (depth : Int) : Settles depth [] ↔ depth = 0 := by
  constructor
  · rintro ⟨settled, -⟩
    simpa using settled
  · rintro rfl
    exact (settles_zero_iff []).mpr balanced_nil

/-- Read from the front, a sequence settles what its first token leaves open. -/
theorem settles_cons_iff (depth : Int) (token : Token) (rest : List Token) :
    Settles depth (token :: rest) ↔
      0 ≤ depth ∧ Settles (depth + weight token) rest := by
  constructor
  · rintro ⟨settled, nonneg⟩
    refine ⟨by simpa using nonneg 0, ?_, ?_⟩
    · rw [← settled, excess_cons, Int.add_assoc]
    · intro count
      have bound := nonneg (count + 1)
      rwa [List.take_succ_cons, excess_cons, ← Int.add_assoc] at bound
  · rintro ⟨start, settled, nonneg⟩
    refine ⟨by rw [← settled, excess_cons, Int.add_assoc], ?_⟩
    intro count
    cases count with
    | zero => simpa using start
    | succ count =>
        rw [List.take_succ_cons, excess_cons, ← Int.add_assoc]
        exact nonneg count

/-- A balanced sequence falls apart where no parenthesis is open. -/
theorem Balanced.of_append
    {front back : List Token}
    (whole : Balanced (front ++ back))
    (level : excess front = 0) :
    Balanced front ∧ Balanced back := by
  constructor
  · refine ⟨level, ?_⟩
    intro count
    have bound := whole.nonneg (min count front.length)
    rwa [List.take_append_of_le_length (Nat.min_le_right _ _),
      ← List.take_eq_take_min] at bound
  · have settled := whole.settled
    rw [excess_append, level, Int.zero_add] at settled
    refine ⟨settled, ?_⟩
    intro count
    have bound := whole.nonneg (front.length + count)
    rwa [List.take_append, List.take_of_length_le (Nat.le_add_right _ _),
      Nat.add_sub_cancel_left, excess_append, level, Int.zero_add] at bound

/-! ## The search for a close -/

/-- A parenthesis opened right before the sequence is closed in it. -/
def HasClose (tokens : List Token) : Prop :=
  ∃ inside behind, tokens = inside ++ ")" :: behind ∧ Balanced inside

/-- With a parenthesis open, the depth behind a token is that of the excess. -/
theorem deepen_succ (depth : Nat) (token : Token) :
    (deepen (depth + 1) token : Int) = depth + 1 + weight token := by
  unfold deepen weight
  split_ifs <;> omega

/-- The depth becomes zero at a closing parenthesis only. -/
theorem eq_close_of_deepen_eq_zero
    {depth : Nat} {token : Token}
    (closed : deepen (depth + 1) token = 0) :
    token = ")" ∧ depth = 0 := by
  unfold deepen at closed
  split_ifs at closed with opening closing
  · exact ⟨closing, by omega⟩

/-- A close that is found stands behind what settles all but one. -/
theorem settles_of_close?
    {depth offset : Nat} {tokens : List Token}
    (found : close? (depth + 1) tokens = some offset) :
    ∃ inside behind, tokens = inside ++ ")" :: behind ∧
      inside.length = offset ∧ Settles depth inside := by
  induction tokens generalizing depth offset with
  | nil => cases found
  | cons token rest hypothesis =>
      rw [close?] at found
      have height := deepen_succ depth token
      split at found
      -- The search stops at a token that closes the only parenthesis left.
      case isTrue closed =>
        obtain ⟨rfl, rfl⟩ := eq_close_of_deepen_eq_zero closed
        cases found
        exact ⟨[], rest, rfl, rfl, (settles_nil_iff _).mpr rfl⟩
      case isFalse unclosed =>
        obtain ⟨before, deeper⟩ := Nat.exists_eq_succ_of_ne_zero unclosed
        obtain ⟨later, inner, rfl⟩ := Option.map_eq_some_iff.mp found
        rw [deeper] at inner height
        obtain ⟨inside, behind, rfl, length, settles⟩ := hypothesis inner
        refine ⟨token :: inside, behind, rfl, by simp [length], ?_⟩
        rw [settles_cons_iff]
        refine ⟨Int.natCast_nonneg depth, ?_⟩
        have same : (before : Int) = depth + weight token := by
          omega
        rwa [← same]

/-- Where no close is found, the depth is above zero and follows the excess. -/
theorem foldl_deepen_of_close?_eq_none
    {depth : Nat} {passed : List Token}
    (absent : close? (depth + 1) passed = none) :
    0 < passed.foldl deepen (depth + 1) ∧
      ((passed.foldl deepen (depth + 1) : Nat) : Int) =
        depth + 1 + excess passed := by
  induction passed generalizing depth with
  | nil => simp
  | cons token passed hypothesis =>
      rw [close?] at absent
      have height := deepen_succ depth token
      split at absent
      case isTrue => cases absent
      case isFalse unclosed =>
        obtain ⟨before, deeper⟩ := Nat.exists_eq_add_one_of_ne_zero unclosed
        rw [deeper] at absent height
        obtain ⟨above, depths⟩ := hypothesis (Option.map_eq_none_iff.mp absent)
        rw [List.foldl_cons, deeper, excess_cons]
        exact ⟨above, by omega⟩

/-- Where no close is found, no more parentheses are closed than were open. -/
theorem nonneg_of_close?_eq_none
    {depth : Nat} {tokens : List Token}
    (absent : close? (depth + 1) tokens = none) :
    0 ≤ (depth : Int) + excess tokens := by
  obtain ⟨above, depths⟩ := foldl_deepen_of_close?_eq_none absent
  omega

theorem hasClose_of_close?
    {offset : Nat} {tokens : List Token}
    (found : close? 1 tokens = some offset) :
    HasClose tokens := by
  obtain ⟨inside, behind, parts, -, settles⟩ := settles_of_close? found
  exact ⟨inside, behind, parts, (settles_zero_iff inside).mp settles⟩

/-- The search fails at a parenthesis that has no partner. -/
theorem closing_of_not_hasClose
    {rest : List Token}
    (unclosed : ¬HasClose rest)
    (front : List Token) :
    closing (front ++ "(" :: rest) front.length =
      .error (.unclosedParenthesis front.length) := by
  cases found : close? 1 rest with
  | some offset => exact absurd (hasClose_of_close? found) unclosed
  | none =>
      rw [closing, List.drop_left, close?_open, found]
      rfl

/-- A balanced sequence holds the partners of its opening parentheses. -/
theorem Balanced.hasClose
    {front rest : List Token}
    (whole : Balanced (front ++ "(" :: rest)) :
    HasClose rest := by
  cases found : close? 1 rest with
  | some offset => exact hasClose_of_close? found
  | none =>
      -- Without a close, what the front and this parenthesis open stays open.
      have opened : 0 ≤ excess front := by
        simpa using whole.nonneg front.length
      have settled := whole.settled
      have one : weight "(" = 1 := rfl
      have remaining : 0 ≤ ((0 : Nat) : Int) + excess rest :=
        nonneg_of_close?_eq_none found
      rw [excess_append, excess_cons, one] at settled
      omega

/-- Where all parentheses have partners, no more are opened than are closed. -/
theorem excess_le_zero_of_hasClose
    {tokens : List Token}
    (closed : ∀ front rest, tokens = front ++ "(" :: rest → HasClose rest) :
    excess tokens ≤ 0 := by
  -- By induction on the length: an opening parenthesis is passed over together
  -- with what it encloses.
  induction size : tokens.length using Nat.strongRecOn
    generalizing tokens with
  | _ length hypothesis =>
      cases tokens with
      | nil => simp
      | cons token rest =>
          by_cases opening : token = "("
          · obtain ⟨inside, behind, parts, balanced⟩ :=
              closed [] rest (by rw [opening]; rfl)
            have later : excess behind ≤ 0 := by
              refine hypothesis behind.length ?_ ?_ rfl
              · rw [← size, parts]
                simp
                omega
              · intro front more same
                apply closed (token :: (inside ++ ")" :: front))
                simp [parts, same]
            have one : weight "(" = 1 := rfl
            have minus : weight ")" = -1 := rfl
            rw [opening, parts, excess_cons, excess_append, excess_cons,
              balanced.settled, one, minus]
            omega
          · have later : excess rest ≤ 0 := by
              refine hypothesis rest.length ?_ ?_ rfl
              · rw [← size]
                simp
              · intro front more same
                exact closed (token :: front) more (by rw [same]; rfl)
            have here : weight token ≤ 0 := by
              unfold weight
              split_ifs <;> omega
            rw [excess_cons]
            omega

end Bracket

/-! ## Pieces of a balanced body -/

theorem Bracket.excess_of_blanks
    {tokens : List Token}
    (blanks : ∀ token ∈ tokens, token = Token.blank) :
    excess tokens = 0 := by
  apply excess_eq_zero
  · exact fun member => absurd (blanks _ member) (by decide)
  · exact fun member => absurd (blanks _ member) (by decide)

/-- Blanks around a balanced sequence do not matter. -/
theorem Bracket.Balanced.of_blanks
    {before inside behind : List Token}
    (whole : Balanced (before ++ (inside ++ behind)))
    (first : ∀ token ∈ before, token = Token.blank)
    (last : ∀ token ∈ behind, token = Token.blank) :
    Balanced inside := by
  have inner := (whole.of_append (excess_of_blanks first)).2
  have settled := inner.settled
  rw [excess_append, excess_of_blanks last, Int.add_zero] at settled
  exact (inner.of_append settled).1

theorem Bracket.Balanced.trim
    {tokens : List Token}
    (balanced : Balanced tokens) :
    Balanced (Token.trim tokens) := by
  obtain ⟨front, back, parts, before, behind, -⟩ := Token.trim_parts tokens
  rw [parts] at balanced
  exact balanced.of_blanks before behind

namespace Fragment

/--
Dividing what settles the open parentheses leaves a first piece that settles
them and later pieces that are balanced.
-/
theorem settles_cut
    {depth : Int} {tokens : List Token}
    (settles : Bracket.Settles depth tokens) :
    Bracket.Settles depth (cut depth tokens).1 ∧
      ∀ piece ∈ (cut depth tokens).2, Bracket.Balanced piece := by
  induction tokens generalizing depth with
  | nil => exact ⟨settles, by simp [cut]⟩
  | cons token rest hypothesis =>
      obtain ⟨start, later⟩ := (Bracket.settles_cons_iff _ _ _).mp settles
      obtain ⟨first, others⟩ := hypothesis later
      rw [cut]
      split
      case isTrue divides =>
        obtain ⟨rfl, rfl⟩ := divides
        have level : Bracket.weight "," = 0 := rfl
        rw [level, Int.add_zero] at first others ⊢
        refine ⟨(Bracket.settles_nil_iff 0).mpr rfl, ?_⟩
        intro piece member
        rcases List.mem_cons.mp member with rfl | member
        · exact (Bracket.settles_zero_iff _).mp first
        · exact others piece member
      case isFalse =>
        exact ⟨(Bracket.settles_cons_iff _ _ _).mpr ⟨start, first⟩, others⟩

theorem balanced_of_mem_pieces
    {body piece : List Token}
    (balanced : Bracket.Balanced body)
    (member : piece ∈ pieces body) :
    Bracket.Balanced piece := by
  obtain ⟨first, later⟩ :=
    settles_cut ((Bracket.settles_zero_iff body).mpr balanced)
  rcases List.mem_cons.mp member with rfl | member
  · exact (Bracket.settles_zero_iff _).mp first
  · exact later piece member

/-- The fragments of a balanced body are balanced. -/
theorem balanced_of_mem_split
    {body fragment : List Token}
    (balanced : Bracket.Balanced body)
    (member : fragment ∈ split body) :
    Bracket.Balanced fragment := by
  obtain ⟨piece, listed, rfl⟩ := exists_piece_of_mem_split member
  exact (balanced_of_mem_pieces balanced listed).trim

end Fragment

end SqlCatalog
