import SqlCatalog.Proofs.Bracket.Matching

/-!
# Partners of parentheses

The partner of an opening parenthesis is a closing one behind it with as many
opening as closing parentheses in between, of which no initial part has more
closing ones.  There is one partner at most, and the search for the close finds
it or fails.  At each closing parenthesis that the search reaches the depth is
above zero, so that stopping at zero never shows.  The pairs of a sequence are
nested or apart.
-/

namespace SqlCatalog.Bracket

/-! ## Counting parentheses -/

theorem excess_eq_count (tokens : List Token) :
    excess tokens = (tokens.count "(" : Int) - tokens.count ")" := by
  induction tokens with
  | nil => rfl
  | cons token rest hypothesis =>
      rw [excess_cons, hypothesis, weight, List.count_cons, List.count_cons]
      split_ifs with opening closing closing <;> grind

theorem balanced_iff_count (tokens : List Token) :
    Balanced tokens ↔
      tokens.count "(" = tokens.count ")" ∧
        ∀ front, front <+: tokens → front.count ")" ≤ front.count "(" := by
  constructor
  · rintro ⟨settled, nonneg⟩
    rw [excess_eq_count] at settled
    refine ⟨by omega, ?_⟩
    intro front initial
    have bound := nonneg front.length
    rw [← List.prefix_iff_eq_take.mp initial, excess_eq_count] at bound
    omega
  · rintro ⟨same, most⟩
    refine ⟨by rw [excess_eq_count]; omega, ?_⟩
    intro count
    have bound := most (tokens.take count) (List.take_prefix count tokens)
    rw [excess_eq_count]
    omega

/-! ## Partners -/

/-- The tokens strictly between two indices. -/
def between (tokens : List Token) (start close : Nat) : List Token :=
  (tokens.drop (start + 1)).take (close - (start + 1))

/-- The parenthesis at `close` is the partner of the one at `start`. -/
structure IsPartner (tokens : List Token) (start close : Nat) : Prop where
  /-- The partner stands behind the opening parenthesis. -/
  behind : start < close
  /-- The partner is a closing parenthesis. -/
  mark : tokens[close]? = some ")"
  /-- As many parentheses are opened in between as are closed. -/
  settled :
    (between tokens start close).count "(" =
      (between tokens start close).count ")"
  /-- No initial part of what is in between closes more than it opens. -/
  most : ∀ front, front <+: between tokens start close →
    front.count ")" ≤ front.count "("

theorem drop_of_getElem?
    {tokens : List Token} {index : Nat} {token : Token}
    (there : tokens[index]? = some token) :
    tokens.drop index = token :: tokens.drop (index + 1) := by
  obtain ⟨inside, rfl⟩ := List.getElem?_eq_some_iff.mp there
  exact List.drop_eq_getElem_cons inside

theorem exists_parts_of_getElem?
    {tokens : List Token} {index : Nat} {token : Token}
    (there : tokens[index]? = some token) :
    ∃ front back, tokens = front ++ token :: back ∧ front.length = index := by
  obtain ⟨inside, -⟩ := List.getElem?_eq_some_iff.mp there
  refine ⟨tokens.take index, tokens.drop (index + 1), ?_,
    List.length_take_of_le (Nat.le_of_lt inside)⟩
  rw [← drop_of_getElem? there, List.take_append_drop]

/-- A pair of partners divides the sequence, with a balanced part inside. -/
theorem isPartner_iff_parts
    {tokens : List Token} {start close : Nat}
    (opening : tokens[start]? = some "(") :
    IsPartner tokens start close ↔
      ∃ front inside behind,
        tokens = front ++ "(" :: (inside ++ ")" :: behind) ∧
          front.length = start ∧ start + (inside.length + 1) = close ∧
            Balanced inside := by
  constructor
  · rintro ⟨behind, mark, settled, most⟩
    obtain ⟨within, -⟩ := List.getElem?_eq_some_iff.mp mark
    have outer := List.take_append_drop start tokens
    have inner := List.take_append_drop (close - (start + 1))
      (tokens.drop (start + 1))
    rw [List.drop_drop, Nat.add_sub_of_le behind, drop_of_getElem? mark]
      at inner
    rw [drop_of_getElem? opening, ← inner] at outer
    refine ⟨tokens.take start, between tokens start close,
      tokens.drop (close + 1), outer.symm, ?_, ?_,
      (balanced_iff_count _).mpr ⟨settled, most⟩⟩
    · rw [List.length_take]
      omega
    · rw [between, List.length_take, List.length_drop]
      omega
  · rintro ⟨front, inside, behind, rfl, rfl, rfl, balanced⟩
    have same :
        between (front ++ "(" :: (inside ++ ")" :: behind)) front.length
          (front.length + (inside.length + 1)) = inside := by
      have width :
          front.length + (inside.length + 1) - (front.length + 1) =
            inside.length := by
        omega
      rw [between, width, List.drop_length_add_append]
      simp
    obtain ⟨settled, most⟩ := (balanced_iff_count inside).mp balanced
    refine ⟨by omega, ?_, by rwa [same], by rwa [same]⟩
    rw [List.getElem?_append_right (Nat.le_add_right _ _),
      Nat.add_sub_cancel_left, List.getElem?_cons_succ]
    simp

/-! ## The search for the partner -/

/-- The search succeeds at the partner and only there. -/
theorem closing_eq_ok_iff
    {tokens : List Token} {start close : Nat}
    (opening : tokens[start]? = some "(") :
    closing tokens start = .ok close ↔ IsPartner tokens start close := by
  rw [isPartner_iff_parts opening]
  constructor
  · intro found
    obtain ⟨front, rest, rfl, rfl⟩ := exists_parts_of_getElem? opening
    rw [closing, List.drop_left, close?_open] at found
    cases search : close? 1 rest with
    | none => simp [search] at found
    | some offset =>
        obtain ⟨inside, behind, rfl, rfl, settles⟩ := settles_of_close? search
        rw [search] at found
        cases found
        exact ⟨front, inside, behind, rfl, rfl, rfl,
          (settles_zero_iff inside).mp settles⟩
  · rintro ⟨front, inside, behind, rfl, rfl, rfl, balanced⟩
    exact closing_of_balanced balanced front behind

theorem IsPartner.eq
    {tokens : List Token} {start close other : Nat}
    (opening : tokens[start]? = some "(")
    (first : IsPartner tokens start close)
    (second : IsPartner tokens start other) :
    close = other := by
  rw [← closing_eq_ok_iff opening] at first second
  exact Except.ok.inj (first.symm.trans second)

/-- The search fails if there is no partner and only then. -/
theorem closing_eq_error_iff
    {tokens : List Token} {start : Nat}
    (opening : tokens[start]? = some "(") :
    closing tokens start = .error (.unclosedParenthesis start) ↔
      ¬∃ close, IsPartner tokens start close := by
  constructor
  · rintro failed ⟨close, partner⟩
    rw [← closing_eq_ok_iff opening, failed] at partner
    cases partner
  · intro alone
    cases found : closing tokens start with
    | ok close =>
        exact absurd ⟨close, (closing_eq_ok_iff opening).mp found⟩ alone
    | error fault =>
        rw [closing] at found
        split at found
        · cases found
        · exact found.symm

/-! ## The depth of the search -/

/-- A close that is found in an initial part is found in the whole. -/
theorem close?_append_of_some
    {depth offset : Nat} {passed : List Token}
    (found : close? depth passed = some offset)
    (rest : List Token) :
    close? depth (passed ++ rest) = some offset := by
  induction passed generalizing depth offset with
  | nil => cases found
  | cons token passed hypothesis =>
      rw [close?] at found
      rw [List.cons_append, close?]
      split at found
      case isTrue closed => rwa [if_pos closed]
      case isFalse unclosed =>
        obtain ⟨before, inner, rfl⟩ := Option.map_eq_some_iff.mp found
        rw [if_neg unclosed, hypothesis inner]
        rfl

/-- Where no close is found, the search goes on with the depth it has reached. -/
theorem close?_append_of_none
    {depth : Nat} {passed : List Token}
    (absent : close? depth passed = none)
    (rest : List Token) :
    close? depth (passed ++ rest) =
      (close? (passed.foldl deepen depth) rest).map (· + passed.length) := by
  induction passed generalizing depth with
  | nil => simp
  | cons token passed hypothesis =>
      rw [close?] at absent
      split at absent
      case isTrue => cases absent
      case isFalse unclosed =>
        rw [List.cons_append, close?, if_neg unclosed,
          hypothesis (Option.map_eq_none_iff.mp absent), Option.map_map,
          List.foldl_cons]
        rfl

/-- The depth of the search from `start` before it reads the token at `index`. -/
def depthAt (tokens : List Token) (start index : Nat) : Nat :=
  ((tokens.drop start).take (index - start)).foldl deepen 0

/-- The search from `start` has not ended before it comes to `index`. -/
structure IsReached (tokens : List Token) (start index : Nat) : Prop where
  /-- The search begins at `start`. -/
  begun : start ≤ index
  /-- The search goes on up to the end of the sequence. -/
  within : index ≤ tokens.length
  /-- The search ends at the first close. -/
  unended : ∀ close, closing tokens start = .ok close → index ≤ close

/-- Up to an index that the search reaches, it has found no close. -/
theorem IsReached.close?_eq_none
    {tokens : List Token} {start index : Nat}
    (reached : IsReached tokens start index) :
    close? 0 ((tokens.drop start).take (index - start)) = none := by
  cases found : close? 0 ((tokens.drop start).take (index - start)) with
  | none => rfl
  | some offset =>
      have whole := close?_append_of_some found
        ((tokens.drop start).drop (index - start))
      rw [List.take_append_drop] at whole
      have early : offset < index - start :=
        Nat.lt_of_lt_of_le (close?_lt_length found) (List.length_take_le _ _)
      have late := reached.unended (start + offset) (by rw [closing, whole])
      omega

/-- From an index that it reaches, the search goes on with the depth there. -/
theorem IsReached.closing_eq
    {tokens : List Token} {start index : Nat}
    (reached : IsReached tokens start index) :
    closing tokens start =
      match close? (depthAt tokens start index) (tokens.drop index) with
      | some offset => .ok (index + offset)
      | none => .error (.unclosedParenthesis start) := by
  have absent := reached.close?_eq_none
  obtain ⟨begun, within, -⟩ := reached
  have whole := close?_append_of_none absent
    ((tokens.drop start).drop (index - start))
  rw [List.take_append_drop, List.drop_drop, Nat.add_sub_of_le begun,
    ← depthAt, List.length_take_of_le (by rw [List.length_drop]; omega)]
    at whole
  rw [closing, whole]
  cases close? (depthAt tokens start index) (tokens.drop index) with
  | none => rfl
  | some offset =>
      have place : start + (offset + (index - start)) = index + offset := by
        omega
      simp [place]

/--
Behind the opening parenthesis the depth is that of the excess and above zero.
-/
theorem IsReached.depthAt_eq
    {tokens : List Token} {start index : Nat}
    (opening : tokens[start]? = some "(")
    (reached : IsReached tokens start index)
    (further : start < index) :
    0 < depthAt tokens start index ∧
      (depthAt tokens start index : Int) =
        1 + excess (between tokens start index) := by
  have passed :
      (tokens.drop start).take (index - start) =
        "(" :: between tokens start index := by
    obtain ⟨later, rfl⟩ := Nat.exists_eq_add_of_lt further
    have width : start + later + 1 - start = later + 1 := by
      omega
    have inner : start + later + 1 - (start + 1) = later := by
      omega
    rw [drop_of_getElem? opening, between, width, inner, List.take_succ_cons]
  have absent := reached.close?_eq_none
  rw [passed, close?_open, Option.map_eq_none_iff] at absent
  have depths := @foldl_deepen_of_close?_eq_none 0 _ absent
  rw [depthAt, passed, List.foldl_cons]
  simpa [deepen] using depths

/-! ## Two pairs -/

/-- A parenthesis that is opened inside of a pair is closed inside of it. -/
theorem IsPartner.close_lt
    {tokens : List Token} {start other close otherClose : Nat}
    (opening : tokens[start]? = some "(")
    (inner : tokens[other]? = some "(")
    (first : IsPartner tokens start close)
    (second : IsPartner tokens other otherClose)
    (later : start < other)
    (inside : other < close) :
    otherClose < close := by
  obtain ⟨front, content, behind, rfl, rfl, rfl, balanced⟩ :=
    (isPartner_iff_parts opening).mp first
  obtain ⟨offset, rfl⟩ := Nat.exists_eq_add_of_lt later
  have here : content[offset]? = some "(" := by
    have place : front.length + offset + 1 - front.length = offset + 1 := by
      omega
    rwa [List.getElem?_append_right (by omega), place, List.getElem?_cons_succ,
      List.getElem?_append_left (by omega)] at inner
  obtain ⟨before, rest, rfl, rfl⟩ := exists_parts_of_getElem? here
  obtain ⟨nested, others, rfl, settled⟩ := balanced.hasClose
  have partner :=
    (isPartner_iff_parts inner).mpr
      ⟨front ++ "(" :: before, nested, others ++ ")" :: behind, by simp,
        by simp [Nat.add_assoc], rfl, settled⟩
  rw [second.eq inner partner]
  simp
  omega

/-- Two pairs of a sequence are apart, or one of them is inside of the other. -/
def NestedOrApart (start close other otherClose : Nat) : Prop :=
  close < other ∨ otherClose < start ∨
    start < other ∧ otherClose < close ∨ other < start ∧ close < otherClose

/-- Of two pairs the one that is opened first is closed first or last. -/
theorem IsPartner.nestedOrApart
    {tokens : List Token} {start other close otherClose : Nat}
    (opening : tokens[start]? = some "(")
    (second : tokens[other]? = some "(")
    (different : start ≠ other)
    (partner : IsPartner tokens start close)
    (otherPartner : IsPartner tokens other otherClose) :
    close ≠ otherClose ∧ NestedOrApart start close other otherClose := by
  have close_ne {index : Nat} (here : tokens[index]? = some "(") :
      index ≠ close := by
    rintro rfl
    simp [partner.mark] at here
  have otherClose_ne {index : Nat} (here : tokens[index]? = some "(") :
      index ≠ otherClose := by
    rintro rfl
    simp [otherPartner.mark] at here
  have := partner.behind
  have := otherPartner.behind
  rcases Nat.lt_or_gt_of_ne different with earlier | later
  · rcases Nat.lt_or_gt_of_ne (close_ne second) with inside | apart
    · have nested :=
        partner.close_lt opening second otherPartner earlier inside
      exact ⟨Nat.ne_of_gt nested, Or.inr (Or.inr (Or.inl ⟨earlier, nested⟩))⟩
    · exact ⟨by omega, Or.inl apart⟩
  · rcases Nat.lt_or_gt_of_ne (otherClose_ne opening) with inside | apart
    · have nested :=
        otherPartner.close_lt second opening partner later inside
      exact ⟨Nat.ne_of_lt nested, Or.inr (Or.inr (Or.inr ⟨later, nested⟩))⟩
    · exact ⟨by omega, Or.inr (Or.inl apart)⟩

/-- The search from an opening parenthesis is exact. -/
structure ClosesExactly (tokens : List Token) (start : Nat) : Prop where
  /-- It succeeds at the partner and only there. -/
  ok_iff : ∀ close, closing tokens start = .ok close ↔
    IsPartner tokens start close
  /-- There is one partner at most. -/
  unique : ∀ close other, IsPartner tokens start close →
    IsPartner tokens start other → close = other
  /-- It fails if there is no partner and only then. -/
  error_iff : closing tokens start = .error (.unclosedParenthesis start) ↔
    ¬∃ close, IsPartner tokens start close
  /-- From an index that it reaches it goes on with the depth there. -/
  resumes : ∀ index, IsReached tokens start index →
    closing tokens start =
      match close? (depthAt tokens start index) (tokens.drop index) with
      | some offset => .ok (index + offset)
      | none => .error (.unclosedParenthesis start)
  /-- Behind the opening parenthesis its depth is that of the excess. -/
  counted : ∀ index, IsReached tokens start index → start < index →
    (depthAt tokens start index : Int) = 1 + excess (between tokens start index)
  /-- No closing parenthesis that it reaches is read at a depth of zero. -/
  unsaturated : ∀ index, IsReached tokens start index →
    tokens[index]? = some ")" → 0 < depthAt tokens start index
  /-- It shares no close with another search, and the pairs do not cross. -/
  uncrossed : ∀ other close otherClose, start ≠ other →
    tokens[other]? = some "(" → closing tokens start = .ok close →
      closing tokens other = .ok otherClose →
        close ≠ otherClose ∧ NestedOrApart start close other otherClose

/-- The search for the close of an opening parenthesis is exact. -/
theorem closes_exactly
    {tokens : List Token} {start : Nat}
    (opening : tokens[start]? = some "(") :
    ClosesExactly tokens start where
  ok_iff close := closing_eq_ok_iff opening
  unique close other first second := first.eq opening second
  error_iff := closing_eq_error_iff opening
  resumes index reached := reached.closing_eq
  counted index reached further := (reached.depthAt_eq opening further).2
  unsaturated index reached mark := by
    have further : start ≠ index := by
      rintro rfl
      simp [opening] at mark
    exact (reached.depthAt_eq opening
      (Nat.lt_of_le_of_ne reached.begun further)).1
  uncrossed other close otherClose different second found otherFound :=
    ((closing_eq_ok_iff opening).mp found).nestedOrApart opening second
      different ((closing_eq_ok_iff second).mp otherFound)

/-- Two pairs, one of which is inside of the other. -/
theorem closes_exactly_nested :
    IsPartner ["(", "a", "(", ")", ")", ")"] 0 4 ∧
      0 < depthAt ["(", "a", "(", ")", ")", ")"] 0 3 ∧
        NestedOrApart 0 4 2 3 := by
  have exactly := @closes_exactly ["(", "a", "(", ")", ")", ")"] 0 rfl
  refine ⟨(exactly.ok_iff 4).mp rfl, exactly.unsaturated 3 ?_ rfl,
    (exactly.uncrossed 2 4 3 (by decide) rfl rfl rfl).2⟩
  refine ⟨by decide, by decide, ?_⟩
  intro close found
  have same : close = 4 := (Except.ok.inj found).symm
  omega

end SqlCatalog.Bracket
