import Mathlib.Data.List.Basic
import SqlCatalog.Fragment.Split

/-!
# Balanced sequences and pieces of a body

A balanced sequence behind an opening parenthesis does not close it, so the
search for the close passes over it.  A comma in front of which the excess of
parentheses is not zero divides nothing, so a sequence without other commas
is one piece.
-/

namespace SqlCatalog

namespace Bracket

theorem weight_eq_zero
    {token : Token}
    (noOpen : token ≠ "(") (noClose : token ≠ ")") :
    weight token = 0 := by
  simp [weight, noOpen, noClose]

/-- A sequence without parentheses has no excess. -/
theorem excess_eq_zero
    {tokens : List Token}
    (noOpen : "(" ∉ tokens) (noClose : ")" ∉ tokens) :
    excess tokens = 0 := by
  induction tokens with
  | nil => rfl
  | cons token tokens hypothesis =>
      simp only [List.mem_cons, not_or] at noOpen noClose
      rw [excess_cons, weight_eq_zero (Ne.symm noOpen.1) (Ne.symm noClose.1),
        hypothesis noOpen.2 noClose.2, Int.add_zero]

theorem balanced_of_not_mem
    {tokens : List Token}
    (noOpen : "(" ∉ tokens) (noClose : ")" ∉ tokens) :
    Balanced tokens where
  settled := excess_eq_zero noOpen noClose
  nonneg count := by
    have initial : excess (tokens.take count) = 0 := by
      apply excess_eq_zero
      · exact fun member => noOpen (List.mem_of_mem_take member)
      · exact fun member => noClose (List.mem_of_mem_take member)
    exact Int.le_of_eq initial.symm

/-- Balanced sequences one after the other are balanced. -/
theorem Balanced.append
    {front back : List Token}
    (left : Balanced front) (right : Balanced back) :
    Balanced (front ++ back) where
  settled := by
    rw [excess_append, left.settled, right.settled, Int.add_zero]
  nonneg count := by
    rw [List.take_append, excess_append]
    have first := left.nonneg count
    have second := right.nonneg (count - front.length)
    omega

/-- A balanced sequence in parentheses is balanced. -/
theorem Balanced.wrap
    {tokens : List Token}
    (inner : Balanced tokens) :
    Balanced ("(" :: (tokens ++ [")"])) where
  settled := by
    simp only [excess_cons, excess_append, inner.settled]
    decide
  nonneg count := by
    cases count with
    | zero => simp
    | succ count =>
        rw [List.take_succ_cons, List.take_append, excess_cons, excess_append]
        have first := inner.nonneg count
        have last : -1 ≤ excess ([")"].take (count - tokens.length)) := by
          cases count - tokens.length <;> simp [weight]
        have opening : weight "(" = 1 := rfl
        omega

theorem Balanced.intercalate
    {separator : List Token}
    (between : Balanced separator)
    {parts : List (List Token)}
    (each : ∀ part ∈ parts, Balanced part) :
    Balanced (separator.intercalate parts) := by
  induction parts with
  | nil => exact balanced_nil
  | cons part later hypothesis =>
      have first := each part List.mem_cons_self
      have others := hypothesis fun other member =>
        each other (List.mem_cons_of_mem part member)
      cases later with
      | nil => rwa [List.intercalate_singleton]
      | cons next later =>
          rw [List.intercalate_cons_cons]
          exact (first.append between).append others

/--
The search for a close passes over a sequence that never closes more than was
opened before it.
-/
theorem close?_append
    {tokens : List Token} {depth : Nat}
    (nonneg : ∀ count, 0 ≤ (depth : Int) + excess (tokens.take count))
    (rest : List Token) :
    close? (depth + 1) (tokens ++ rest) =
      (close? (depth + 1 + excess tokens).toNat rest).map
        (· + tokens.length) := by
  induction tokens generalizing depth with
  | nil => simp
  | cons token tokens hypothesis =>
      have first : 0 ≤ (depth : Int) + weight token := by
        simpa using nonneg 1
      have deeper :
          deepen (depth + 1) token = (depth + weight token).toNat + 1 := by
        unfold weight at first ⊢
        unfold deepen
        split_ifs at first ⊢ <;> omega
      have later :
          ∀ count,
            0 ≤ ((depth + weight token).toNat : Int) +
              excess (tokens.take count) := by
        intro count
        have bound := nonneg (count + 1)
        rw [List.take_succ_cons, excess_cons] at bound
        omega
      rw [List.cons_append, close?, deeper, if_neg (Nat.succ_ne_zero _),
        hypothesis later, Option.map_map, excess_cons]
      have depths :
          (((depth + weight token).toNat : Int) + 1 + excess tokens) =
            depth + 1 + (weight token + excess tokens) := by
        omega
      rw [depths]
      rfl

/-- At an opening parenthesis the search goes on with a depth of one. -/
theorem close?_open (rest : List Token) :
    close? 0 ("(" :: rest) = (close? 1 rest).map (· + 1) := by
  simp [close?, deepen]

/-- The close of a parenthesis stands behind the balanced sequence in it. -/
theorem closing_of_balanced
    {body : List Token}
    (balanced : Balanced body)
    (front back : List Token) :
    closing (front ++ "(" :: (body ++ ")" :: back)) front.length =
      .ok (front.length + body.length + 1) := by
  have nonneg (count : Nat) : 0 ≤ ((0 : Nat) : Int) + excess (body.take count) := by
    have bound := balanced.nonneg count
    omega
  have inside : close? 1 (body ++ ")" :: back) = some body.length := by
    have passed := close?_append nonneg (")" :: back)
    rw [balanced.settled] at passed
    rw [passed]
    simp [close?, deepen]
  rw [closing, List.drop_left, close?_open, inside]
  simp [Nat.add_assoc]

end Bracket

/-! ## Pieces -/

namespace Fragment

/-- No comma of the sequence stands outside of parentheses. -/
def IsUndivided (tokens : List Token) : Prop :=
  ∀ front back, tokens = front ++ "," :: back → Bracket.excess front ≠ 0

theorem isUndivided_of_not_mem
    {tokens : List Token}
    (noComma : "," ∉ tokens) :
    IsUndivided tokens := by
  rintro front back rfl
  simp at noComma

theorem IsUndivided.append
    {front back : List Token}
    (settled : Bracket.excess front = 0)
    (left : IsUndivided front) (right : IsUndivided back) :
    IsUndivided (front ++ back) := by
  intro before after parts
  rcases List.append_eq_append_iff.mp parts with
    ⟨middle, rfl, inBack⟩ | ⟨middle, rfl, inFront⟩
  · have excess := right middle after inBack
    rw [Bracket.excess_append]
    omega
  · cases middle with
    | nil =>
        have excess := right [] after (by simpa using inFront.symm)
        simp at excess
    | cons token middle =>
        injection inFront with comma _
        subst comma
        exact left before middle rfl

/-- Commas in parentheses divide nothing. -/
theorem isUndivided_wrap
    {tokens : List Token}
    (noOpen : "(" ∉ tokens) (noClose : ")" ∉ tokens) :
    IsUndivided ("(" :: (tokens ++ [")"])) := by
  intro before after parts
  cases before with
  | nil =>
      injection parts with comma _
      exact absurd comma (by decide)
  | cons opening before =>
      injection parts with opened parts
      have inside : ∀ token ∈ before, token ∈ tokens := by
        rcases List.append_eq_append_iff.mp parts with
          ⟨middle, -, close⟩ | ⟨middle, rfl, -⟩
        · cases middle with
          | nil =>
              injection close with comma _
              exact absurd comma (by decide)
          | cons token middle => simp at close
        · intro token member
          exact List.mem_append_left middle member
      have level : Bracket.excess before = 0 := by
        apply Bracket.excess_eq_zero
        · exact fun member => noOpen (inside _ member)
        · exact fun member => noClose (inside _ member)
      rw [Bracket.excess_cons, level, ← opened]
      decide

theorem cut_append
    {tokens : List Token} {depth : Int}
    (undivided : ∀ front back, tokens = front ++ "," :: back →
      depth + Bracket.excess front ≠ 0)
    (rest : List Token) :
    cut depth (tokens ++ rest) =
      (tokens ++ (cut (depth + Bracket.excess tokens) rest).1,
        (cut (depth + Bracket.excess tokens) rest).2) := by
  induction tokens generalizing depth with
  | nil => simp
  | cons token tokens hypothesis =>
      have passed : ¬(token = "," ∧ depth = 0) := by
        rintro ⟨rfl, rfl⟩
        exact undivided [] tokens rfl (by simp)
      have later :
          ∀ front back, tokens = front ++ "," :: back →
            depth + Bracket.weight token + Bracket.excess front ≠ 0 := by
        rintro front back rfl
        have bound := undivided (token :: front) back rfl
        rwa [Bracket.excess_cons, ← Int.add_assoc] at bound
      rw [List.cons_append, cut, hypothesis later, if_neg passed,
        Bracket.excess_cons, Int.add_assoc]
      rfl

/-- What may stand between two dividing commas. -/
structure IsPiece (tokens : List Token) : Prop where
  /-- Parentheses are closed inside. -/
  balanced : Bracket.Balanced tokens
  /-- Commas stand in parentheses only. -/
  undivided : IsUndivided tokens

theorem IsPiece.append
    {front back : List Token}
    (left : IsPiece front) (right : IsPiece back) :
    IsPiece (front ++ back) where
  balanced := left.balanced.append right.balanced
  undivided := .append left.balanced.settled left.undivided right.undivided

theorem isPiece_of_not_mem
    {tokens : List Token}
    (noOpen : "(" ∉ tokens) (noClose : ")" ∉ tokens) (noComma : "," ∉ tokens) :
    IsPiece tokens where
  balanced := Bracket.balanced_of_not_mem noOpen noClose
  undivided := isUndivided_of_not_mem noComma

theorem isPiece_wrap
    {tokens : List Token}
    (noOpen : "(" ∉ tokens) (noClose : ")" ∉ tokens) :
    IsPiece ("(" :: (tokens ++ [")"])) where
  balanced := (Bracket.balanced_of_not_mem noOpen noClose).wrap
  undivided := isUndivided_wrap noOpen noClose

theorem IsPiece.cut_append
    {front : List Token}
    (piece : IsPiece front)
    (rest : List Token) :
    cut 0 (front ++ rest) = (front ++ (cut 0 rest).1, (cut 0 rest).2) := by
  have undivided :
      ∀ before after, front = before ++ "," :: after →
        0 + Bracket.excess before ≠ 0 := by
    intro before after parts
    rw [Int.zero_add]
    exact piece.undivided before after parts
  have passed := Fragment.cut_append undivided rest
  rwa [piece.balanced.settled, Int.add_zero] at passed

/-- Pieces joined by commas fall apart where they were joined. -/
theorem pieces_intercalate
    {fragments : List (List Token)}
    (filled : fragments ≠ [])
    (each : ∀ fragment ∈ fragments, IsPiece fragment) :
    pieces ([","].intercalate fragments) = fragments := by
  induction fragments with
  | nil => exact absurd rfl filled
  | cons fragment later hypothesis =>
      have piece := each fragment List.mem_cons_self
      cases later with
      | nil =>
          have passed := piece.cut_append []
          rw [List.append_nil] at passed
          rw [List.intercalate_singleton, pieces, passed]
          simp [cut]
      | cons next later =>
          have others :=
            hypothesis (List.cons_ne_nil next later)
              fun other member => each other (List.mem_cons_of_mem _ member)
          have passed := piece.cut_append ("," :: [","].intercalate (next :: later))
          have level : Bracket.weight "," = 0 := rfl
          rw [List.intercalate_cons_cons, List.append_assoc,
            List.singleton_append, pieces, passed, cut, level, Int.add_zero,
            if_pos ⟨rfl, rfl⟩, List.append_nil]
          rw [pieces] at others
          rw [others]

/-- A fragment is a piece of the body without outer blanks. -/
theorem exists_piece_of_mem_split
    {body fragment : List Token}
    (member : fragment ∈ split body) :
    ∃ piece ∈ pieces body, Token.trim piece = fragment := by
  rw [← List.mem_map]
  rw [split, dropEmptyLast] at member
  split at member
  · exact List.dropLast_subset _ member
  · exact member

end Fragment

end SqlCatalog
