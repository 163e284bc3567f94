import SqlCatalog.Fault
import SqlCatalog.Token.Basic

/-!
# Parentheses

Two measures of nesting.  The excess counts opening parentheses minus closing
ones and may be negative; a sequence is balanced if its excess is zero and no
initial part has a negative one.  The search for the close of a parenthesis
uses a depth that stops at zero, which makes no difference as long as it
starts at an opening parenthesis.
-/

namespace SqlCatalog.Bracket

/-- The contribution of a token to the excess. -/
def weight (token : Token) : Int :=
  if token = "(" then 1 else if token = ")" then -1 else 0

/-- The number of opening parentheses minus that of closing ones. -/
def excess : List Token → Int
  | [] => 0
  | token :: tokens => weight token + excess tokens

/-- Every parenthesis of the sequence has its partner in the sequence. -/
structure Balanced (tokens : List Token) : Prop where
  /-- There are as many opening as closing parentheses. -/
  settled : excess tokens = 0
  /-- No initial part closes more parentheses than it opens. -/
  nonneg : ∀ count, 0 ≤ excess (tokens.take count)

/-- The depth behind a token, never below zero. -/
def deepen (depth : Nat) (token : Token) : Nat :=
  if token = "(" then depth + 1 else if token = ")" then depth - 1 else depth

/-- The offset of the first token behind which the depth is zero. -/
def close? (depth : Nat) : List Token → Option Nat
  | [] => none
  | token :: rest =>
    if deepen depth token = 0 then some 0
    else (close? (deepen depth token) rest).map (· + 1)

/--
The index of the parenthesis that closes the one at index `start`.  A token at
`start` that opens nothing closes itself.
-/
def closing (tokens : List Token) (start : Nat) : Except Fault Nat :=
  match close? 0 (tokens.drop start) with
  | some offset => .ok (start + offset)
  | none => .error (.unclosedParenthesis start)

@[simp]
theorem excess_nil : excess [] = 0 := rfl

@[simp]
theorem excess_cons (token : Token) (tokens : List Token) :
    excess (token :: tokens) = weight token + excess tokens := rfl

@[simp]
theorem excess_append (front back : List Token) :
    excess (front ++ back) = excess front + excess back := by
  induction front with
  | nil => simp
  | cons token front hypothesis => simp [hypothesis, Int.add_assoc]

/-- The empty sequence is balanced. -/
theorem balanced_nil : Balanced [] where
  settled := rfl
  nonneg count := by simp

/-- The close lies inside the sequence that was searched. -/
theorem close?_lt_length {depth offset : Nat} {tokens : List Token}
    (found : close? depth tokens = some offset) :
    offset < tokens.length := by
  induction tokens generalizing depth offset with
  | nil => cases found
  | cons token rest hypothesis =>
    rw [close?] at found
    split at found
    · cases found
      exact Nat.zero_lt_succ _
    · obtain ⟨before, inner, rfl⟩ := Option.map_eq_some_iff.mp found
      exact Nat.succ_lt_succ (hypothesis inner)

/-- A close that is found lies at or behind the start and is an index. -/
theorem closing_bounds {tokens : List Token} {start close : Nat}
    (found : closing tokens start = .ok close) :
    start ≤ close ∧ close < tokens.length := by
  unfold closing at found
  split at found
  case h_1 offset inner =>
    cases found
    have bound := close?_lt_length inner
    rw [List.length_drop] at bound
    omega
  case h_2 => cases found

example : closing ["(", "a", "(", ")", ")", ")"] 0 = .ok 4 := rfl

end SqlCatalog.Bracket
