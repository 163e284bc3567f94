import SqlCatalog.Fault
import SqlCatalog.Pattern

/-!
# Access by index

The library takes sequences apart by functions that never fail: whatever lies
outside of a sequence is taken to be empty or absent.  This module has the
means to read the same parts by index instead, where an access outside of the
sequence has no result, and neither has a computation that makes one.  So a
computation with a result has stayed inside all along.

Accesses have to hit.  They are not to be confused with lookups that may miss,
such as that of the token behind a key: those answer with what they found, and
reading goes on.
-/

namespace SqlCatalog.Indexed

/-! ## Computations -/

/--
A computation that makes accesses and may find a fault.  It has no result if
one of its accesses lies outside.
-/
abbrev Access := ExceptT Fault Option

/-- Steps that stay inside one after the other stay inside together. -/
theorem run_bind_of_run
    {α β : Type}
    {first : Access α} {outcome : Except Fault α}
    (inside : first.run = some outcome)
    {next : α → Access β} {answer : α → Except Fault β}
    (later : ∀ value, (next value).run = some (answer value)) :
    (first >>= next).run = some (outcome >>= answer) := by
  rw [ExceptT.run_bind, inside]
  cases outcome with
  | error fault => rfl
  | ok value => exact later value

@[simp]
theorem lift_some_bind
    {α β : Type}
    (value : α)
    (next : α → Access β) :
    (liftM (some value) : Access α) >>= next = next value := rfl

@[simp]
theorem lift_ok_bind
    {α β : Type}
    (value : α)
    (next : α → Access β) :
    (liftM (Except.ok value : Except Fault α) : Access α) >>= next =
      next value := rfl

/-! ## Accesses -/

/-- The token at an index. -/
def token? (tokens : List Token) (index : Nat) : Option Token :=
  tokens[index]?

/--
The tokens from one index up to another one.  The indices have to be in order,
and the second one may be the end of the sequence, but not lie behind it.
-/
def slice? (tokens : List Token) (start stop : Nat) : Option (List Token) :=
  if start ≤ stop ∧ stop ≤ tokens.length then
    some ((tokens.take stop).drop start)
  else none

/-- The tokens from an index on. -/
def suffix? (tokens : List Token) (start : Nat) : Option (List Token) :=
  slice? tokens start tokens.length

/-- The difference of two numbers, none if it is below zero. -/
def difference? (whole part : Nat) : Option Nat :=
  if part ≤ whole then some (whole - part) else none

theorem difference?_of_le
    {whole part : Nat}
    (enough : part ≤ whole) :
    difference? whole part = some (whole - part) :=
  if_pos enough

theorem slice?_of_le
    {tokens : List Token} {start stop : Nat}
    (ordered : start ≤ stop)
    (within : stop ≤ tokens.length) :
    slice? tokens start stop = some ((tokens.take stop).drop start) :=
  if_pos ⟨ordered, within⟩

theorem suffix?_of_le
    {tokens : List Token} {start : Nat}
    (within : start ≤ tokens.length) :
    suffix? tokens start = some (tokens.drop start) := by
  rw [suffix?, slice?_of_le within (Nat.le_refl _), List.take_length]

theorem slice?_append (front piece back : List Token) :
    slice? (front ++ (piece ++ back)) front.length
        (front.length + piece.length) =
      some piece := by
  rw [slice?_of_le (Nat.le_add_right _ _) (by simp), ← List.append_assoc,
    ← List.length_append, List.take_left, List.drop_left]

theorem suffix?_append (front back : List Token) :
    suffix? (front ++ back) front.length = some back := by
  rw [suffix?_of_le (by simp), List.drop_left]

example : slice? ["a", "b"] 1 3 = none ∧ slice? ["a", "b"] 2 1 = none := by
  decide

/-! ## Searches -/

/-- A search stays inside if each of its steps does. -/
theorem findSomeM?_of_inside
    {β : Type}
    {step : Nat → Option (Option β)} {answer : Nat → Option β}
    {indices : List Nat}
    (inside : ∀ index ∈ indices, step index = some (answer index)) :
    indices.findSomeM? step = some (indices.findSome? answer) := by
  induction indices with
  | nil => rfl
  | cons index indices hypothesis =>
      rw [List.forall_mem_cons] at inside
      rw [List.findSomeM?_cons, inside.1, List.findSome?_cons]
      cases answer index with
      | some value => rfl
      | none => exact hypothesis inside.2

/-- A search by index tries the first index, and then the others one lower. -/
theorem findSome?_range_succ
    {β : Type}
    (answer : Nat → Option β)
    (count : Nat) :
    (List.range (count + 1)).findSome? answer =
      (answer 0 <|>
        (List.range count).findSome? fun index => answer (index + 1)) := by
  rw [List.range_succ_eq_map, List.findSome?_cons, List.findSome?_map]
  cases answer 0 <;> rfl

/-- The index of the first slice that a pattern fits, each slice taken anew. -/
def find (pattern : Pattern) (tokens : List Token) : Option (Option Nat) :=
  (List.range tokens.length).findSomeM? fun start => do
    let behind ← suffix? tokens start
    return if pattern.fits behind then some start else none

/-- The search for a pattern by index is that of the library. -/
theorem find_eq (pattern : Pattern) (tokens : List Token) :
    find pattern tokens = some (pattern.find? tokens) := by
  have inside :
      find pattern tokens =
        some ((List.range tokens.length).findSome? fun start =>
          if pattern.fits (tokens.drop start) then some start else none) := by
    apply findSomeM?_of_inside
    intro start member
    rw [suffix?_of_le (Nat.le_of_lt (List.mem_range.mp member))]
    rfl
  rw [inside, Option.some_inj]
  clear inside
  induction tokens with
  | nil => rfl
  | cons token rest hypothesis =>
      rw [List.length_cons, findSome?_range_succ, Pattern.find?, ← hypothesis,
        List.map_findSome?]
      by_cases fit : pattern.fits (token :: rest) = true
      · simp [fit]
      · rw [List.drop_zero, if_neg fit, if_neg fit]
        refine congrArg (List.findSome? · _) (funext fun start => ?_)
        simp only [List.drop_succ_cons, Function.comp_apply]
        split <;> rfl

/-! ## Dividing a sequence -/

section Slices

variable {σ : Type} (divides : σ → Token → Bool) (pass : σ → Token → σ)

/--
The slices between the tokens that divide a sequence.  The tokens from `index`
on are still to come, the slice under way starts at `start`, and `state` is
what has to be known of the tokens before `index`.
-/
def slices (tokens : List Token) (start index : Nat) (state : σ) :
    List Token → Option (List (List Token))
  | [] => do
    let last ← suffix? tokens start
    return [last]
  | token :: rest =>
    if divides state token then do
      let piece ← slice? tokens start index
      let later ←
        slices tokens (index + 1) (index + 1) (pass state token) rest
      return piece :: later
    else slices tokens start (index + 1) (pass state token) rest

/-- The slices are the pieces of a function that cuts at the same tokens. -/
theorem slices_eq
    {divides : σ → Token → Bool} {pass : σ → Token → σ}
    (cut : σ → List Token → List Token × List (List Token))
    (ended : ∀ state, cut state [] = ([], []))
    (goesOn : ∀ state token rest,
      cut state (token :: rest) =
        if divides state token then
          ([], (cut (pass state token) rest).1 ::
            (cut (pass state token) rest).2)
        else
          (token :: (cut (pass state token) rest).1,
            (cut (pass state token) rest).2))
    (front piece rest : List Token) (state : σ) :
    slices divides pass (front ++ (piece ++ rest)) front.length
        (front.length + piece.length) state rest =
      some ((piece ++ (cut state rest).1) :: (cut state rest).2) := by
  induction rest generalizing front piece state with
  | nil =>
      rw [slices, List.append_nil, suffix?_append, ended, List.append_nil]
      rfl
  | cons token rest hypothesis =>
      rw [slices, goesOn]
      split
      case isTrue =>
        -- A new slice starts behind the dividing token.
        have later := hypothesis (front ++ (piece ++ [token])) []
          (pass state token)
        simp only [List.append_assoc, List.cons_append, List.nil_append,
          List.length_append, List.length_cons, List.length_nil, Nat.zero_add,
          Nat.add_zero, ← Nat.add_assoc] at later
        rw [slice?_append, later, List.append_nil]
        rfl
      case isFalse =>
        have longer := hypothesis front (piece ++ [token]) (pass state token)
        simp only [List.append_assoc, List.cons_append, List.nil_append,
          List.length_append, List.length_cons, List.length_nil, Nat.zero_add,
          ← Nat.add_assoc] at longer
        exact longer

end Slices

end SqlCatalog.Indexed
