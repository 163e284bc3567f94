import Mathlib.Data.List.Pairwise
import SqlCatalog.Proofs.Extraction.Canonical

/-!
# Diagnostics in order

Diagnostics are ordered by statement and by fragment, and what belongs to no
statement stands behind all others.  Since the order is strict, no place is
reported twice, and since a statement as a whole and its fragments are in no
order, a statement is reported as a whole or by its fragments.

The first part is about lists of numbered items in general: where the images
of such items come from, and which of them belong to a given number.
-/

namespace SqlCatalog

open Extractor

/-! ## Results of numbered items -/

section Numbering

variable {Item Result : Type}

/--
The results come from the items with the given numbers, in the order of the
items and at most one from each.
-/
structure ComeFrom (yields : Nat → Item → Result → Prop) (items : List Item)
    (numbers : List Nat) (results : List Result) : Prop where
  /-- The numbers ascend, so none of them occurs twice. -/
  ascending : numbers.Pairwise (· < ·)
  /-- The results belong to the numbers one by one. -/
  yielded : List.Forall₂
    (fun number result =>
      ∃ item, items[number]? = some item ∧ yields number item result)
    numbers results

/-- The numbers of the items that have an image. -/
def numbersOf (image : Item × Nat → Option Result) (items : List Item) :
    List Nat :=
  items.zipIdx.filterMap fun entry => (image entry).map fun _ => entry.2

/-- Numbered items come in the order of their numbers. -/
theorem pairwise_zipIdx (items : List Item) :
    items.zipIdx.Pairwise fun left right => left.2 < right.2 := by
  have numbers := List.pairwise_lt_range' (s := 0) (n := items.length) 1
  rwa [← List.zipIdx_map_snd, List.pairwise_map] at numbers

theorem mem_numbersOf_iff
    {image : Item × Nat → Option Result} {items : List Item}
    {number : Nat} {item : Item}
    (listed : items[number]? = some item) :
    number ∈ numbersOf image items ↔ (image (item, number)).isSome = true := by
  simp only [numbersOf, List.mem_filterMap, Option.map_eq_some_iff]
  constructor
  · rintro ⟨⟨other, place⟩, member, result, found, rfl⟩
    have same := listed.symm.trans (List.mk_mem_zipIdx_iff_getElem?.mp member)
    cases same
    rw [found]
    rfl
  · intro present
    obtain ⟨result, found⟩ := Option.isSome_iff_exists.mp present
    exact ⟨(item, number), List.mk_mem_zipIdx_iff_getElem?.mpr listed, result,
      found, rfl⟩

/-- The images of numbered items come from the items that have one. -/
theorem comeFrom_numbersOf
    {yields : Nat → Item → Result → Prop} {image : Item × Nat → Option Result}
    {items : List Item}
    (each : ∀ number item result, items[number]? = some item →
      image (item, number) = some result → yields number item result) :
    ComeFrom yields items (numbersOf image items)
      (items.zipIdx.filterMap image) where
  ascending := by
    rw [numbersOf, List.pairwise_filterMap]
    refine (pairwise_zipIdx items).imp ?_
    intro left right ordered number first later second
    obtain ⟨-, -, rfl⟩ := Option.map_eq_some_iff.mp first
    obtain ⟨-, -, rfl⟩ := Option.map_eq_some_iff.mp second
    exact ordered
  yielded := by
    have listed :
        ∀ entry ∈ items.zipIdx, items[entry.2]? = some entry.1 :=
      fun entry member => List.mem_zipIdx_iff_getElem?.mp member
    rw [numbersOf]
    generalize items.zipIdx = entries at listed ⊢
    induction entries with
    | nil => exact .nil
    | cons entry later hypothesis =>
        have others := hypothesis fun other member =>
          listed other (List.mem_cons_of_mem entry member)
        have here := listed entry List.mem_cons_self
        cases found : image entry with
        | none => simpa [found] using others
        | some result =>
            simp only [List.filterMap_cons, found, Option.map_some]
            exact .cons ⟨entry.1, here, each _ _ _ here found⟩ others

/-- Around a numbered item all others have other numbers. -/
theorem exists_zipIdx_parts
    {items : List Item} {number : Nat} {item : Item}
    (listed : items[number]? = some item) :
    ∃ front back, items.zipIdx = front ++ (item, number) :: back ∧
      ∀ entry ∈ front ++ back, entry.2 ≠ number := by
  obtain ⟨front, back, parts⟩ :=
    List.append_of_mem (List.mk_mem_zipIdx_iff_getElem?.mpr listed)
  have ascending := pairwise_zipIdx items
  rw [parts, List.pairwise_append, List.pairwise_cons] at ascending
  obtain ⟨-, ⟨behind, -⟩, before⟩ := ascending
  refine ⟨front, back, parts, ?_⟩
  intro entry member
  rcases List.mem_append.mp member with early | late
  · have ordered := before entry early (item, number) List.mem_cons_self
    exact Nat.ne_of_lt ordered
  · exact Nat.ne_of_gt (behind entry late)

/-- What is kept of the images is kept of the one item that it belongs to. -/
theorem filter_flatMap_zipIdx
    {image : Item × Nat → List Result} {keep : Result → Bool}
    {items : List Item} {number : Nat} {item : Item}
    (listed : items[number]? = some item)
    (apart : ∀ entry : Item × Nat, entry.2 ≠ number →
      (image entry).filter keep = []) :
    (items.zipIdx.flatMap image).filter keep =
      (image (item, number)).filter keep := by
  obtain ⟨front, back, parts, others⟩ := exists_zipIdx_parts listed
  have early : front.flatMap (fun entry => (image entry).filter keep) = [] :=
    List.flatMap_eq_nil_iff.mpr fun entry member =>
      apart entry (others entry (List.mem_append_left back member))
  have late : back.flatMap (fun entry => (image entry).filter keep) = [] :=
    List.flatMap_eq_nil_iff.mpr fun entry member =>
      apart entry (others entry (List.mem_append_right front member))
  rw [List.filter_flatMap, parts, List.flatMap_append, List.flatMap_cons,
    early, late, List.nil_append, List.append_nil]

end Numbering

/-! ## Places -/

/-- The number of the statement that a place belongs to. -/
def Location.statement? : Location → Option Nat
  | input => none
  | statement number => some number
  | column number _ => some number

/--
The order of places: by statement and by fragment, and behind all of them what
belongs to no statement.  A statement as a whole and its fragments are in no
order, so that a list in order never holds both.
-/
inductive Location.Precedes : Location → Location → Prop
  /-- An earlier statement comes first. -/
  | statement {left right : Location} {before after : Nat}
      (first : left.statement? = some before)
      (second : right.statement? = some after)
      (ordered : before < after) :
      Precedes left right
  /-- An earlier fragment of a statement comes first. -/
  | fragment {number before after : Nat}
      (ordered : before < after) :
      Precedes (column number before) (column number after)
  /-- What belongs to no statement comes last. -/
  | input {place : Location} {number : Nat}
      (inside : place.statement? = some number) :
      Precedes place input

theorem Location.Precedes.ne
    {left right : Location}
    (ordered : left.Precedes right) :
    left ≠ right := by
  rintro rfl
  cases ordered with
  | statement first second ordered =>
      rw [first] at second
      injection second with same
      omega
  | fragment ordered => omega
  | input inside => cases inside

/-- A statement as a whole and a fragment of it are in no order. -/
theorem Location.not_precedes_own (number fragment : Nat) :
    ¬(statement number).Precedes (column number fragment) ∧
      ¬(column number fragment).Precedes (statement number) := by
  constructor
  · intro ordered
    cases ordered with
    | statement first second ordered =>
        cases first
        cases second
        omega
  · intro ordered
    cases ordered with
    | statement first second ordered =>
        cases first
        cases second
        omega

/-- What an extraction reports at a place. -/
def Extraction.reportsAt (extraction : Extraction) (place : Location) :
    List Diagnostic :=
  extraction.diagnostics.filter fun diagnostic => diagnostic.location = place

/-! ## Diagnostics in order -/

/-- Diagnostics in the order of their places. -/
def InOrder (diagnostics : List Diagnostic) : Prop :=
  diagnostics.Pairwise fun left right =>
    left.location.Precedes right.location

theorem statement?_of_mem_diagnostics
    {outcome : Outcome} {number : Nat} {diagnostic : Diagnostic}
    (member : diagnostic ∈ outcome.diagnostics number) :
    diagnostic.location.statement? = some number := by
  fun_cases Outcome.diagnostics number outcome with
  | case1 token =>
      obtain rfl := List.mem_singleton.mp member
      rfl
  | case2 => cases member
  | case3 fault =>
      obtain rfl := List.mem_singleton.mp member
      rfl
  | case4 header fragments =>
      obtain ⟨⟨place, fault⟩, -, rfl⟩ := List.mem_map.mp member
      rfl

/-- The faults of fragments are listed in the order of the fragments. -/
theorem Fragment.pairwise_faults (fragments : List (List Token)) :
    (faults fragments).Pairwise fun left right => left.1 < right.1 := by
  rw [faults, List.pairwise_filterMap]
  refine (pairwise_zipIdx fragments).imp ?_
  intro left right ordered first found second later
  obtain ⟨-, -, rfl⟩ := Option.map_eq_some_iff.mp found
  obtain ⟨-, -, rfl⟩ := Option.map_eq_some_iff.mp later
  exact ordered

theorem inOrder_diagnostics (outcome : Outcome) (number : Nat) :
    InOrder (outcome.diagnostics number) := by
  fun_cases Outcome.diagnostics number outcome with
  | case1 token => exact List.pairwise_singleton _ _
  | case2 => exact .nil
  | case3 fault => exact List.pairwise_singleton _ _
  | case4 header fragments =>
      rw [InOrder, List.pairwise_map]
      exact (Fragment.pairwise_faults fragments).imp fun ordered =>
        .fragment ordered

theorem inOrder_ofTokens (tokens : List Token) (fault : Option Unterminated) :
    InOrder (Extraction.ofTokens tokens fault).diagnostics := by
  rw [InOrder, Extraction.ofTokens, List.pairwise_append,
    List.pairwise_flatMap]
  refine ⟨⟨?_, ?_⟩, ?_, ?_⟩
  · rintro ⟨statement, number⟩ -
    exact inOrder_diagnostics _ number
  · refine (pairwise_zipIdx _).imp ?_
    intro left right ordered first early second late
    exact .statement (statement?_of_mem_diagnostics early)
      (statement?_of_mem_diagnostics late) ordered
  · cases dangling? tokens fault with
    | none => exact .nil
    | some token => exact List.pairwise_singleton _ _
  · intro first early second late
    obtain ⟨⟨statement, number⟩, -, reported⟩ := List.mem_flatMap.mp early
    rw [Option.mem_toList] at late
    obtain ⟨token, -, rfl⟩ := Option.map_eq_some_iff.mp late
    exact .input (statement?_of_mem_diagnostics reported)

/-- Diagnostics in order report each place at most once. -/
theorem InOrder.length_reportsAt_le
    {extraction : Extraction}
    (ordered : InOrder extraction.diagnostics)
    (place : Location) :
    (extraction.reportsAt place).length ≤ 1 := by
  have own : ∀ diagnostic ∈ extraction.reportsAt place,
      diagnostic.location = place := by
    intro diagnostic member
    simpa using (List.mem_filter.mp member).2
  have filtered : InOrder (extraction.reportsAt place) := ordered.filter _
  match found : extraction.reportsAt place with
  | [] => exact Nat.zero_le 1
  | [_] => exact Nat.le_refl 1
  | first :: second :: later =>
      rw [found] at own filtered
      have apart :=
        (List.pairwise_cons.mp filtered).1 second List.mem_cons_self
      have left := own first List.mem_cons_self
      have right := own second (List.mem_cons_of_mem _ List.mem_cons_self)
      exact absurd (left.trans right.symm) apart.ne

/-- Of a statement as a whole and its fragments only one kind is reported. -/
theorem InOrder.reportsAt_eq_nil_or
    {extraction : Extraction}
    (ordered : InOrder extraction.diagnostics)
    (number fragment : Nat) :
    extraction.reportsAt (.statement number) = [] ∨
      extraction.reportsAt (.column number fragment) = [] := by
  by_contra both
  rw [not_or] at both
  obtain ⟨first, early⟩ := List.exists_mem_of_ne_nil _ both.1
  obtain ⟨second, late⟩ := List.exists_mem_of_ne_nil _ both.2
  obtain ⟨inside, whole⟩ := List.mem_filter.mp early
  obtain ⟨also, part⟩ := List.mem_filter.mp late
  rw [decide_eq_true_eq] at whole part
  have either :
      extraction.diagnostics.Pairwise fun left right =>
        left.location.Precedes right.location ∨
          right.location.Precedes left.location :=
    ordered.imp Or.inl
  have symmetric :
      Std.Symm fun left right : Diagnostic =>
        left.location.Precedes right.location ∨
          right.location.Precedes left.location :=
    ⟨fun _ _ => Or.symm⟩
  have different : first ≠ second := by
    rintro rfl
    rw [whole] at part
    cases part
  have compared := either.forall inside also different
  rw [whole, part] at compared
  rcases compared with before | behind
  · exact (Location.not_precedes_own number fragment).1 before
  · exact (Location.not_precedes_own number fragment).2 behind

end SqlCatalog
