import SqlCatalog.Proofs.Statement.Faults
import SqlCatalog.Proofs.Statement.Lookup
import SqlCatalog.Proofs.Token.Spacing

/-!
# Values behind a key

Character set and collation of a column are the token right behind a key, and
nothing is asked of that token.  It is a proper one nevertheless.  A key ends
in a blank, so in a spaced fragment no other blank stands behind it, and since
the fragment does not end in a blank, something does.
-/

namespace SqlCatalog

namespace Pattern

theorem exists_append_of_find?
    {pattern : Pattern} {tokens : List Token} {start : Nat}
    (found : pattern.find? tokens = some start) :
    ∃ front back, tokens = front ++ back ∧ front.length = start ∧
      pattern.fits back = true := by
  induction tokens generalizing start with
  | nil => cases found
  | cons token rest hypothesis =>
      rw [find?] at found
      split at found
      case isTrue fit =>
        cases found
        exact ⟨[], token :: rest, rfl, rfl, fit⟩
      case isFalse =>
        obtain ⟨before, inner, rfl⟩ := Option.map_eq_some_iff.mp found
        obtain ⟨front, back, rfl, length, fit⟩ := hypothesis inner
        exact ⟨token :: front, back, rfl, by simp [length], fit⟩

/-- A key that is found nowhere is no part of the sequence. -/
theorem not_infix_of_find?_eq_none
    {key tokens : List Token}
    (filled : key ≠ [])
    (absent : find? (key.map Element.exactly) tokens = none) :
    ¬key <:+: tokens := by
  rintro ⟨front, back, rfl⟩
  obtain ⟨first, later, parts⟩ := List.exists_cons_of_ne_nil filled
  have fit := fits_exactly key back
  have whole : key ++ back = first :: (later ++ back) := by rw [parts]; rfl
  rw [whole] at fit
  have found := isSome_find? fit front
  rw [← whole, ← List.append_assoc, absent] at found
  cases found

end Pattern

namespace Fragment

/-- What is found behind a key: nothing without the key, else a token. -/
inductive Behind (key fragment : List Token) : String → Prop
  /-- The key is no part of the fragment. -/
  | absent (apart : ¬key <:+: fragment) : Behind key fragment ""
  /-- The key is a part of the fragment, and another token follows it. -/
  | value {token : Token}
      (inside : key ++ [token] <:+: fragment)
      (filled : token ≠ Token.blank) :
      Behind key fragment token

/-- Behind a key that ends in a blank stands a token that is none. -/
theorem behind_valueAfter
    {key fragment : List Token}
    (ends : key.getLast? = some Token.blank)
    (spaced : Token.IsSpaced fragment)
    (trimmed : Token.IsTrimmed fragment) :
    Behind key fragment (valueAfter (key.map Element.exactly) fragment) := by
  have filled : key ≠ [] := by
    rintro rfl
    cases ends
  cases found : Pattern.find? (key.map Element.exactly) fragment with
  | none =>
      rw [valueAfter, found]
      exact .absent (Pattern.not_infix_of_find?_eq_none filled found)
  | some place =>
      obtain ⟨front, back, rfl, rfl, fit⟩ := Pattern.exists_append_of_find? found
      obtain ⟨rest, rfl⟩ := (Pattern.fits_keys_iff key).mp fit
      cases rest with
      | nil =>
          -- The fragment would end in the blank that the key ends in.
          have last := trimmed.last
          rw [List.append_nil, List.getLast?_append, ends] at last
          exact absurd rfl last
      | cons token rest =>
          have here :
              (front ++ (key ++ token :: rest))[front.length + key.length]? =
                some token := by
            rw [List.getElem?_append_right (Nat.le_add_right _ _)]
            simp
          have value :
              valueAfter (key.map Element.exactly)
                (front ++ (key ++ token :: rest)) = token := by
            rw [valueAfter, found, List.length_map, Option.bind_some, here]
            rfl
          rw [value]
          refine .value ⟨front, rest, by simp⟩ ?_
          obtain ⟨start, rfl⟩ := List.getLast?_eq_some_iff.mp ends
          exact spaced.ne_blank ⟨front ++ start, rest, by simp⟩

/-- The text is missing, or it is a token of the fragment and no blank. -/
def IsValueOf (fragment : List Token) (text : String) : Prop :=
  text = "" ∨ text ∈ fragment ∧ text ≠ "" ∧ text ≠ Token.blank

variable {key fragment : List Token} {text : String}

theorem Behind.isValueOf
    (behind : Behind key fragment text)
    (filled : ∀ token ∈ fragment, token ≠ "") :
    IsValueOf fragment text := by
  cases behind with
  | absent => exact Or.inl rfl
  | value inside other =>
      have member : text ∈ fragment := inside.subset (by simp)
      exact Or.inr ⟨member, filled text member, other⟩

/-- Nothing is found exactly if the key is missing. -/
theorem Behind.eq_empty_iff
    (behind : Behind key fragment text)
    (filled : ∀ token ∈ fragment, token ≠ "") :
    text = "" ↔ ¬key <:+: fragment := by
  cases behind with
  | absent apart => exact iff_of_true rfl apart
  | value inside other =>
      have member : text ∈ fragment := inside.subset (by simp)
      have present : key <:+: fragment :=
        (List.prefix_append key [text]).isInfix.trans inside
      exact iff_of_false (filled text member) (not_not.mpr present)

/-! ## Columns -/

/-- A column is read from a name and the clauses behind it. -/
theorem of_column_eq_some
    {found : Column}
    (read : column fragment = .ok (some found)) :
    ∃ first rest value,
      fragment = first :: rest ∧ first.isQuoted = true ∧ rest ≠ [] ∧
      first.unquote ≠ "" ∧ defaultValue fragment = .ok value ∧
      found = {
        name := first.unquote
        dataType := dataType fragment
        defaultValue := value
        comment := comment fragment
        notNull := isNotNull fragment
        autoIncrement := isAutoIncrement fragment
        charset := charset fragment
        collation := collation fragment } := by
  cases fragment with
  | nil => cases read
  | cons first rest =>
      simp only [column] at read
      split at read
      case isTrue => cases read
      case isFalse quoted =>
        split at read
        case isTrue => cases read
        case isFalse filled =>
          split at read
          case isTrue => cases read
          case isFalse named =>
            obtain ⟨value, default, read⟩ := bind_ok_cases read
            cases read
            refine ⟨first, rest, value, rfl, by simpa using quoted,
              by simpa using filled, ?_, default, rfl⟩
            intro empty
            rw [empty] at named
            exact named rfl

/-- The collation of a column follows its key. -/
theorem behind_collation
    (spaced : Token.IsSpaced fragment)
    (trimmed : Token.IsTrimmed fragment) :
    Behind ["COLLATE", " "] fragment (collation fragment) :=
  behind_valueAfter rfl spaced trimmed

/-- The character set of a column follows the one key or the other. -/
theorem charset_cases
    (spaced : Token.IsSpaced fragment)
    (trimmed : Token.IsTrimmed fragment)
    (filled : ∀ token ∈ fragment, token ≠ "") :
    IsValueOf fragment (charset fragment) ∧
      (charset fragment = "" ↔
        ¬["CHARACTER", " ", "SET", " "] <:+: fragment ∧
          ¬["CHARSET", " "] <:+: fragment) := by
  have long :
      Behind ["CHARACTER", " ", "SET", " "] fragment
        (valueAfter [.exactly "CHARACTER", .blank, .exactly "SET", .blank]
          fragment) :=
    behind_valueAfter rfl spaced trimmed
  have short :
      Behind ["CHARSET", " "] fragment
        (valueAfter [.exactly "CHARSET", .blank] fragment) :=
    behind_valueAfter rfl spaced trimmed
  have longAbsent := long.eq_empty_iff filled
  rw [charset]
  split
  case isTrue nothing =>
    rw [String.isEmpty_iff] at nothing
    refine ⟨short.isValueOf filled, ?_⟩
    rw [short.eq_empty_iff filled]
    exact (and_iff_right (longAbsent.mp nothing)).symm
  case isFalse something =>
    rw [String.isEmpty_iff] at something
    refine ⟨long.isValueOf filled, iff_of_false something ?_⟩
    rintro ⟨absent, -⟩
    exact something (longAbsent.mpr absent)

end Fragment

end SqlCatalog
