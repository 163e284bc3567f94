import SqlCatalog.Fragment.Column
import SqlCatalog.Statement.Options

/-!
# Lookups in a sequence of clauses

A clause is looked up by a pattern, and the first place where the pattern fits
counts.  What stands in front of that place is passed over if the pattern
misses it: it fits nowhere there, not even when it reaches into what follows.
-/

namespace SqlCatalog

namespace Pattern

/-- A pattern that starts with given tokens fits what starts with them. -/
theorem fits_keys_append_iff
    (keys : List Token)
    {pattern : Pattern} {tokens : List Token} :
    fits (keys.map Element.exactly ++ pattern) tokens = true ↔
      ∃ rest, tokens = keys ++ rest ∧ pattern.fits rest = true := by
  induction keys generalizing tokens with
  | nil => simp
  | cons key keys hypothesis =>
      rw [List.map_cons, List.cons_append]
      cases tokens with
      | nil => simp
      | cons token rest => simp [Element.accepts, hypothesis, and_assoc]

theorem fits_keys_iff
    (keys : List Token)
    {tokens : List Token} :
    fits (keys.map Element.exactly) tokens = true ↔ keys <+: tokens := by
  have general : fits (keys.map Element.exactly ++ []) tokens = true ↔ _ :=
    fits_keys_append_iff keys
  rw [List.append_nil] at general
  rw [general]
  constructor
  · rintro ⟨rest, rfl, -⟩
    exact List.prefix_append keys rest
  · rintro ⟨rest, rfl⟩
    exact ⟨rest, rfl, fits_nil rest⟩

theorem fits_exactly (keys rest : List Token) :
    fits (keys.map Element.exactly) (keys ++ rest) = true :=
  (fits_keys_iff keys).mpr (List.prefix_append keys rest)

theorem fits_quoted_cons_iff
    {pattern : Pattern} {tokens : List Token} :
    fits (.quoted :: pattern) tokens = true ↔
      ∃ token rest, tokens = token :: rest ∧ token.isQuoted = true ∧
        pattern.fits rest = true := by
  cases tokens with
  | nil => simp
  | cons first rest => simp [Element.accepts, and_assoc]

/-- What follows does not keep a pattern from fitting. -/
theorem fits_append
    {pattern : Pattern} {front : List Token}
    (fit : pattern.fits front = true)
    (back : List Token) :
    pattern.fits (front ++ back) = true := by
  induction pattern generalizing front with
  | nil => simp
  | cons element pattern hypothesis =>
      cases front with
      | nil => cases fit
      | cons token front =>
          rw [fits_cons_cons, Bool.and_eq_true] at fit
          simp [fit.1, hypothesis fit.2]

/-- The pattern fits at no token of the first sequence in front of the second. -/
def Misses (pattern : Pattern) : List Token → List Token → Prop
  | [], _ => True
  | token :: front, back =>
    pattern.fits (token :: (front ++ back)) = false ∧
      Misses pattern front back

theorem Misses.append
    {pattern : Pattern} {front middle back : List Token}
    (first : pattern.Misses front (middle ++ back))
    (second : pattern.Misses middle back) :
    pattern.Misses (front ++ middle) back := by
  induction front with
  | nil => exact second
  | cons token front hypothesis =>
      refine ⟨?_, hypothesis first.2⟩
      have fit := first.1
      rwa [← List.append_assoc] at fit

/-- A sequence without the first keyword of a pattern is passed over. -/
theorem misses_of_not_mem
    {keyword : Token} {front : List Token}
    (absent : keyword ∉ front)
    (pattern : Pattern) (back : List Token) :
    Misses (.exactly keyword :: pattern) front back := by
  induction front with
  | nil => trivial
  | cons token front hypothesis =>
      rw [List.mem_cons, not_or] at absent
      refine ⟨?_, hypothesis absent.2⟩
      have other : (token == keyword) = false := by
        rw [beq_eq_false_iff_ne]
        exact Ne.symm absent.1
      simp [Element.accepts, other]

theorem find?_append
    {pattern : Pattern} {front back : List Token}
    (misses : pattern.Misses front back) :
    pattern.find? (front ++ back) =
      (pattern.find? back).map (· + front.length) := by
  induction front with
  | nil => simp
  | cons token front hypothesis =>
      rw [List.cons_append, find?, misses.1, hypothesis misses.2]
      simp [Option.map_map, Function.comp_def, Nat.add_assoc]

theorem find?_eq_none
    {pattern : Pattern} {tokens : List Token}
    (misses : pattern.Misses tokens []) :
    pattern.find? tokens = none := by
  have none := find?_append misses
  rwa [List.append_nil] at none

/-- A pattern that fits somewhere is found. -/
theorem isSome_find?
    {pattern : Pattern} {token : Token} {back : List Token}
    (fit : pattern.fits (token :: back) = true)
    (front : List Token) :
    (pattern.find? (front ++ token :: back)).isSome = true := by
  induction front with
  | nil => simp [find?, fit]
  | cons first front hypothesis =>
      rw [List.cons_append, find?]
      split
      · rfl
      · rwa [Option.isSome_map]

end Pattern

namespace Fragment

/-- The value behind the first place where the pattern fits. -/
theorem valueAfter_append
    {pattern : Pattern} {front key back : List Token} {value : Token}
    (misses : pattern.Misses front (key ++ value :: back))
    (fit : pattern.fits (key ++ value :: back) = true)
    (length : key.length = pattern.length) :
    valueAfter pattern (front ++ (key ++ value :: back)) = value := by
  have found : pattern.find? (key ++ value :: back) = some 0 := by
    cases whole : key ++ value :: back with
    | nil => simp at whole
    | cons token rest =>
        rw [whole] at fit
        simp [Pattern.find?, fit]
  rw [valueAfter, Pattern.find?_append misses, found, ← length]
  simp

theorem valueAfter_eq_empty
    {pattern : Pattern} {tokens : List Token}
    (misses : pattern.Misses tokens []) :
    valueAfter pattern tokens = "" := by
  rw [valueAfter, Pattern.find?_eq_none misses]
  rfl

/-- The type ends at the first blank. -/
theorem dataType_append
    {type rest : List Token}
    (filled : type ≠ []) (solid : Token.blank ∉ type)
    (opens : ∀ token ∈ rest.head?, token = Token.blank)
    (name gap : Token) :
    dataType (name :: gap :: (type ++ rest)) =
      if rest[1]? = some "UNSIGNED" then String.join type ++ " UNSIGNED"
      else String.join type := by
  have each : ∀ token ∈ type, (token != Token.blank) = true := by
    intro token member
    rw [bne_iff_ne]
    rintro rfl
    exact solid member
  have stop :
      rest.takeWhile (· != Token.blank) = [] ∧
        rest.dropWhile (· != Token.blank) = rest := by
    cases rest with
    | nil => simp
    | cons token rest =>
        obtain rfl := opens token rfl
        simp
  have tokens : (name :: gap :: (type ++ rest)).drop 2 = type ++ rest := rfl
  simp [dataType, tokens, List.takeWhile_append_of_pos each,
    List.dropWhile_append_of_pos each, stop, filled]

theorem dropWhile_append_of_not_mem
    {keyword : Token} {front : List Token}
    (absent : keyword ∉ front)
    (back : List Token) :
    (front ++ back).dropWhile (· != keyword) =
      back.dropWhile (· != keyword) := by
  apply List.dropWhile_append_of_pos
  intro token member
  rw [bne_iff_ne]
  rintro rfl
  exact absent member

theorem dropWhile_of_not_mem
    {keyword : Token} {tokens : List Token}
    (absent : keyword ∉ tokens) :
    tokens.dropWhile (· != keyword) = [] := by
  have all := dropWhile_append_of_not_mem absent []
  rwa [List.append_nil] at all

/-- The value of a literal in the first default clause. -/
theorem defaultValue_append_literal
    {front : List Token}
    (absent : "DEFAULT" ∉ front)
    {literal : Token}
    (quoted : literal.isQuoted = true)
    (back : List Token) :
    defaultValue (front ++ "DEFAULT" :: Token.blank :: literal :: back) =
      .ok literal.unquote := by
  have clause :
      ("DEFAULT" :: Token.blank :: literal :: back).dropWhile (· != "DEFAULT") =
        "DEFAULT" :: Token.blank :: literal :: back := by
    simp
  rw [defaultValue, dropWhile_append_of_not_mem absent, clause]
  simp [defaultClause, Element.accepts, Element.blank, quoted, literalAt]

/-- Of the tokens without quotes, only some keywords are values. -/
theorem defaultValue_append_word
    {front : List Token}
    (absent : "DEFAULT" ∉ front)
    {word : Token}
    (bare : word.isQuoted = false) (unopened : word ≠ "(")
    (back : List Token) :
    defaultValue (front ++ "DEFAULT" :: Token.blank :: word :: back) =
      .ok (if word ∈ defaultKeywords then word else "") := by
  have clause :
      ("DEFAULT" :: Token.blank :: word :: back).dropWhile (· != "DEFAULT") =
        "DEFAULT" :: Token.blank :: word :: back := by
    simp
  have keyword :
      (defaultKeywords.find? fun keyword => word == keyword).getD "" =
        if word ∈ defaultKeywords then word else "" := by
    by_cases first : word = "CURRENT_TIMESTAMP"
    · subst first
      rfl
    · by_cases second : word = "NULL"
      · subst second
        rfl
      · simp [defaultKeywords, first, second]
  rw [defaultValue, dropWhile_append_of_not_mem absent, clause]
  simp [defaultClause, Element.accepts, Element.blank, bare, unopened, keyword]

theorem defaultValue_of_not_mem
    {tokens : List Token}
    (absent : "DEFAULT" ∉ tokens) :
    defaultValue tokens = .ok "" := by
  rw [defaultValue, dropWhile_of_not_mem absent]
  rfl

theorem comment_append_literal
    {front : List Token}
    (absent : "COMMENT" ∉ front)
    {literal : Token}
    (quoted : literal.isQuoted = true)
    (back : List Token) :
    comment (front ++ "COMMENT" :: Token.blank :: literal :: back) =
      literal.unquote := by
  have clause :
      ("COMMENT" :: Token.blank :: literal :: back).dropWhile (· != "COMMENT") =
        "COMMENT" :: Token.blank :: literal :: back := by
    simp
  rw [comment, dropWhile_append_of_not_mem absent, clause]
  simp [Element.accepts, Element.blank, quoted, literalAt]

theorem comment_of_not_mem
    {tokens : List Token}
    (absent : "COMMENT" ∉ tokens) :
    comment tokens = "" := by
  rw [comment, dropWhile_of_not_mem absent]
  rfl

end Fragment

/-! ## Options -/

namespace Statement

theorem optionValue?_append
    {pattern : Pattern} {front back : List Token}
    (misses : pattern.Misses front back) :
    optionValue? pattern (front ++ back) = optionValue? pattern back := by
  induction front with
  | nil => rfl
  | cons token front hypothesis =>
      rw [List.cons_append, optionValue?, misses.1]
      exact hypothesis misses.2

theorem optionValue_of_misses
    {pattern : Pattern} {tokens : List Token}
    (misses : pattern.Misses tokens []) :
    optionValue pattern tokens = "" := by
  have none := optionValue?_append misses
  rw [List.append_nil] at none
  rw [optionValue, none]
  rfl

end Statement

end SqlCatalog
