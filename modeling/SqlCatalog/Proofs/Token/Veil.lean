import SqlCatalog.Bracket
import SqlCatalog.Fragment.Split
import SqlCatalog.Pattern
import SqlCatalog.Statement.Split
import SqlCatalog.Token.Quoting

/-!
# Veiled tokens

The veil hides the value of a quoted token and shows two things about it: the
delimiter, and whether the value is empty.  Tokens without quotes show
through.

Whatever searches or cuts a token sequence compares its tokens to keywords and
punctuation, none of which is quoted, or asks whether they are quoted.  It
finds the same places with and without the veil.
-/

namespace SqlCatalog

namespace Token

/-- The token with a quoted value hidden, up to its being empty. -/
def veiled (token : Token) : Token :=
  match token.delimiter? with
  | some delimiter => quote delimiter (if token.unquote.isEmpty then "" else "?")
  | none => token

theorem veiled_of_isQuoted_eq_false
    {token : Token}
    (bare : token.isQuoted = false) :
    token.veiled = token := by
  simp_all [isQuoted, veiled]

@[simp]
theorem delimiter?_quote (delimiter : Delimiter) (value : String) :
    (quote delimiter value).delimiter? = some delimiter := by
  simp [quote, delimiter?]

/-- Tokens with the same delimiter that are both empty or both not look alike. -/
theorem veiled_eq_veiled
    {left right : Token}
    (delimiter : left.delimiter? = right.delimiter?)
    (value : left.unquote.isEmpty = right.unquote.isEmpty)
    (quoted : left.isQuoted = true) :
    left.veiled = right.veiled := by
  rcases Option.isSome_iff_exists.mp quoted with ⟨mark, found⟩
  simp only [veiled, ← delimiter, ← value, found]

@[simp]
theorem delimiter?_veiled (token : Token) :
    token.veiled.delimiter? = token.delimiter? := by
  cases found : token.delimiter? with
  | none => simp [veiled, found]
  | some delimiter => simp [veiled, found]

@[simp]
theorem isQuoted_veiled (token : Token) :
    token.veiled.isQuoted = token.isQuoted := by
  simp [isQuoted]

@[simp]
theorem isEmpty_unquote_veiled (token : Token) :
    token.veiled.unquote.isEmpty = token.unquote.isEmpty := by
  cases found : token.delimiter? with
  | none => simp [veiled, found]
  | some delimiter =>
      simp only [veiled, found, unquote_quote]
      by_cases empty : token.unquote.isEmpty = true
      · rw [if_pos empty, empty]
        rfl
      · rw [if_neg empty, Bool.eq_false_iff.mpr empty]
        rfl

/-- The veil hides nothing more the second time. -/
@[simp]
theorem veiled_veiled (token : Token) : token.veiled.veiled = token.veiled := by
  by_cases quoted : token.isQuoted = true
  · exact veiled_eq_veiled (by simp) (by simp) (by simpa using quoted)
  · have bare := veiled_of_isQuoted_eq_false (Bool.eq_false_iff.mpr quoted)
    rw [bare, bare]

/-- A veiled token is a given one without quotes only if it was before. -/
theorem veiled_eq_iff
    {bare : Token}
    (unquoted : bare.isQuoted = false)
    (token : Token) :
    token.veiled = bare ↔ token = bare := by
  by_cases quoted : token.isQuoted = true
  · constructor
    · intro same
      rw [← isQuoted_veiled, same, unquoted] at quoted
      cases quoted
    · intro same
      rw [same, unquoted] at quoted
      cases quoted
  · rw [veiled_of_isQuoted_eq_false (Bool.eq_false_iff.mpr quoted)]

theorem beq_veiled
    {bare : Token}
    (unquoted : bare.isQuoted = false)
    (token : Token) :
    (token.veiled == bare) = (token == bare) := by
  rw [Bool.eq_iff_iff, beq_iff_eq, beq_iff_eq]
  exact veiled_eq_iff unquoted token

theorem bne_veiled
    {bare : Token}
    (unquoted : bare.isQuoted = false) :
    ((fun token : Token => token != bare) ∘ veiled) =
      fun token : Token => token != bare := by
  funext token
  simp only [bne, Function.comp, beq_veiled unquoted]

@[simp]
theorem veiled_eq_blank_iff (token : Token) :
    token.veiled = blank ↔ token = blank :=
  veiled_eq_iff (by decide) token

@[simp]
theorem isEmpty_veiled (token : Token) :
    token.veiled.isEmpty = token.isEmpty := by
  rw [Bool.eq_iff_iff, String.isEmpty_iff, String.isEmpty_iff]
  exact veiled_eq_iff (by decide) token

/-! ## Canonical form and trimming -/

theorem squeeze_veiled (tokens : List Token) :
    squeeze (tokens.map veiled) = (squeeze tokens).map veiled := by
  fun_induction squeeze tokens with
  | case1 => rfl
  | case2 token => rfl
  | case3 token next rest blanks hypothesis =>
      simp only [List.map_cons, squeeze, veiled_eq_blank_iff, blanks] at hypothesis ⊢
      simpa using hypothesis
  | case4 token next rest other hypothesis =>
      simp only [List.map_cons, squeeze, veiled_eq_blank_iff, other] at hypothesis ⊢
      simpa using hypothesis

theorem trim_veiled (tokens : List Token) :
    trim (tokens.map veiled) = (trim tokens).map veiled := by
  have start : trimStart (tokens.map veiled) = (trimStart tokens).map veiled := by
    cases tokens with
    | nil => rfl
    | cons token rest =>
        simp only [List.map_cons, trimStart, veiled_eq_blank_iff]
        split <;> rfl
  have last (rest : List Token) :
      trimEnd (rest.map veiled) = (trimEnd rest).map veiled := by
    have blank :
        (rest.map veiled).getLast? = some blank ↔
          rest.getLast? = some blank := by
      cases final : rest.getLast? <;> simp [final]
    simp only [trimEnd, blank, List.dropLast_eq_take, List.length_map]
    split
    · rw [List.map_take]
    · rfl
  rw [trim, start, last, trim]

end Token
/-! ## Searches -/

/-- A demand that does not spell out a quoted token. -/
def Element.isBare : Element → Bool
  | exactly token => !token.isQuoted
  | quoted => true
  | name _ => true

/-- A name is never quoted, since no alphabet has the marks. -/
theorem Alphabet.isQuoted_of_spells
    {alphabet : Alphabet} {token : Token}
    (spelled : alphabet.spells token = true) :
    token.isQuoted = false := by
  unfold spells at spelled
  unfold Token.isQuoted Token.delimiter?
  cases text : token.toList with
  | nil => rfl
  | cons first rest =>
      simp only [text, List.all_cons, Bool.and_eq_true] at spelled
      cases found : Delimiter.ofMark? first with
      | none => simp [found]
      | some delimiter =>
          rw [Delimiter.ofMark?_eq_some_iff.mp found] at spelled
          have refused : alphabet.allows delimiter.mark = false := by
            cases alphabet <;> cases delimiter <;> decide
          rw [refused] at spelled
          cases spelled.2.1

theorem Alphabet.spells_veiled (alphabet : Alphabet) (token : Token) :
    alphabet.spells token.veiled = alphabet.spells token := by
  by_cases quoted : token.isQuoted = true
  · have refused {word : Token} (marked : word.isQuoted = true) :
        alphabet.spells word = false := by
      rw [Bool.eq_false_iff]
      intro spelled
      rw [Alphabet.isQuoted_of_spells spelled] at marked
      cases marked
    rw [refused quoted, refused (by simpa using quoted)]
  · rw [Token.veiled_of_isQuoted_eq_false (Bool.eq_false_iff.mpr quoted)]

theorem Element.accepts_veiled
    {element : Element}
    (bare : element.isBare = true)
    (token : Token) :
    element.accepts token.veiled = element.accepts token := by
  cases element with
  | exactly expected => exact Token.beq_veiled (by simpa [isBare] using bare) token
  | quoted => exact token.isQuoted_veiled
  | name alphabet => exact alphabet.spells_veiled token

namespace Pattern

/-- Where a pattern fits, every demand has its token. -/
theorem accepts_of_fits
    {pattern : Pattern} {tokens : List Token}
    (fit : pattern.fits tokens = true)
    {index : Nat} {element : Element}
    (demand : pattern[index]? = some element) :
    ∃ token, tokens[index]? = some token ∧ element.accepts token = true := by
  induction pattern generalizing tokens index with
  | nil => simp at demand
  | cons first pattern hypothesis =>
      cases tokens with
      | nil => simp at fit
      | cons token tokens =>
          rw [fits_cons_cons, Bool.and_eq_true] at fit
          cases index with
          | zero =>
              cases demand
              exact ⟨token, rfl, fit.1⟩
          | succ index => simpa using hypothesis fit.2 (by simpa using demand)

theorem fits_veiled
    {pattern : Pattern}
    (bare : pattern.all Element.isBare = true)
    (tokens : List Token) :
    pattern.fits (tokens.map Token.veiled) = pattern.fits tokens := by
  induction pattern generalizing tokens with
  | nil => simp
  | cons element pattern hypothesis =>
      rw [List.all_cons, Bool.and_eq_true] at bare
      cases tokens with
      | nil => rfl
      | cons token tokens =>
          rw [List.map_cons, fits_cons_cons, fits_cons_cons,
            Element.accepts_veiled bare.1, hypothesis bare.2]

theorem find?_veiled
    {pattern : Pattern}
    (bare : pattern.all Element.isBare = true)
    (tokens : List Token) :
    pattern.find? (tokens.map Token.veiled) = pattern.find? tokens := by
  induction tokens with
  | nil => rfl
  | cons token tokens hypothesis =>
      have fit := fits_veiled bare (token :: tokens)
      rw [List.map_cons] at fit ⊢
      rw [find?, find?, fit, hypothesis]

end Pattern

theorem position?_veiled
    {keyword : Token}
    (bare : keyword.isQuoted = false)
    (tokens : List Token) :
    position? keyword (tokens.map Token.veiled) = position? keyword tokens := by
  simp only [position?, List.findIdx?_map]
  congr 1
  funext token
  exact Token.beq_veiled bare token

theorem dropWhile_ne_veiled
    {keyword : Token}
    (bare : keyword.isQuoted = false)
    (tokens : List Token) :
    (tokens.map Token.veiled).dropWhile (· != keyword) =
      (tokens.dropWhile (· != keyword)).map Token.veiled := by
  rw [List.dropWhile_map, Token.bne_veiled bare]

namespace Bracket

theorem weight_veiled (token : Token) : weight token.veiled = weight token := by
  simp only [weight, Token.veiled_eq_iff (show Token.isQuoted "(" = false by decide),
    Token.veiled_eq_iff (show Token.isQuoted ")" = false by decide)]

theorem deepen_veiled (depth : Nat) (token : Token) :
    deepen depth token.veiled = deepen depth token := by
  simp only [deepen, Token.veiled_eq_iff (show Token.isQuoted "(" = false by decide),
    Token.veiled_eq_iff (show Token.isQuoted ")" = false by decide)]

theorem closing_veiled (tokens : List Token) (start : Nat) :
    closing (tokens.map Token.veiled) start = closing tokens start := by
  have close (depth : Nat) (rest : List Token) :
      close? depth (rest.map Token.veiled) = close? depth rest := by
    induction rest generalizing depth with
    | nil => rfl
    | cons token rest hypothesis =>
        simp only [List.map_cons, close?, deepen_veiled, hypothesis]
  rw [closing, closing, ← List.map_drop, close]

end Bracket

/-! ## Cutting into statements and fragments -/

namespace Statement

theorem split_veiled (tokens : List Token) :
    split (tokens.map Token.veiled) =
      (split tokens).map (List.map Token.veiled) := by
  have parts :
      cut (tokens.map Token.veiled) =
        ((cut tokens).1.map Token.veiled,
          (cut tokens).2.map (List.map Token.veiled)) := by
    induction tokens with
    | nil => rfl
    | cons token rest hypothesis =>
        simp only [List.map_cons, cut, hypothesis,
          Token.veiled_eq_iff (show Token.isQuoted ";" = false by decide)]
        split <;> rfl
  simp only [split, chunks, parts, ← List.map_cons, List.map_map,
    List.filter_map]
  congr 1
  · funext piece
    exact Token.trim_veiled piece
  · congr 1
    funext piece
    simp [Token.trim_veiled]

theorem tail_veiled (tokens : List Token) :
    tail (tokens.map Token.veiled) = (tail tokens).map Token.veiled := by
  simp only [tail, ← List.map_reverse, List.takeWhile_map,
    Token.bne_veiled (show Token.isQuoted ";" = false by decide)]

end Statement

theorem Fragment.split_veiled (body : List Token) :
    split (body.map Token.veiled) = (split body).map (List.map Token.veiled) := by
  have parts (depth : Int) (rest : List Token) :
      cut depth (rest.map Token.veiled) =
        ((cut depth rest).1.map Token.veiled,
          (cut depth rest).2.map (List.map Token.veiled)) := by
    induction rest generalizing depth with
    | nil => rfl
    | cons token rest hypothesis =>
        simp only [List.map_cons, cut, Bracket.weight_veiled, hypothesis,
          Token.veiled_eq_iff (show Token.isQuoted "," = false by decide)]
        split <;> rfl
  have trimmed :
      (pieces (body.map Token.veiled)).map Token.trim =
        ((pieces body).map Token.trim).map (List.map Token.veiled) := by
    simp only [pieces, parts, ← List.map_cons, List.map_map]
    congr 1
    funext piece
    exact Token.trim_veiled piece
  have last :
      (((pieces body).map Token.trim).map (List.map Token.veiled)).getLast? =
          some [] ↔
        ((pieces body).map Token.trim).getLast? = some [] := by
    rw [List.getLast?_map, Option.map_eq_some_iff]
    simp
  simp only [split, dropEmptyLast, trimmed, last, List.dropLast_eq_take,
    List.length_map]
  split
  · rw [List.map_take]
  · rfl

end SqlCatalog
