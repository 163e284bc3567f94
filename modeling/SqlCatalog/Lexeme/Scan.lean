import SqlCatalog.Lexeme.Basic

/-!
# Scanning one lexeme

The first characters of a text decide the class of its first lexeme: a
delimiter opens a literal, `#` and `--` a line comment, a slash and a star a
block comment; otherwise separators and word characters are taken in runs and
anything else is a symbol of one or two characters.  Every reader returns what
it took and what it left, and the two parts give back the text.
-/

namespace SqlCatalog

/-- A text cut in two, and whether the first part came to its proper end. -/
structure Cut where
  /-- The part that was read. -/
  taken : List Char
  /-- The part that is left. -/
  rest : List Char
  /-- Whether the part that was read was closed. -/
  closed : Bool
deriving DecidableEq, Repr

/-- The cut of a text that has further characters in front. -/
def Cut.after (front : List Char) (cut : Cut) : Cut :=
  { cut with taken := front ++ cut.taken }

/-- Cuts behind the mark that closes a literal whose opening was read. -/
def cutLiteral (delimiter : Delimiter) : List Char → Cut
  | [] => ⟨[], [], false⟩
  | [char] => ⟨[char], [], char = delimiter.mark⟩
  | char :: next :: rest =>
    if char = delimiter.mark then
      if next = delimiter.mark then
        (cutLiteral delimiter rest).after [char, next]
      else ⟨[char], next :: rest, true⟩
    else if char = '\\' ∧ delimiter.escapes = true then
      (cutLiteral delimiter rest).after [char, next]
    else (cutLiteral delimiter (next :: rest)).after [char]

/-- Cuts behind the star and slash that close a comment. -/
def cutComment : List Char → Cut
  | [] => ⟨[], [], false⟩
  | [char] => ⟨[char], [], false⟩
  | char :: next :: rest =>
    if char = '*' ∧ next = '/' then ⟨[char, next], rest, true⟩
    else (cutComment (next :: rest)).after [char]

/-- The decimal part at the start of a text: a point and at least one digit. -/
def decimals : List Char → List Char
  | [] => []
  | char :: rest =>
    if char = '.' ∧ rest.takeWhile Char.isDigit ≠ [] then
      '.' :: rest.takeWhile Char.isDigit
    else []

/-- The word at the start of a text, with decimals if it starts as a number. -/
def leadingWord (text : List Char) : List Char :=
  if (text.head?.map Char.isDigit).getD false then
    text.takeWhile isWordChar ++ decimals (text.dropWhile isWordChar)
  else text.takeWhile isWordChar

/-- The symbols of two characters. -/
def longSymbols : List (Char × Char) :=
  [('<', '='), ('>', '='), ('<', '>'), ('!', '='), (':', '='), ('|', '|'),
    ('&', '&'), ('<', '<'), ('>', '>'), ('-', '>')]

/-- The length of the symbol at the start of a text. -/
def symbolLength (first : Char) (rest : List Char) : Nat :=
  if (rest.head?.map fun next => longSymbols.contains (first, next)).getD false
  then 2 else 1

/-- A lexeme and the text after it. -/
structure Scanned where
  /-- The lexeme. -/
  lexeme : Lexeme
  /-- The text after it. -/
  rest : List Char
deriving DecidableEq, Repr

/-- The first lexeme of a text that is not empty. -/
def scan (first : Char) (rest : List Char) : Scanned :=
  match Delimiter.ofMark? first with
  | some delimiter =>
    let cut := cutLiteral delimiter rest
    ⟨⟨.literal delimiter cut.closed, first :: cut.taken⟩, cut.rest⟩
  | none =>
    if first = '#' ∨ first = '-' ∧ rest.head? = some '-' then
      ⟨⟨.lineComment, first :: rest.takeWhile (· != '\n')⟩,
        rest.dropWhile (· != '\n')⟩
    else if first = '/' ∧ rest.head? = some '*' then
      let cut := cutComment rest.tail
      ⟨⟨.blockComment cut.closed, '/' :: '*' :: cut.taken⟩, cut.rest⟩
    else if isSeparator first then
      ⟨⟨.blank, first :: rest.takeWhile isSeparator⟩,
        rest.dropWhile isSeparator⟩
    else if isWordChar first then
      let word := leadingWord (first :: rest)
      ⟨⟨.word, word⟩, (first :: rest).drop word.length⟩
    else
      let length := symbolLength first rest
      ⟨⟨.symbol, (first :: rest).take length⟩, (first :: rest).drop length⟩

@[simp]
theorem Cut.after_taken (front : List Char) (cut : Cut) :
    (cut.after front).taken = front ++ cut.taken := rfl

@[simp]
theorem Cut.after_rest (front : List Char) (cut : Cut) :
    (cut.after front).rest = cut.rest := rfl

@[simp]
theorem Cut.after_closed (front : List Char) (cut : Cut) :
    (cut.after front).closed = cut.closed := rfl

/-- A literal is cut out without loss. -/
theorem cutLiteral_append (delimiter : Delimiter) (text : List Char) :
    (cutLiteral delimiter text).taken ++ (cutLiteral delimiter text).rest =
      text := by
  fun_induction cutLiteral delimiter text <;> simp_all

/-- A comment is cut out without loss. -/
theorem cutComment_append (text : List Char) :
    (cutComment text).taken ++ (cutComment text).rest = text := by
  fun_induction cutComment text <;> simp_all

/-- The decimal part stands at the start of the text. -/
theorem decimals_isPrefix (text : List Char) : decimals text <+: text := by
  cases text with
  | nil => exact List.nil_prefix
  | cons char rest =>
    rw [decimals]
    split
    case isTrue point =>
      rw [point.1]
      exact List.cons_prefix_cons.mpr ⟨rfl, List.takeWhile_prefix _⟩
    case isFalse => exact List.nil_prefix

/-- The word stands at the start of the text. -/
theorem leadingWord_isPrefix (text : List Char) : leadingWord text <+: text := by
  unfold leadingWord
  split
  · obtain ⟨rest, part⟩ := decimals_isPrefix (text.dropWhile isWordChar)
    refine ⟨rest, ?_⟩
    rw [List.append_assoc, part, List.takeWhile_append_dropWhile]
  · exact List.takeWhile_prefix _

/-- The word of a text that starts with a word character is not empty. -/
theorem leadingWord_ne_nil {first : Char} (word : isWordChar first = true)
    (rest : List Char) :
    leadingWord (first :: rest) ≠ [] := by
  unfold leadingWord
  split <;> simp [List.takeWhile, word]

/-- A lexeme and what is left after it give back the text. -/
theorem scan_append (first : Char) (rest : List Char) :
    (scan first rest).lexeme.text ++ (scan first rest).rest = first :: rest := by
  unfold scan
  split
  · simp [cutLiteral_append]
  · split
    · simp
    · split
      case isTrue opening =>
        cases rest with
        | nil => simp at opening
        | cons next rest =>
          simp only [List.head?_cons, Option.some.injEq] at opening
          simp [opening.1, opening.2, cutComment_append]
      case isFalse =>
        split
        · simp
        · split
          · exact
              List.prefix_iff_eq_append.mp
                (leadingWord_isPrefix (first :: rest))
          · simp

/-- A lexeme is never empty. -/
theorem scan_text_ne_nil (first : Char) (rest : List Char) :
    (scan first rest).lexeme.text ≠ [] := by
  unfold scan
  split
  · simp
  · split
    · simp
    · split
      · simp
      · split
        · simp
        · split
          case isTrue word => exact leadingWord_ne_nil word rest
          case isFalse =>
            unfold symbolLength
            split <;> simp

/-- What is left after a lexeme is shorter than the text. -/
theorem scan_rest_length_lt (first : Char) (rest : List Char) :
    (scan first rest).rest.length < (first :: rest).length := by
  have whole := congrArg List.length (scan_append first rest)
  have taken := List.length_pos_iff.mpr (scan_text_ne_nil first rest)
  rw [List.length_append] at whole
  omega

end SqlCatalog
