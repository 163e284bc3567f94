import Mathlib.Data.List.Forall2
import SqlCatalog.Proofs.Lexing.Encoding
import SqlCatalog.Proofs.Lexing.Seam

/-!
# Scanning by bytes

The scanner of the library goes by characters.  This module has a scanner that
goes by the bytes of the UTF-8 encoding and keeps nothing but an offset, and
it shows that both stop at the same places.  So the offsets between tokens are
offsets between characters, and every token can be cut out of the bytes.

Between two stops the offset may well stand inside of a character or behind
the end of the text, since a backslash takes two bytes along without regard to
what they belong to.  No harm comes of it: a byte below 128 is a character by
itself, the bytes of all other characters are not below 128, and no reader
stops at such a byte.
-/

namespace SqlCatalog

/-! ## The scanner -/

/-- The offset behind a run of bytes of a class. -/
def runEnd (inRun : UInt8 → Bool) (bytes : List UInt8) (position : Nat) : Nat :=
  if inside : position < bytes.length then
    if inRun bytes[position] then runEnd inRun bytes (position + 1)
    else position
  else position
termination_by bytes.length - position

/-- The offset behind the mark that closes a literal, if there is one. -/
def literalEnd? (mark : UInt8) (bytes : List UInt8) (position : Nat) :
    Option Nat :=
  if inside : position < bytes.length then
    if bytes[position] = mark then
      if bytes[position + 1]? = some mark then
        literalEnd? mark bytes (position + 2)
      else some (position + 1)
    else if bytes[position] = '\\'.toUInt8 ∧ mark ≠ '\x60'.toUInt8 then
      -- The second byte may be the first of several, or missing.
      literalEnd? mark bytes (position + 2)
    else literalEnd? mark bytes (position + 1)
  else none
termination_by bytes.length - position

/-- The offset behind the star and slash that close a comment, if any do. -/
def commentEnd? (bytes : List UInt8) (position : Nat) : Option Nat :=
  if inside : position + 1 < bytes.length then
    if bytes[position] = '*'.toUInt8 ∧ bytes[position + 1] = '/'.toUInt8 then
      some (position + 2)
    else commentEnd? bytes (position + 1)
  else none
termination_by bytes.length - position

/-- Whether there is a digit at an offset. -/
def isDigitAt (bytes : List UInt8) (position : Nat) : Bool :=
  (bytes[position]?.map isDigitByte).getD false

/-- The offset behind the decimal part of a number, if it has one. -/
def decimalsEnd (bytes : List UInt8) (position : Nat) : Nat :=
  if bytes[position]? = some '.'.toUInt8 ∧
      isDigitAt bytes (position + 1) = true then
    runEnd isDigitByte bytes (position + 1)
  else position

/-- The offset behind a word, with decimals if it starts as a number. -/
def wordEnd (bytes : List UInt8) (position : Nat) : Nat :=
  if isDigitAt bytes position then
    decimalsEnd bytes (runEnd isWordByte bytes position)
  else runEnd isWordByte bytes position

/-- The symbols of two bytes. -/
def symbolBytes : List (UInt8 × UInt8) :=
  longSymbols.map fun pair => (pair.1.toUInt8, pair.2.toUInt8)

/-- The offset behind a symbol: two bytes or a whole character. -/
def symbolEnd (bytes : List UInt8) (position : Nat) (first : UInt8) : Nat :=
  if (bytes[position + 1]?.map fun next =>
      symbolBytes.contains (first, next)).getD false then
    position + 2
  else
    position +
      ((bytes.drop position).toByteArray.utf8DecodeChar? 0).elim 1 Char.utf8Size

def isMarkByte (byte : UInt8) : Bool :=
  byte == '\x27'.toUInt8 || byte == '\x22'.toUInt8 || byte == '\x60'.toUInt8

/-- The offset of a close that was found; else the end, with a complaint. -/
def stopOrEnd (bytes : List UInt8) (complaint : Unterminated) :
    Option Nat → Nat × Option Unterminated
  | some stop => (stop, none)
  | none => (bytes.length, some complaint)

/-- The offset behind the token that starts at an offset, and its complaint. -/
def tokenEnd (bytes : List UInt8) (position : Nat) (first : UInt8) :
    Nat × Option Unterminated :=
  if isMarkByte first then
    stopOrEnd bytes (.literal position)
      (literalEnd? first bytes (position + 1))
  else if first = '#'.toUInt8 ∨
      first = '-'.toUInt8 ∧ bytes[position + 1]? = some '-'.toUInt8 then
    (runEnd (· != '\n'.toUInt8) bytes position, none)
  else if first = '/'.toUInt8 ∧ bytes[position + 1]? = some '*'.toUInt8 then
    stopOrEnd bytes (.comment position) (commentEnd? bytes (position + 2))
  else if isSeparatorByte first then
    (runEnd isSeparatorByte bytes position, none)
  else if isWordByte first then (wordEnd bytes position, none)
  else (symbolEnd bytes position first, none)

/-- The bytes of a token, from one offset to another. -/
structure Slice where
  /-- The offset of the first byte. -/
  start : Nat
  /-- The offset behind the last byte. -/
  stop : Nat
deriving DecidableEq, Repr

/--
Reads token after token from an offset on, at most as many as the limit says.
There is no result if the limit is reached before the end of the bytes.
-/
def slicesWithin? (bytes : List UInt8) (limit position : Nat)
    (fault : Option Unterminated) :
    Option (List Slice × Option Unterminated) :=
  match bytes[position]? with
  | none => some ([], fault)
  | some first =>
    match limit with
    | 0 => none
    | limit + 1 =>
      let reached := tokenEnd bytes position first
      (slicesWithin? bytes limit reached.1 (reached.2 <|> fault)).map
        fun found => (⟨position, reached.1⟩ :: found.1, found.2)

/-! ## Runs -/

/-- At an offset the bytes of a text start, which reach to the end. -/
structure Begins (bytes : List UInt8) (position : Nat) (text : List Char) :
    Prop where
  /-- The offset is not behind the end. -/
  inside : position ≤ bytes.length
  /-- What follows are the bytes of the text. -/
  rest : bytes.drop position = utf8 text

variable {bytes : List UInt8} {position : Nat} {text : List Char}

/-- Behind the first part of a text its second part starts. -/
theorem Begins.behind
    (front : List Char) {back : List Char}
    (begins : Begins bytes position (front ++ back)) :
    Begins bytes (position + byteLength front) back := by
  have size := congrArg List.length begins.rest
  rw [List.length_drop, length_utf8, byteLength_append] at size
  have inside := begins.inside
  constructor
  · omega
  · rw [← List.drop_drop, begins.rest, utf8_append,
      List.drop_left' (length_utf8 front)]

theorem Begins.length (begins : Begins bytes position text) :
    position + byteLength text = bytes.length := by
  have size := congrArg List.length begins.rest
  rw [List.length_drop, length_utf8] at size
  have inside := begins.inside
  omega

/-- Where a character starts, there is a byte. -/
theorem Begins.exists_first
    {char : Char}
    (begins : Begins bytes position (char :: text)) :
    ∃ byte, bytes[position]? = some byte := by
  have length := begins.length
  have width := char.utf8Size_pos
  simp only [byteLength_cons] at length
  have inside : position < bytes.length := by omega
  exact ⟨_, List.getElem?_eq_getElem inside⟩

theorem getElem?_of_drop
    {rest : List UInt8}
    (behind : bytes.drop position = rest) :
    bytes[position]? = rest.head? ∧ bytes[position + 1]? = rest.tail.head? := by
  rw [← behind, List.head?_drop, List.tail_drop, List.head?_drop]
  exact ⟨rfl, rfl⟩

theorem drop_succ
    {byte : UInt8} {rest : List UInt8}
    (behind : bytes.drop position = byte :: rest) :
    bytes.drop (position + 1) = rest := by
  rw [← List.drop_drop, behind]
  rfl

theorem runEnd_eq (inRun : UInt8 → Bool) (bytes : List UInt8) (position : Nat) :
    runEnd inRun bytes position =
      position + ((bytes.drop position).takeWhile inRun).length := by
  fun_induction runEnd inRun bytes position with
  | case1 position inside member hypothesis =>
      rw [hypothesis, List.drop_eq_getElem_cons inside,
        List.takeWhile_cons_of_pos member, List.length_cons]
      omega
  | case2 position inside other =>
      rw [List.drop_eq_getElem_cons inside, List.takeWhile_cons_of_neg other]
      simp
  | case3 position outside =>
      rw [List.drop_eq_nil_of_le (Nat.not_lt.mp outside)]
      simp

/-- A run of bytes ends where the run of characters ends. -/
theorem Begins.runEnd_eq
    {inBytes : UInt8 → Bool} {inChars : Char → Bool}
    (begins : Begins bytes position text)
    (mirrors : Mirrors inBytes inChars) :
    runEnd inBytes bytes position =
      position + byteLength (text.takeWhile inChars) := by
  rw [SqlCatalog.runEnd_eq, begins.rest, takeWhile_utf8 mirrors, length_utf8]

/-! ## Literals and comments -/

theorem literalEnd?_cons
    {mark byte : UInt8} {rest : List UInt8}
    (behind : bytes.drop position = byte :: rest) :
    literalEnd? mark bytes position =
      if byte = mark then
        if rest.head? = some mark then literalEnd? mark bytes (position + 2)
        else some (position + 1)
      else if byte = '\\'.toUInt8 ∧ mark ≠ '\x60'.toUInt8 then
        literalEnd? mark bytes (position + 2)
      else literalEnd? mark bytes (position + 1) := by
  obtain ⟨here, next⟩ := getElem?_of_drop behind
  obtain ⟨inside, found⟩ := List.getElem?_eq_some_iff.mp here
  rw [literalEnd?, dif_pos inside, found, next]
  rfl

theorem literalEnd?_of_drop_nil
    {mark : UInt8}
    (nothing : bytes.drop position = []) :
    literalEnd? mark bytes position = none := by
  rw [literalEnd?, dif_neg]
  exact Nat.not_lt.mpr (List.drop_eq_nil_iff.mp nothing)

/-- Bytes outside of ASCII neither close nor escape. -/
theorem literalEnd?_skip
    {mark : UInt8}
    (low : mark < 128)
    {wide rest : List UInt8}
    (high : ∀ byte ∈ wide, 128 ≤ byte)
    (behind : bytes.drop position = wide ++ rest) :
    literalEnd? mark bytes position =
      literalEnd? mark bytes (position + wide.length) := by
  induction wide generalizing position with
  | nil => rfl
  | cons byte wide hypothesis =>
      have bound := high byte List.mem_cons_self
      have noMark : byte ≠ mark := (UInt8.ne_of_lt (UInt8.lt_of_lt_of_le low bound)).symm
      have noEscape : byte ≠ '\\'.toUInt8 :=
        (UInt8.ne_of_lt (UInt8.lt_of_lt_of_le (by decide) bound)).symm
      have later := hypothesis
        (fun other member => high other (List.mem_cons_of_mem byte member))
        (drop_succ behind)
      rw [literalEnd?_cons behind, if_neg noMark,
        if_neg fun escape => noEscape escape.1, later, List.length_cons,
        Nat.add_assoc, Nat.add_comm 1]

theorem mark_lt (delimiter : Delimiter) :
    delimiter.mark.toNat < 128 ∧ delimiter.mark.toUInt8 < 128 := by
  cases delimiter <;> decide

theorem mark_ne_backtick_iff (delimiter : Delimiter) :
    delimiter.mark.toUInt8 ≠ '\x60'.toUInt8 ↔ delimiter.escapes = true := by
  cases delimiter <;> decide

/-- The byte of an ASCII character starts no other character. -/
theorem Begins.first_eq_iff
    {char target : Char} {byte : UInt8}
    (begins : Begins bytes position (char :: text))
    (first : bytes[position]? = some byte)
    (ascii : target.toNat < 128) :
    byte = target.toUInt8 ↔ char = target := by
  have same := head?_utf8_eq_iff ascii (char :: text)
  rw [← begins.rest, List.head?_drop, first, List.head?_cons,
    Option.some.injEq, Option.some.injEq] at same
  exact same

/-- The same for two bytes and two characters. -/
theorem Begins.first_two_iff
    {char target next : Char} {byte : UInt8}
    (begins : Begins bytes position (char :: text))
    (first : bytes[position]? = some byte)
    (ascii : target.toNat < 128) (asciiNext : next.toNat < 128) :
    byte = target.toUInt8 ∧ bytes[position + 1]? = some next.toUInt8 ↔
      char = target ∧ text.head? = some next := by
  rw [begins.first_eq_iff first ascii]
  refine and_congr_right ?_
  rintro rfl
  have later := begins.behind [char]
  rw [byteLength_cons, byteLength_nil, (utf8EncodeChar_ascii ascii).2] at later
  rw [(getElem?_of_drop later.rest).1, head?_utf8_eq_iff asciiNext]

/-- A character that neither closes nor escapes is passed over. -/
theorem Begins.literalEnd?_plain
    {delimiter : Delimiter} {char : Char}
    (begins : Begins bytes position (char :: text))
    (other : char ≠ delimiter.mark)
    (single : ¬(char = '\\' ∧ delimiter.escapes = true)) :
    literalEnd? delimiter.mark.toUInt8 bytes position =
      literalEnd? delimiter.mark.toUInt8 bytes (position + char.utf8Size) := by
  obtain ⟨low, lowByte⟩ := mark_lt delimiter
  have behind := begins.rest
  rw [utf8_cons] at behind
  rcases utf8EncodeChar_cases char with ⟨ascii, encoded⟩ | ⟨-, -, high⟩
  · rw [encoded] at behind
    have first := (getElem?_of_drop behind).1
    have noMark : char.toUInt8 ≠ delimiter.mark.toUInt8 := by
      rw [Ne, begins.first_eq_iff first low]
      exact other
    have noEscape :
        ¬(char.toUInt8 = '\\'.toUInt8 ∧
          delimiter.mark.toUInt8 ≠ '\x60'.toUInt8) := by
      rw [begins.first_eq_iff first (by decide), mark_ne_backtick_iff]
      exact single
    rw [literalEnd?_cons behind, if_neg noMark, if_neg noEscape,
      (utf8EncodeChar_ascii ascii).2]
  · rw [literalEnd?_skip lowByte high behind, String.length_utf8EncodeChar]

/-- A mark is a single byte, and the byte behind it tells if it is doubled. -/
theorem Begins.literalEnd?_mark
    {delimiter : Delimiter}
    (begins : Begins bytes position (delimiter.mark :: text)) :
    literalEnd? delimiter.mark.toUInt8 bytes position =
      if text.head? = some delimiter.mark then
        literalEnd? delimiter.mark.toUInt8 bytes (position + 2)
      else some (position + 1) := by
  have low := (mark_lt delimiter).1
  have behind := begins.rest
  rw [utf8_cons, (utf8EncodeChar_ascii low).1, List.singleton_append] at behind
  rw [literalEnd?_cons behind, if_pos rfl]
  simp only [head?_utf8_eq_iff low]

/-- A backslash that escapes takes a byte along, if there is one or not. -/
theorem Begins.literalEnd?_backslash
    {delimiter : Delimiter}
    (begins : Begins bytes position ('\\' :: text))
    (escapes : delimiter.escapes = true) :
    literalEnd? delimiter.mark.toUInt8 bytes position =
      literalEnd? delimiter.mark.toUInt8 bytes (position + 2) := by
  have single : String.utf8EncodeChar '\\' = ['\\'.toUInt8] := by decide
  have behind := begins.rest
  rw [utf8_cons, single, List.singleton_append] at behind
  have noMark : '\\'.toUInt8 ≠ delimiter.mark.toUInt8 := by
    rw [Ne, begins.first_eq_iff (getElem?_of_drop behind).1
      (mark_lt delimiter).1]
    exact (Delimiter.mark_ne_backslash delimiter).symm
  have escape :
      '\\'.toUInt8 = '\\'.toUInt8 ∧
        delimiter.mark.toUInt8 ≠ '\x60'.toUInt8 :=
    ⟨rfl, (mark_ne_backtick_iff delimiter).mpr escapes⟩
  rw [literalEnd?_cons behind, if_neg noMark, if_pos escape]

/-- All bytes of a character but the first one are outside of ASCII. -/
theorem utf8EncodeChar_eq_cons (char : Char) :
    ∃ byte more, String.utf8EncodeChar char = byte :: more ∧
      ∀ other ∈ more, 128 ≤ other := by
  rcases utf8EncodeChar_cases char with ⟨-, encoded⟩ | ⟨-, filled, high⟩
  · exact ⟨_, [], encoded, by simp⟩
  · obtain ⟨byte, more, encoded⟩ := List.exists_cons_of_ne_nil filled
    refine ⟨byte, more, encoded, ?_⟩
    intro other member
    exact high other (by simp [encoded, member])

/-- A backslash takes the next character along, whatever its length. -/
theorem Begins.literalEnd?_escaped
    {delimiter : Delimiter} {next : Char}
    (begins : Begins bytes position ('\\' :: next :: text))
    (escapes : delimiter.escapes = true) :
    literalEnd? delimiter.mark.toUInt8 bytes position =
      literalEnd? delimiter.mark.toUInt8 bytes
        (position + byteLength ['\\', next]) := by
  obtain ⟨byte, more, encoded, high⟩ := utf8EncodeChar_eq_cons next
  have one : '\\'.utf8Size = 1 := by decide
  have later : bytes.drop (position + 1) = byte :: (more ++ utf8 text) := by
    have rest := (begins.behind ['\\']).rest
    rwa [utf8_cons, encoded, List.cons_append] at rest
  have width : more.length + 1 = next.utf8Size := by
    rw [← String.length_utf8EncodeChar, encoded, List.length_cons]
  have target : position + 2 + more.length = position + byteLength ['\\', next] := by
    simp only [byteLength_cons, byteLength_nil, one]
    omega
  -- What follows the escaped byte are the other bytes of the character.
  rw [begins.literalEnd?_backslash escapes,
    literalEnd?_skip (mark_lt delimiter).2 high (drop_succ later), target]

/-- A last character that is not the mark leaves the literal open. -/
theorem Begins.literalEnd?_last
    {delimiter : Delimiter} {char : Char}
    (begins : Begins bytes position [char])
    (other : char ≠ delimiter.mark) :
    literalEnd? delimiter.mark.toUInt8 bytes position = none := by
  have ended : bytes.length ≤ position + char.utf8Size := by
    have length := begins.length
    simp only [byteLength_cons, byteLength_nil] at length
    omega
  by_cases escape : char = '\\' ∧ delimiter.escapes = true
  · -- The offset leaps over the end of the text.
    obtain ⟨rfl, escapes⟩ := escape
    rw [begins.literalEnd?_backslash escapes, literalEnd?_of_drop_nil]
    exact List.drop_eq_nil_of_le (Nat.le_succ_of_le ended)
  · rw [begins.literalEnd?_plain other escape, literalEnd?_of_drop_nil]
    exact List.drop_eq_nil_of_le ended

/-- The offset behind what was cut off at an offset, if that was closed. -/
def Cut.stop? (position : Nat) (cut : Cut) : Option Nat :=
  if cut.closed then some (position + byteLength cut.taken) else none

theorem Cut.stop?_after (position : Nat) (front : List Char) (cut : Cut) :
    (cut.after front).stop? position =
      cut.stop? (position + byteLength front) := by
  simp [stop?, Nat.add_assoc]

/-- By bytes a literal is closed where it is closed by characters. -/
theorem Begins.literalEnd?_eq
    (delimiter : Delimiter)
    (begins : Begins bytes position text) :
    literalEnd? delimiter.mark.toUInt8 bytes position =
      (cutLiteral delimiter text).stop? position := by
  have width := (utf8EncodeChar_ascii (mark_lt delimiter).1).2
  fun_induction cutLiteral delimiter text generalizing position with
  | case1 => exact literalEnd?_of_drop_nil begins.rest
  | case2 char =>
      by_cases mark : char = delimiter.mark
      · subst mark
        rw [begins.literalEnd?_mark]
        simp [Cut.stop?, width]
      · rw [begins.literalEnd?_last mark]
        simp [Cut.stop?, mark]
  | case3 rest hypothesis =>
      have later := begins.behind [delimiter.mark, delimiter.mark]
      have doubled : byteLength [delimiter.mark, delimiter.mark] = 2 := by
        simp [width]
      rw [Cut.stop?_after, ← hypothesis later, begins.literalEnd?_mark, doubled]
      simp
  | case4 next rest other =>
      rw [begins.literalEnd?_mark, List.head?_cons, if_neg (by simpa using other)]
      simp [Cut.stop?, width]
  | case5 char next rest other escape hypothesis =>
      obtain ⟨rfl, escapes⟩ := escape
      rw [Cut.stop?_after, ← hypothesis (begins.behind ['\\', next]),
        begins.literalEnd?_escaped escapes]
  | case6 char next rest other noEscape hypothesis =>
      have one : byteLength [char] = char.utf8Size := by simp
      rw [Cut.stop?_after, ← hypothesis (begins.behind [char]),
        begins.literalEnd?_plain other noEscape, one]

theorem commentEnd?_cons
    {byte : UInt8} {rest : List UInt8}
    (behind : bytes.drop position = byte :: rest) :
    commentEnd? bytes position =
      if byte = '*'.toUInt8 ∧ rest.head? = some '/'.toUInt8 then
        some (position + 2)
      else commentEnd? bytes (position + 1) := by
  obtain ⟨here, next⟩ := getElem?_of_drop behind
  obtain ⟨inside, found⟩ := List.getElem?_eq_some_iff.mp here
  rw [commentEnd?]
  split
  case isTrue more =>
    have second : bytes[position + 1] = '/'.toUInt8 ↔
        rest.head? = some '/'.toUInt8 := by
      rw [List.tail_cons, List.getElem?_eq_getElem more] at next
      rw [← next, Option.some.injEq]
    simp only [found, second]
  case isFalse less =>
    have last : rest = [] := by
      rw [← drop_succ behind]
      exact List.drop_eq_nil_of_le (Nat.not_lt.mp less)
    have ended : ¬position + 1 + 1 < bytes.length := by omega
    rw [last, commentEnd?, dif_neg ended]
    simp

/-- Bytes outside of ASCII close no comment. -/
theorem commentEnd?_skip
    {wide rest : List UInt8}
    (high : ∀ byte ∈ wide, 128 ≤ byte)
    (behind : bytes.drop position = wide ++ rest) :
    commentEnd? bytes position = commentEnd? bytes (position + wide.length) := by
  induction wide generalizing position with
  | nil => rfl
  | cons byte wide hypothesis =>
      have bound := high byte List.mem_cons_self
      have noStar : byte ≠ '*'.toUInt8 :=
        (UInt8.ne_of_lt (UInt8.lt_of_lt_of_le (by decide) bound)).symm
      have later := hypothesis
        (fun other member => high other (List.mem_cons_of_mem byte member))
        (drop_succ behind)
      rw [commentEnd?_cons behind, if_neg fun close => noStar close.1, later,
        List.length_cons, Nat.add_assoc, Nat.add_comm 1]

/-- By bytes a comment is closed where it is closed by characters. -/
theorem Begins.commentEnd?_eq (begins : Begins bytes position text) :
    commentEnd? bytes position = (cutComment text).stop? position := by
  induction text generalizing position with
  | nil =>
      have length := begins.length
      rw [commentEnd?, dif_neg (by simp at length; omega)]
      rfl
  | cons char text hypothesis =>
      have behind := begins.rest
      rw [utf8_cons] at behind
      have later := hypothesis (begins.behind [char])
      have width : byteLength [char] = char.utf8Size := by simp
      rcases utf8EncodeChar_cases char with ⟨ascii, encoded⟩ | ⟨wide, -, high⟩
      · rw [encoded, List.singleton_append] at behind
        have star := begins.first_eq_iff (getElem?_of_drop behind).1
          (by decide : '*'.toNat < 128)
        have slash := head?_utf8_eq_iff (by decide : '/'.toNat < 128) text
        rw [commentEnd?_cons behind]
        simp only [star, slash]
        split
        case isTrue close =>
          obtain ⟨rfl, slash⟩ := close
          cases text with
          | nil => simp at slash
          | cons next text =>
              obtain rfl : next = '/' := by simpa using slash
              rfl
        case isFalse inside =>
          rw [cutComment_cons inside, Cut.stop?_after, ← later, width,
            (utf8EncodeChar_ascii ascii).2]
      · have inside : ¬(char = '*' ∧ text.head? = some '/') := by
          rintro ⟨rfl, -⟩
          revert wide
          decide
        rw [cutComment_cons inside, Cut.stop?_after, ← later,
          commentEnd?_skip high behind, String.length_utf8EncodeChar, width]

/-! ## Words and symbols -/

/-- The first byte of a character is in a class if the character is. -/
theorem Begins.first_mem
    {inBytes : UInt8 → Bool} {inChars : Char → Bool}
    {char : Char} {byte : UInt8}
    (begins : Begins bytes position (char :: text))
    (mirrors : Mirrors inBytes inChars)
    (first : bytes[position]? = some byte) :
    inBytes byte = inChars char := by
  obtain ⟨head, more, encoded, -⟩ := utf8EncodeChar_eq_cons char
  have here := (getElem?_of_drop begins.rest).1
  rw [first, utf8_cons, encoded, List.cons_append, List.head?_cons,
    Option.some.injEq] at here
  subst here
  cases member : inChars char with
  | true => exact mirrors.inside char member byte (by simp [encoded])
  | false => exact mirrors.outside char member byte (by simp [encoded])

theorem Begins.isDigitAt_eq (begins : Begins bytes position text) :
    isDigitAt bytes position = (text.head?.map Char.isDigit).getD false := by
  have here := (getElem?_of_drop begins.rest).1
  cases text with
  | nil => simp [isDigitAt, here]
  | cons char text =>
      obtain ⟨byte, first⟩ := begins.exists_first
      have same := begins.first_mem mirrors_isDigit first
      simp [isDigitAt, first, same]

theorem Begins.decimalsEnd_eq (begins : Begins bytes position text) :
    decimalsEnd bytes position = position + byteLength (decimals text) := by
  have point := head?_utf8_eq_iff (by decide : '.'.toNat < 128) text
  rw [← begins.rest, List.head?_drop] at point
  rw [decimalsEnd]
  cases text with
  | nil => simp [point, decimals]
  | cons char rest =>
      by_cases dot : char = '.'
      · subst dot
        have later : Begins bytes (position + 1) rest := begins.behind ['.']
        have width : '.'.utf8Size = 1 := by decide
        rw [later.isDigitAt_eq, later.runEnd_eq mirrors_isDigit, decimals]
        cases rest with
        | nil => simp
        | cons next rest =>
            by_cases digit : next.isDigit = true
            · simp [point, digit, width]
              omega
            · simp [digit]
      · have noPoint : bytes[position]? ≠ some '.'.toUInt8 := by
          rw [Ne, point]
          simpa using dot
        simp [noPoint, decimals, dot]

/-- By bytes a word ends where it ends by characters. -/
theorem Begins.wordEnd_eq (begins : Begins bytes position text) :
    wordEnd bytes position = position + byteLength (leadingWord text) := by
  have later : Begins bytes (position + byteLength (text.takeWhile isWordChar))
      (text.dropWhile isWordChar) := by
    apply Begins.behind
    rwa [List.takeWhile_append_dropWhile]
  rw [wordEnd, begins.runEnd_eq mirrors_isWord, begins.isDigitAt_eq,
    later.decimalsEnd_eq, leadingWord]
  split
  · rw [byteLength_append, Nat.add_assoc]
  · rfl

theorem isPair_iff
    {Item : Type} [DecidableEq Item]
    (pairs : List (Item × Item)) (first : Item) (second : Option Item) :
    (second.map fun next => pairs.contains (first, next)).getD false = true ↔
      ∃ next, second = some next ∧ (first, next) ∈ pairs := by
  cases second <;> simp

/-- Two bytes are a long symbol if the characters are. -/
theorem Begins.symbolBytes_iff
    {char : Char} {byte : UInt8}
    (begins : Begins bytes position (char :: text))
    (first : bytes[position]? = some byte) :
    (∃ next, bytes[position + 1]? = some next ∧ (byte, next) ∈ symbolBytes) ↔
      ∃ next, text.head? = some next ∧ (char, next) ∈ longSymbols := by
  have narrow :
      ∀ pair ∈ longSymbols, pair.1.toNat < 128 ∧ pair.2.toNat < 128 := by
    decide
  constructor
  · rintro ⟨second, found, listed⟩
    obtain ⟨pair, member, same⟩ := List.mem_map.mp listed
    obtain ⟨left, right⟩ := narrow pair member
    injection same with sameFirst sameSecond
    rw [← sameSecond] at found
    obtain ⟨rfl, next⟩ :=
      (begins.first_two_iff first left right).mp ⟨sameFirst.symm, found⟩
    exact ⟨pair.2, next, member⟩
  · rintro ⟨second, found, listed⟩
    obtain ⟨left, right⟩ := narrow _ listed
    obtain ⟨rfl, next⟩ :=
      (begins.first_two_iff first left right).mpr ⟨rfl, found⟩
    exact ⟨second.toUInt8, next, List.mem_map.mpr ⟨_, listed, rfl⟩⟩

/-- By bytes a symbol ends where it ends by characters. -/
theorem Begins.symbolEnd_eq
    {char : Char} {byte : UInt8}
    (begins : Begins bytes position (char :: text))
    (first : bytes[position]? = some byte)
    (ascii : char.toNat < 128) :
    symbolEnd bytes position byte =
      position +
        byteLength ((char :: text).take (symbolLength char text)) := by
  have decoded :
      (bytes.drop position).toByteArray.utf8DecodeChar? 0 = some char := by
    rw [begins.rest]
    exact List.utf8DecodeChar?_utf8Encode_cons
  have long := begins.symbolBytes_iff first
  have width := (utf8EncodeChar_ascii ascii).2
  simp only [symbolEnd, symbolLength, isPair_iff, long, decoded]
  split
  case isTrue listed =>
    obtain ⟨next, head, pair⟩ := listed
    obtain ⟨rest, rfl⟩ := List.head?_eq_some_iff.mp head
    have narrow : ∀ pair ∈ longSymbols, pair.2.utf8Size = 1 := by decide
    have nextWidth := narrow (char, next) pair
    simp only at nextWidth
    simp [width, nextWidth]
  case isFalse => simp

/-! ## Tokens -/

theorem cutLiteral_unclosed
    {delimiter : Delimiter} {text : List Char}
    (unclosed : (cutLiteral delimiter text).closed = false) :
    (cutLiteral delimiter text).taken = text := by
  have ends := literalCut_cutLiteral delimiter text
  generalize cutLiteral delimiter text = cut at ends unclosed
  cases ends with
  | closed => cases unclosed
  | unclosed => rfl

theorem cutComment_unclosed
    {text : List Char}
    (unclosed : (cutComment text).closed = false) :
    (cutComment text).taken = text := by
  have ends := commentCut_cutComment text
  generalize cutComment text = cut at ends unclosed
  cases ends with
  | closed => cases unclosed
  | unclosed => rfl

/-- The marks are the marks in bytes, too. -/
theorem Begins.isMarkByte_eq
    {char : Char} {byte : UInt8}
    (begins : Begins bytes position (char :: text))
    (first : bytes[position]? = some byte) :
    isMarkByte byte = (Delimiter.ofMark? char).isSome := by
  have mark {target : Char} (ascii : target.toNat < 128) :=
    begins.first_eq_iff first ascii
  rw [Bool.eq_iff_iff]
  simp only [isMarkByte, Bool.or_eq_true, beq_iff_eq,
    mark (by decide : '\x27'.toNat < 128), mark (by decide : '\x22'.toNat < 128),
    mark (by decide : '\x60'.toNat < 128)]
  unfold Delimiter.ofMark?
  grind

theorem Begins.stopOrEnd_eq
    {cut : Cut}
    (begins : Begins bytes position text)
    (whole : cut.closed = false → cut.taken = text)
    (complaint : Unterminated) :
    stopOrEnd bytes complaint (cut.stop? position) =
      (position + byteLength cut.taken,
        if cut.closed then none else some complaint) := by
  cases closed : cut.closed with
  | true => simp [Cut.stop?, closed, stopOrEnd]
  | false => simp [Cut.stop?, closed, stopOrEnd, whole closed, begins.length]

/-- By bytes a literal ends where it ends by characters, closed or not. -/
theorem Begins.stopOrEnd_literal
    {delimiter : Delimiter}
    (begins : Begins bytes position (delimiter.mark :: text)) :
    stopOrEnd bytes (.literal position)
        (literalEnd? delimiter.mark.toUInt8 bytes (position + 1)) =
      (position + byteLength (scan delimiter.mark text).lexeme.text,
        (scan delimiter.mark text).lexeme.fault? position) := by
  have width := (utf8EncodeChar_ascii (mark_lt delimiter).1).2
  have later : Begins bytes (position + 1) text := by
    simpa [width] using begins.behind [delimiter.mark]
  rw [later.literalEnd?_eq delimiter, later.stopOrEnd_eq cutLiteral_unclosed,
    scan_mark, byteLength_cons, width, Nat.add_assoc]
  cases closed : (cutLiteral delimiter text).closed <;> rfl

/-- By bytes a comment ends where it ends by characters, closed or not. -/
theorem Begins.stopOrEnd_comment
    (begins : Begins bytes position ('/' :: '*' :: text)) :
    stopOrEnd bytes (.comment position) (commentEnd? bytes (position + 2)) =
      (position + byteLength (scan '/' ('*' :: text)).lexeme.text,
        (scan '/' ('*' :: text)).lexeme.fault? position) := by
  have later : Begins bytes (position + 2) text := begins.behind ['/', '*']
  have width : '/'.utf8Size = 1 ∧ '*'.utf8Size = 1 := by decide
  have read : scan '/' ('*' :: text) =
      { lexeme := { kind := .blockComment (cutComment text).closed
                    text := '/' :: '*' :: (cutComment text).taken }
        rest := (cutComment text).rest } := by
    rfl
  rw [later.commentEnd?_eq, later.stopOrEnd_eq cutComment_unclosed, read,
    byteLength_cons, byteLength_cons, width.1, width.2, ← Nat.add_assoc,
    ← Nat.add_assoc]
  cases closed : (cutComment text).closed <;> rfl

/-- By bytes a token ends where it ends by characters. -/
theorem Begins.tokenEnd_eq
    {char : Char} {byte : UInt8}
    (begins : Begins bytes position (char :: text))
    (first : bytes[position]? = some byte) :
    tokenEnd bytes position byte =
      (position + byteLength (scan char text).lexeme.text,
        (scan char text).lexeme.fault? position) := by
  have line := begins.first_two_iff first
    (by decide : '-'.toNat < 128) (by decide : '-'.toNat < 128)
  have block := begins.first_two_iff first
    (by decide : '/'.toNat < 128) (by decide : '*'.toNat < 128)
  have hash := begins.first_eq_iff first (by decide : '#'.toNat < 128)
  have separator := begins.first_mem mirrors_isSeparator first
  have word := begins.first_mem mirrors_isWord first
  simp only [tokenEnd, begins.isMarkByte_eq first, hash, line, block, separator,
    word]
  cases found : Delimiter.ofMark? char with
  | some delimiter =>
      obtain rfl := Delimiter.ofMark?_eq_some_iff.mp found
      have mark := (begins.first_eq_iff first (mark_lt delimiter).1).mpr rfl
      rw [Option.isSome_some, if_pos rfl, mark]
      exact begins.stopOrEnd_literal
  | none =>
      simp only [scan, found, Option.isSome_none, Bool.false_eq_true, if_false]
      split
      case isTrue opening =>
        have inside : (char != '\n') = true := by
          rcases opening with rfl | ⟨rfl, -⟩ <;> decide
        rw [begins.runEnd_eq mirrors_line, List.takeWhile_cons, if_pos inside]
        rfl
      case isFalse =>
        split
        case isTrue opening =>
          obtain ⟨rfl, star⟩ := opening
          obtain ⟨rest, rfl⟩ := List.head?_eq_some_iff.mp star
          exact begins.stopOrEnd_comment
        case isFalse =>
          split
          case isTrue separator =>
            rw [begins.runEnd_eq mirrors_isSeparator,
              List.takeWhile_cons_of_pos separator]
            rfl
          case isFalse =>
            split
            case isTrue =>
              rw [begins.wordEnd_eq]
              rfl
            case isFalse noWord =>
              have ascii : char.toNat < 128 := by
                simp only [isWordChar, Bool.or_eq_true, decide_eq_true_eq,
                  not_or] at noWord
                exact Nat.not_le.mp noWord.2
              rw [begins.symbolEnd_eq first ascii]
              rfl

/-! ## Whole texts -/

/-- The places of lexemes that follow one another from an offset on. -/
def slicesFrom : Nat → List Lexeme → List Slice
  | _, [] => []
  | position, lexeme :: later =>
    ⟨position, position + byteLength lexeme.text⟩ ::
      slicesFrom (position + byteLength lexeme.text) later

/-- Reading by bytes finds the lexemes of the text, and one step for each will do. -/
theorem Begins.slicesWithin?_eq
    {limit : Nat}
    (begins : Begins bytes position text)
    (enough : (lexemes text).length ≤ limit)
    (fault : Option Unterminated) :
    slicesWithin? bytes limit position fault =
      some (slicesFrom position (lexemes text),
        Lexeme.lastFault? position (lexemes text) <|> fault) := by
  fun_induction lexemes text generalizing position limit fault with
  | case1 =>
      have ended : bytes[position]? = none := (getElem?_of_drop begins.rest).1
      rw [slicesWithin?, ended]
      rfl
  | case2 char rest hypothesis =>
      obtain ⟨byte, first⟩ := begins.exists_first
      cases limit with
      | zero => simp at enough
      | succ limit =>
          have later :
              Begins bytes (position + byteLength (scan char rest).lexeme.text)
                (scan char rest).rest := by
            apply Begins.behind
            rwa [scan_append]
          have found := hypothesis later (Nat.le_of_succ_le_succ enough)
            ((scan char rest).lexeme.fault? position <|> fault)
          rw [slicesWithin?, first]
          simp only [begins.tokenEnd_eq first, found]
          simp [slicesFrom, Lexeme.lastFault?, Option.or_assoc]

/-- A text has at most as many lexemes as bytes. -/
theorem length_lexemes_le (text : List Char) :
    (lexemes text).length ≤ byteLength text := by
  fun_induction lexemes text with
  | case1 => exact Nat.le_refl 0
  | case2 char rest hypothesis =>
      have whole := congrArg byteLength (scan_append char rest)
      obtain ⟨first, body, filled⟩ :=
        List.exists_cons_of_ne_nil (scan_text_ne_nil char rest)
      have width := first.utf8Size_pos
      rw [byteLength_append, filled, byteLength_cons] at whole
      rw [List.length_cons]
      omega

/-- Behind the first part of a text lies a boundary between characters. -/
theorem isValid_append (front back : List Char) :
    String.Pos.Raw.IsValid (String.ofList (front ++ back))
      ⟨byteLength front⟩ := by
  rw [String.Pos.Raw.isValid_iff_exists_append]
  refine ⟨String.ofList front, String.ofList back, String.ofList_append, ?_⟩
  rw [String.rawEndPos, utf8ByteSize_ofList]

/--
The bytes from one offset to another are those of a token: both offsets lie
between characters of the text, and the token is what stands between them.
-/
structure Slice.Holds (sql : String) (slice : Slice) (token : Token) : Prop where
  /-- The slice holds something. -/
  filled : slice.start < slice.stop
  /-- It starts between two characters of the text. -/
  start_isValid : String.Pos.Raw.IsValid sql ⟨slice.start⟩
  /-- It ends between two characters of the text. -/
  stop_isValid : String.Pos.Raw.IsValid sql ⟨slice.stop⟩
  /-- Its bytes are those of the token. -/
  content : sql.toByteArray.extract slice.start slice.stop = token.toByteArray

theorem slice_holds
    {token : List Char}
    (filled : token ≠ [])
    (front back : List Char) :
    Slice.Holds (String.ofList (front ++ (token ++ back)))
      ⟨byteLength front, byteLength front + byteLength token⟩
      (String.ofList token) where
  filled := by
    obtain ⟨first, body, rfl⟩ := List.exists_cons_of_ne_nil filled
    have width := first.utf8Size_pos
    simp only [byteLength_cons]
    omega
  start_isValid := isValid_append front (token ++ back)
  stop_isValid := by
    rw [← byteLength_append, ← List.append_assoc]
    exact isValid_append (front ++ token) back
  content := by
    have size (part : List Char) :
        (String.ofList part).toByteArray.size = byteLength part :=
      utf8ByteSize_ofList part
    have nothing :
        (String.ofList front).toByteArray.extract (byteLength front)
          (byteLength front + byteLength token) = ByteArray.empty := by
      rw [ByteArray.extract_eq_empty_iff, size]
      omega
    rw [String.ofList_append, String.ofList_append, String.toByteArray_append,
      String.toByteArray_append, ByteArray.extract_append, nothing, size,
      Nat.sub_self, Nat.add_sub_cancel_left, ByteArray.empty_append]
    exact ByteArray.extract_append_eq_left (size token).symm

/-- The places of the lexemes of a text hold their tokens. -/
theorem forall₂_slicesFrom
    {sequence : List Lexeme}
    (filled : ∀ lexeme ∈ sequence, lexeme.text ≠ [])
    (front : List Char) :
    List.Forall₂ (Slice.Holds (String.ofList (front ++ spelling sequence)))
      (slicesFrom (byteLength front) sequence) (sequence.map Lexeme.token) := by
  induction sequence generalizing front with
  | nil => exact .nil
  | cons lexeme later hypothesis =>
      have others := hypothesis
        (fun other member => filled other (List.mem_cons_of_mem _ member))
        (front ++ lexeme.text)
      rw [List.append_assoc, ← spelling_cons, byteLength_append] at others
      refine .cons ?_ others
      rw [spelling_cons]
      exact slice_holds (filled lexeme List.mem_cons_self) front
        (spelling later)

/--
Nothing is lost in reading and no character is cut.  The tokens, none of them
empty, make up the text; there are boundaries between characters around all of
them.  A scanner that steps from byte to byte stops at these boundaries and
nowhere else, takes at most one step for each byte of the text, and ends with
the same complaint.
-/
theorem tokenize_lossless (sql : String) :
    String.join (tokenize sql).tokens = sql ∧
      (∀ token ∈ (tokenize sql).tokens, token ≠ "") ∧
      (∀ front back, (tokenize sql).tokens = front ++ back →
        String.Pos.Raw.IsValid sql ⟨(String.join front).utf8ByteSize⟩) ∧
      (tokenize sql).tokens.length ≤ sql.utf8ByteSize ∧
      ∃ slices,
        slicesWithin? sql.toByteArray.data.toList sql.utf8ByteSize 0 none =
            some (slices, (tokenize sql).fault) ∧
          List.Forall₂ (Slice.Holds sql) slices (tokenize sql).tokens := by
  have size : sql.utf8ByteSize = byteLength sql.toList := by
    rw [← utf8ByteSize_ofList, String.ofList_toList]
  have filled : ∀ lexeme ∈ lexemes sql.toList, lexeme.text ≠ [] :=
    fun lexeme member => text_ne_nil_of_mem_lexemes member
  rw [tokenize_tokens, tokenize_fault, size, ← utf8_toList]
  refine ⟨?_, ?_, ?_, ?_, slicesFrom 0 (lexemes sql.toList), ?_, ?_⟩
  · rw [← String.toList_inj, toList_join_tokens, spelling_lexemes]
  · intro token member
    obtain ⟨lexeme, listed, rfl⟩ := List.mem_map.mp member
    rw [Lexeme.token, Ne, ← String.toList_inj, String.toList_ofList]
    exact filled lexeme listed
  · intro front back parts
    obtain ⟨before, behind, cut, rfl, rfl⟩ := List.map_eq_append_iff.mp parts
    have text := (reads_of_lexemes_eq cut).1
    have boundary := isValid_append (spelling before) (spelling behind)
    rwa [← text, String.ofList_toList, ← toList_join_tokens,
      ← utf8ByteSize_ofList, String.ofList_toList] at boundary
  · rw [List.length_map]
    exact length_lexemes_le sql.toList
  · have begins : Begins (utf8 sql.toList) 0 sql.toList :=
      ⟨Nat.zero_le _, rfl⟩
    rw [begins.slicesWithin?_eq (length_lexemes_le sql.toList) none]
    simp
  · have places := forall₂_slicesFrom filled []
    rwa [List.nil_append, spelling_lexemes, String.ofList_toList] at places

-- A backslash in front of a character of two bytes, and one at the end.
example :
    slicesWithin? (utf8 ['\x22', '\\', 'é', '\x22', ' ', '\x22', '\\']) 8 0 none =
      some ([⟨0, 5⟩, ⟨5, 6⟩, ⟨6, 8⟩], some (.literal 6)) := by
  decide +kernel

end SqlCatalog
