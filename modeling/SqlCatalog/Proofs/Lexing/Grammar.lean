import Mathlib.Data.Bool.AllAny
import Mathlib.Data.List.TakeWhile
import SqlCatalog.Lexeme.Literal

/-!
# The lexical grammar

The scanner is compared with a grammar that has one rule for each form of a
lexeme.  A rule describes the text of the lexeme and says what may stand
behind it: a literal is not followed by its own mark, a run is not followed by
a character that would prolong it, and an open literal or comment is followed
by nothing at all.

The two halves of the comparison are `standsBefore_scan` and
`scan_of_standsBefore`: the scanner takes a lexeme of the grammar, and it
takes whatever the grammar allows.  No later proof looks into the scanner.
-/

namespace SqlCatalog

/-! ## Readers of literals and comments -/

theorem Literal.written_cons
    (delimiter : Delimiter) (piece : Literal.Piece)
    (pieces : List Literal.Piece) :
    Literal.written delimiter (piece :: pieces) =
      piece.written delimiter ++ Literal.written delimiter pieces := by
  simp [Literal.written]

/-- A character that neither closes nor escapes is passed over. -/
theorem cutLiteral_cons_plain
    {delimiter : Delimiter} {char : Char}
    (plain : (Literal.Piece.plain char).Allowed delimiter)
    (text : List Char) :
    cutLiteral delimiter (char :: text) =
      (cutLiteral delimiter text).after [char] := by
  have noEscape : ¬(char = '\\' ∧ delimiter.escapes = true) := by
    rintro ⟨backslash, escapes⟩
    exact plain.2 escapes backslash
  cases text with
  | nil => simp [cutLiteral, Cut.after, plain.1]
  | cons next rest => simp [cutLiteral, plain.1, noEscape]

/-- The reader closes a literal at the mark that the grammar puts there. -/
theorem cutLiteral_written
    {delimiter : Delimiter} {pieces : List Literal.Piece}
    (allowed : ∀ piece ∈ pieces, piece.Allowed delimiter)
    {rest : List Char}
    (stop : rest.head? ≠ some delimiter.mark) :
    cutLiteral delimiter
        (Literal.written delimiter pieces ++ delimiter.mark :: rest) =
      ⟨Literal.written delimiter pieces ++ [delimiter.mark], rest, true⟩ := by
  induction pieces with
  | nil =>
      cases rest with
      | nil => simp [Literal.written, cutLiteral]
      | cons next rest =>
          have other : next ≠ delimiter.mark := by simpa using stop
          simp [Literal.written, cutLiteral, other]
  | cons piece pieces hypothesis =>
      have first := allowed piece List.mem_cons_self
      have later := hypothesis fun piece member =>
        allowed piece (List.mem_cons_of_mem _ member)
      rw [Literal.written_cons]
      cases piece with
      | plain char =>
          simp [Literal.Piece.written, cutLiteral_cons_plain first, later,
            Cut.after]
      | doubled =>
          simp [Literal.Piece.written, cutLiteral, later, Cut.after]
      | escaped char =>
          have escapes : delimiter.escapes = true := first
          have other := (Delimiter.mark_ne_backslash delimiter).symm
          simp [Literal.Piece.written, cutLiteral, later, Cut.after, escapes,
            other]

/--
How the reader of a literal ends: behind a mark that the grammar puts there,
or with the text.
-/
inductive LiteralCut (delimiter : Delimiter) (text : List Char) : Cut → Prop
  | closed {pieces : List Literal.Piece} {rest : List Char}
      (allowed : ∀ piece ∈ pieces, piece.Allowed delimiter)
      (stop : rest.head? ≠ some delimiter.mark) :
      LiteralCut delimiter text
        ⟨Literal.written delimiter pieces ++ [delimiter.mark], rest, true⟩
  | unclosed : LiteralCut delimiter text ⟨text, [], false⟩

/-- A piece in front does not change how a literal ends. -/
theorem LiteralCut.after
    {delimiter : Delimiter} {piece : Literal.Piece}
    {text : List Char} {cut : Cut}
    (allowed : piece.Allowed delimiter)
    (ends : LiteralCut delimiter text cut) :
    LiteralCut delimiter (piece.written delimiter ++ text)
      (cut.after (piece.written delimiter)) := by
  cases ends with
  | @closed pieces rest later stop =>
      rw [Cut.after, ← List.append_assoc, ← Literal.written_cons]
      refine .closed ?_ stop
      intro other member
      rcases List.mem_cons.mp member with rfl | member
      · exact allowed
      · exact later other member
  | unclosed => exact .unclosed

/-- A literal is closed by the grammar, or it takes all that is left. -/
theorem literalCut_cutLiteral
    (delimiter : Delimiter) (text : List Char) :
    LiteralCut delimiter text (cutLiteral delimiter text) := by
  fun_induction cutLiteral delimiter text with
  | case1 => exact .unclosed
  | case2 char =>
      by_cases mark : char = delimiter.mark
      · have empty :
            LiteralCut delimiter [char]
              ⟨Literal.written delimiter [] ++ [delimiter.mark], [], true⟩ :=
          .closed (by simp) (by simp)
        simpa [mark, Literal.written] using empty
      · have whole : LiteralCut delimiter [char] ⟨[char], [], false⟩ := .unclosed
        simpa [mark] using whole
  | case3 rest hypothesis =>
      have doubled : Literal.Piece.doubled.Allowed delimiter := trivial
      exact hypothesis.after doubled
  | case4 next rest other =>
      have empty :
          LiteralCut delimiter (delimiter.mark :: next :: rest)
            ⟨Literal.written delimiter [] ++ [delimiter.mark], next :: rest,
              true⟩ :=
        .closed (by simp) (by simpa using other)
      simpa [Literal.written] using empty
  | case5 char next rest other escape hypothesis =>
      obtain ⟨rfl, escapes⟩ := escape
      have escaped : (Literal.Piece.escaped next).Allowed delimiter := escapes
      exact hypothesis.after escaped
  | case6 char next rest other noEscape hypothesis =>
      have plain : (Literal.Piece.plain char).Allowed delimiter := by
        refine ⟨other, ?_⟩
        intro escapes backslash
        exact noEscape ⟨backslash, escapes⟩
      exact hypothesis.after plain

/-- A character that does not start the closing of a comment is passed over. -/
theorem cutComment_cons
    {char : Char} {text : List Char}
    (inside : ¬(char = '*' ∧ text.head? = some '/')) :
    cutComment (char :: text) = (cutComment text).after [char] := by
  cases text with
  | nil => simp [cutComment, Cut.after]
  | cons next rest =>
      have passed : ¬(char = '*' ∧ next = '/') := by simpa using inside
      simp [cutComment, passed]

/-- A star and slash inside a longer text start at its head or behind it. -/
theorem not_infix_cons_iff {char : Char} {content : List Char} :
    ¬['*', '/'] <:+: char :: content ↔
      ¬(char = '*' ∧ content.head? = some '/') ∧ ¬['*', '/'] <:+: content := by
  have atHead :
      ['*', '/'] <+: char :: content ↔
        char = '*' ∧ content.head? = some '/' := by
    cases content with
    | nil => simp
    | cons next content => simp [eq_comm]
  rw [List.infix_cons_iff, atHead, not_or]

/-- The reader closes a comment at the first star and slash. -/
theorem cutComment_append_close
    {content : List Char}
    (inside : ¬['*', '/'] <:+: content)
    (rest : List Char) :
    cutComment (content ++ '*' :: '/' :: rest) =
      ⟨content ++ ['*', '/'], rest, true⟩ := by
  induction content with
  | nil => simp [cutComment]
  | cons char content hypothesis =>
      obtain ⟨first, later⟩ := not_infix_cons_iff.mp inside
      have passed : ¬(char = '*' ∧
          (content ++ '*' :: '/' :: rest).head? = some '/') := by
        cases content with
        | nil => simp
        | cons next content => simpa using first
      rw [List.cons_append, cutComment_cons passed, hypothesis later]
      rfl

/--
How the reader of a comment ends: behind the first star and slash, or with the
text if that has none.
-/
inductive CommentCut : List Char → Cut → Prop
  | closed {content rest : List Char}
      (inside : ¬['*', '/'] <:+: content) :
      CommentCut (content ++ '*' :: '/' :: rest)
        ⟨content ++ ['*', '/'], rest, true⟩
  | unclosed {text : List Char}
      (inside : ¬['*', '/'] <:+: text) :
      CommentCut text ⟨text, [], false⟩

/-- A character in front that closes nothing does not change the end. -/
theorem CommentCut.after
    {char : Char} {text : List Char} {cut : Cut}
    (passed : ¬(char = '*' ∧ text.head? = some '/'))
    (ends : CommentCut text cut) :
    CommentCut (char :: text) (cut.after [char]) := by
  cases ends with
  | @closed content rest inside =>
      have longer : ¬['*', '/'] <:+: char :: content := by
        rw [not_infix_cons_iff]
        refine ⟨?_, inside⟩
        rintro ⟨star, slash⟩
        apply passed
        refine ⟨star, ?_⟩
        cases content with
        | nil => simp at slash
        | cons next content => simpa using slash
      exact .closed longer
  | unclosed inside =>
      exact .unclosed (not_infix_cons_iff.mpr ⟨passed, inside⟩)

/-- A comment is closed at the first star and slash if there is one. -/
theorem commentCut_cutComment (text : List Char) :
    CommentCut text (cutComment text) := by
  fun_induction cutComment text with
  | case1 => exact .unclosed (by simp)
  | case2 char =>
      refine .unclosed ?_
      intro inside
      simpa using inside.length_le
  | case3 char next rest close =>
      obtain ⟨rfl, rfl⟩ := close
      have nothing : ¬['*', '/'] <:+: ([] : List Char) := by simp
      exact .closed nothing
  | case4 char next rest passed hypothesis =>
      exact hypothesis.after (by simpa using passed)

/-! ## Runs and words -/

/-- A run is taken whole and not beyond the first character outside it. -/
theorem takeWhile_run
    {inRun : Char → Bool} {run rest : List Char}
    (inside : ∀ char ∈ run, inRun char = true)
    (stop : ∀ char ∈ rest.head?, inRun char = false) :
    (run ++ rest).takeWhile inRun = run ∧
      (run ++ rest).dropWhile inRun = rest := by
  rw [List.takeWhile_append_of_pos inside, List.dropWhile_append_of_pos inside]
  cases rest with
  | nil => simp
  | cons char rest =>
      have outside := stop char (by simp)
      simp [outside]

/-- Behind a run stands a character outside of it, or nothing. -/
theorem dropWhile_stop (inRun : Char → Bool) (text : List Char) :
    ∀ char ∈ (text.dropWhile inRun).head?, inRun char = false := by
  intro char member
  have stop := List.head?_dropWhile_not inRun text
  rw [Option.mem_def.mp member] at stop
  exact stop

/-- There is a decimal part only if a digit stands behind a point. -/
theorem decimals_eq_nil_iff (text : List Char) :
    decimals text = [] ↔
      ∀ later, text = '.' :: later →
        ∀ char ∈ later.head?, char.isDigit = false := by
  cases text with
  | nil => simp [decimals]
  | cons first later =>
      cases later with
      | nil => simp [decimals]
      | cons next later =>
          by_cases digit : next.isDigit = true <;>
            simp [decimals, digit]

/-- A decimal part is a point and digits, and no digit stands behind it. -/
theorem decimals_cases (text : List Char) :
    decimals text = [] ∨
      ∃ digits rest, text = '.' :: (digits ++ rest) ∧
        decimals text = '.' :: digits ∧ digits ≠ [] ∧
        (∀ char ∈ digits, char.isDigit = true) ∧
        ∀ char ∈ rest.head?, char.isDigit = false := by
  cases text with
  | nil => exact Or.inl rfl
  | cons first later =>
      rw [decimals]
      split
      case isFalse => exact Or.inl rfl
      case isTrue point =>
        refine Or.inr ⟨later.takeWhile Char.isDigit,
          later.dropWhile Char.isDigit, ?_, rfl, point.2, ?_, ?_⟩
        · rw [List.takeWhile_append_dropWhile, point.1]
        · intro char member
          exact List.mem_takeWhile_imp member
        · exact dropWhile_stop _ _

/-! ## The grammar -/

/-- Characters that form a symbol, alone or with the next one. -/
def isSymbolChar (char : Char) : Bool :=
  (Delimiter.ofMark? char).isNone && char != '#' && !isSeparator char &&
    !isWordChar char

/-- Two characters that are read together although each could stand alone. -/
def joins (first next : Char) : Bool :=
  first == '-' && next == '-' || first == '/' && next == '*' ||
    longSymbols.contains (first, next)

/--
A lexeme of the grammar with a text behind it that does not change how the
lexeme is read.
-/
inductive Lexeme.StandsBefore : Lexeme → List Char → Prop
  /-- A literal ends behind a mark that is not doubled. -/
  | literal {delimiter : Delimiter} {pieces : List Literal.Piece}
      {rest : List Char}
      (allowed : ∀ piece ∈ pieces, piece.Allowed delimiter)
      (stop : rest.head? ≠ some delimiter.mark) :
      StandsBefore
        ⟨.literal delimiter true, delimiter.mark ::
          (Literal.written delimiter pieces ++ [delimiter.mark])⟩
        rest
  /-- An open literal reaches to the end of the text. -/
  | openLiteral {delimiter : Delimiter} {body : List Char}
      (unclosed : (cutLiteral delimiter body).closed = false) :
      StandsBefore ⟨.literal delimiter false, delimiter.mark :: body⟩ []
  /-- A line comment ends in front of a line feed. -/
  | lineComment {first : Char} {body rest : List Char}
      (opening : first = '#' ∨ first = '-' ∧ body.head? = some '-')
      (line : ∀ char ∈ body, char ≠ '\n')
      (stop : ∀ char ∈ rest.head?, char = '\n') :
      StandsBefore ⟨.lineComment, first :: body⟩ rest
  /-- A block comment ends behind its first star and slash. -/
  | blockComment {content rest : List Char}
      (inside : ¬['*', '/'] <:+: content) :
      StandsBefore
        ⟨.blockComment true, '/' :: '*' :: (content ++ ['*', '/'])⟩ rest
  /-- An open block comment reaches to the end of the text. -/
  | openComment {body : List Char}
      (inside : ¬['*', '/'] <:+: body) :
      StandsBefore ⟨.blockComment false, '/' :: '*' :: body⟩ []
  /-- A blank takes all separators that follow one another. -/
  | blank {first : Char} {body rest : List Char}
      (run : ∀ char ∈ first :: body, isSeparator char = true)
      (stop : ∀ char ∈ rest.head?, isSeparator char = false) :
      StandsBefore ⟨.blank, first :: body⟩ rest
  /-- A word takes all word characters that follow one another. -/
  | word {first : Char} {body rest : List Char}
      (run : ∀ char ∈ first :: body, isWordChar char = true)
      (stop : ∀ char ∈ rest.head?, isWordChar char = false)
      (whole : first.isDigit = true → decimals rest = []) :
      StandsBefore ⟨.word, first :: body⟩ rest
  /-- A number may have a decimal part, which takes all digits. -/
  | decimal {first : Char} {body digits rest : List Char}
      (start : first.isDigit = true)
      (run : ∀ char ∈ first :: body, isWordChar char = true)
      (fraction : digits ≠ [])
      (numeric : ∀ char ∈ digits, char.isDigit = true)
      (stop : ∀ char ∈ rest.head?, char.isDigit = false) :
      StandsBefore ⟨.word, first :: (body ++ '.' :: digits)⟩ rest
  /-- A symbol of one character is not joined with the next one. -/
  | symbol {first : Char} {rest : List Char}
      (start : isSymbolChar first = true)
      (alone : ∀ next ∈ rest.head?, joins first next = false) :
      StandsBefore ⟨.symbol, [first]⟩ rest
  /-- A symbol of two characters is never prolonged. -/
  | longSymbol {first second : Char} {rest : List Char}
      (listed : (first, second) ∈ longSymbols) :
      StandsBefore ⟨.symbol, [first, second]⟩ rest

/-! ## Classes of first characters -/

/-- A character outside a class that holds no mark is no mark. -/
theorem ofMark?_eq_none_of_class
    {inClass : Char → Bool}
    (marks : ∀ delimiter : Delimiter, inClass delimiter.mark = false)
    {char : Char}
    (member : inClass char = true) :
    Delimiter.ofMark? char = none := by
  cases found : Delimiter.ofMark? char with
  | none => rfl
  | some delimiter =>
      rw [Delimiter.ofMark?_eq_some_iff] at found
      simp [found, marks] at member

theorem isSeparator_mark (delimiter : Delimiter) :
    isSeparator delimiter.mark = false := by
  cases delimiter <;> decide

theorem isWordChar_mark (delimiter : Delimiter) :
    isWordChar delimiter.mark = false := by
  cases delimiter <;> decide

/-- A separator opens neither a comment nor a word. -/
theorem ne_of_isSeparator
    {char : Char}
    (separator : isSeparator char = true) :
    char ≠ '#' ∧ char ≠ '-' ∧ char ≠ '/' := by
  refine ⟨?_, ?_, ?_⟩ <;> (rintro rfl; revert separator; decide)

/-- A word character opens no comment and separates nothing. -/
theorem ne_of_isWordChar
    {char : Char}
    (word : isWordChar char = true) :
    (char ≠ '#' ∧ char ≠ '-' ∧ char ≠ '/') ∧ isSeparator char = false := by
  refine ⟨⟨?_, ?_, ?_⟩, ?_⟩
  · rintro rfl; revert word; decide
  · rintro rfl; revert word; decide
  · rintro rfl; revert word; decide
  · have apart :
        ∀ blank ∈ [' ', '\t', '\n', '\x0c', '\r'],
          isWordChar blank = false :=
      List.all_iff_forall_prop.mp (by decide)
    cases separator : isSeparator char with
    | false => rfl
    | true =>
        have outside := apart char (by simpa [isSeparator] using separator)
        simp [outside] at word

/-- The first character of a long symbol forms symbols and opens no comment. -/
theorem isSymbolChar_of_mem_longSymbols
    {first second : Char}
    (listed : (first, second) ∈ longSymbols) :
    isSymbolChar first = true ∧ first ≠ '/' ∧ second ≠ '-' := by
  have starts :
      ∀ pair ∈ longSymbols,
        isSymbolChar pair.1 = true ∧ pair.1 ≠ '/' ∧ pair.2 ≠ '-' := by
    decide
  exact starts (first, second) listed

/-! ## The scanner and the grammar -/

/-- The word at the start of a text is a word of the grammar. -/
theorem standsBefore_leadingWord
    {first : Char}
    (word : isWordChar first = true)
    (rest : List Char) :
    Lexeme.StandsBefore ⟨.word, leadingWord (first :: rest)⟩
      ((first :: rest).drop (leadingWord (first :: rest)).length) := by
  have run :
      ∀ char ∈ first :: rest.takeWhile isWordChar, isWordChar char = true := by
    intro char member
    rcases List.mem_cons.mp member with rfl | member
    · exact word
    · exact List.mem_takeWhile_imp member
  have stop := dropWhile_stop isWordChar rest
  have parts :
      first :: rest =
        (first :: rest.takeWhile isWordChar) ++ rest.dropWhile isWordChar := by
    simp
  rw [leadingWord, List.takeWhile_cons_of_pos word,
    List.dropWhile_cons_of_pos word]
  by_cases digit : first.isDigit = true
  · simp only [List.head?_cons, Option.map_some, digit, Option.getD_some,
      if_true]
    rcases decimals_cases (rest.dropWhile isWordChar) with
      none | ⟨digits, later, behind, found, fraction, numeric, ended⟩
    · rw [none, List.append_nil, parts, List.drop_left]
      exact .word run stop fun _ => none
    · have whole :
          first :: rest =
            (first :: rest.takeWhile isWordChar ++ '.' :: digits) ++ later := by
        rw [parts, behind]
        simp
      rw [found, whole, List.drop_left]
      exact .decimal digit run fraction numeric ended
  · simp only [List.head?_cons, Option.map_some, digit, Option.getD_some,
      Bool.false_eq_true, if_false]
    rw [parts, List.drop_left]
    exact .word run stop fun isDigit => absurd isDigit digit

/-- The symbol at the start of a text is a symbol of the grammar. -/
theorem standsBefore_symbol
    {first : Char} {rest : List Char}
    (start : isSymbolChar first = true)
    (noOpening : ∀ next ∈ rest.head?,
      ¬(first = '-' ∧ next = '-') ∧ ¬(first = '/' ∧ next = '*')) :
    Lexeme.StandsBefore
      ⟨.symbol, (first :: rest).take (symbolLength first rest)⟩
      ((first :: rest).drop (symbolLength first rest)) := by
  cases rest with
  | nil =>
      have length : symbolLength first [] = 1 := rfl
      rw [length]
      exact .symbol start (by simp)
  | cons next rest =>
      by_cases listed : (first, next) ∈ longSymbols
      · have length : symbolLength first (next :: rest) = 2 := by
          simp [symbolLength, listed]
        rw [length]
        exact .longSymbol listed
      · have length : symbolLength first (next :: rest) = 1 := by
          simp [symbolLength, listed]
        rw [length]
        refine .symbol start ?_
        intro other member
        obtain rfl : next = other := by simpa using member
        have apart := noOpening next (by simp)
        simpa [joins, listed] using apart

/-- What the scanner takes is a lexeme of the grammar before what it leaves. -/
theorem standsBefore_scan (first : Char) (rest : List Char) :
    (scan first rest).lexeme.StandsBefore (scan first rest).rest := by
  unfold scan
  split
  case h_1 delimiter opening =>
    rw [Delimiter.ofMark?_eq_some_iff] at opening
    subst opening
    have ends := literalCut_cutLiteral delimiter rest
    generalize shape : cutLiteral delimiter rest = cut at ends
    cases ends with
    | closed allowed stop => exact .literal allowed stop
    | unclosed => exact .openLiteral (by rw [shape])
  case h_2 noMark =>
    split
    case isTrue opening =>
      refine .lineComment ?_ ?_ ?_
      · rcases opening with hash | ⟨dash, second⟩
        · exact Or.inl hash
        · refine Or.inr ⟨dash, ?_⟩
          rw [List.head?_takeWhile, second]
          rfl
      · intro char member
        simpa using List.mem_takeWhile_imp member
      · intro char member
        simpa using dropWhile_stop (· != '\n') rest char member
    case isFalse noLine =>
      split
      case isTrue opening =>
        have ends := commentCut_cutComment rest.tail
        generalize rest.tail = behind at ends
        generalize cutComment behind = cut at ends
        cases ends with
        | closed inside => exact .blockComment inside
        | unclosed inside => exact .openComment inside
      case isFalse noBlock =>
        split
        case isTrue separator =>
          refine .blank ?_ (dropWhile_stop _ _)
          intro char member
          rcases List.mem_cons.mp member with rfl | member
          · exact separator
          · exact List.mem_takeWhile_imp member
        case isFalse noSeparator =>
          split
          case isTrue word => exact standsBefore_leadingWord word rest
          case isFalse noWord =>
            have start : isSymbolChar first = true := by
              simp only [not_or] at noLine
              simp [isSymbolChar, noMark, noLine.1, noSeparator, noWord]
            have noOpening :
                ∀ next ∈ rest.head?,
                  ¬(first = '-' ∧ next = '-') ∧ ¬(first = '/' ∧ next = '*') := by
              intro next member
              rw [Option.mem_def] at member
              simp only [not_or, member, Option.some.injEq] at noLine noBlock
              exact ⟨noLine.2, noBlock⟩
            exact standsBefore_symbol start noOpening

/-- The scanner on a text that starts with a mark. -/
theorem scan_mark (delimiter : Delimiter) (rest : List Char) :
    scan delimiter.mark rest =
      ⟨⟨.literal delimiter (cutLiteral delimiter rest).closed,
          delimiter.mark :: (cutLiteral delimiter rest).taken⟩,
        (cutLiteral delimiter rest).rest⟩ := by
  simp [scan]

/-- The scanner on a text that starts with a slash and a star. -/
theorem scan_blockComment (rest : List Char) :
    scan '/' ('*' :: rest) =
      ⟨⟨.blockComment (cutComment rest).closed,
          '/' :: '*' :: (cutComment rest).taken⟩,
        (cutComment rest).rest⟩ := by
  have noMark : Delimiter.ofMark? '/' = none := by decide
  simp [scan, noMark]

/-- The scanner on a text that starts with a symbol. -/
theorem scan_symbol
    {first : Char} {rest : List Char}
    (start : isSymbolChar first = true)
    (noOpening : ∀ next ∈ rest.head?,
      ¬(first = '-' ∧ next = '-') ∧ ¬(first = '/' ∧ next = '*')) :
    scan first rest =
      ⟨⟨.symbol, (first :: rest).take (symbolLength first rest)⟩,
        (first :: rest).drop (symbolLength first rest)⟩ := by
  simp only [isSymbolChar, Bool.and_eq_true, Option.isNone_iff_eq_none,
    bne_iff_ne, Bool.not_eq_true'] at start
  obtain ⟨⟨⟨noMark, noHash⟩, noSeparator⟩, noWord⟩ := start
  have noLine : ¬(first = '-' ∧ rest.head? = some '-') := by
    rintro ⟨dash, second⟩
    exact (noOpening '-' second).1 ⟨dash, rfl⟩
  have noBlock : ¬(first = '/' ∧ rest.head? = some '*') := by
    rintro ⟨slash, star⟩
    exact (noOpening '*' star).2 ⟨slash, rfl⟩
  simp [scan, noMark, noHash, noLine, noBlock, noSeparator, noWord]

/-- The scanner on a text that starts with a word. -/
theorem scan_word
    {first : Char} {rest : List Char}
    (word : isWordChar first = true) :
    scan first rest =
      ⟨⟨.word, leadingWord (first :: rest)⟩,
        (first :: rest).drop (leadingWord (first :: rest)).length⟩ := by
  obtain ⟨⟨noHash, noDash, noSlash⟩, noSeparator⟩ := ne_of_isWordChar word
  have noMark := ofMark?_eq_none_of_class isWordChar_mark word
  simp [scan, noMark, noHash, noDash, noSlash, noSeparator, word]

/-- A run of word characters is read as one word. -/
theorem leadingWord_run
    {first : Char} {body rest : List Char}
    (run : ∀ char ∈ first :: body, isWordChar char = true)
    (stop : ∀ char ∈ rest.head?, isWordChar char = false)
    (whole : first.isDigit = true → decimals rest = []) :
    leadingWord (first :: body ++ rest) = first :: body := by
  have cut := takeWhile_run run stop
  rw [leadingWord, cut.1, cut.2]
  by_cases digit : first.isDigit = true
  · simp [digit, whole digit]
  · simp [digit]

/-- A number with a decimal part is read as one word. -/
theorem leadingWord_decimal
    {first : Char} {body digits rest : List Char}
    (start : first.isDigit = true)
    (run : ∀ char ∈ first :: body, isWordChar char = true)
    (fraction : digits ≠ [])
    (numeric : ∀ char ∈ digits, char.isDigit = true)
    (stop : ∀ char ∈ rest.head?, char.isDigit = false) :
    leadingWord (first :: (body ++ '.' :: digits) ++ rest) =
      first :: (body ++ '.' :: digits) := by
  have point :
      ∀ char ∈ ('.' :: (digits ++ rest)).head?, isWordChar char = false := by
    intro char member
    obtain rfl : '.' = char := by simpa using member
    decide
  have cut := takeWhile_run run point
  have decimalPart : decimals ('.' :: (digits ++ rest)) = '.' :: digits := by
    simp [decimals, takeWhile_run numeric stop, fraction]
  have regrouped :
      first :: (body ++ '.' :: digits) ++ rest =
        first :: body ++ '.' :: (digits ++ rest) := by
    simp
  rw [regrouped, leadingWord, cut.1, cut.2, decimalPart]
  simp [start]

/-- The scanner takes whatever the grammar allows. -/
theorem scan_of_standsBefore
    {lexeme : Lexeme} {rest : List Char}
    (stands : lexeme.StandsBefore rest) :
    ∃ first body, lexeme.text = first :: body ∧
      scan first (body ++ rest) = ⟨lexeme, rest⟩ := by
  cases stands with
  | @literal delimiter pieces _ allowed stop =>
      refine ⟨_, _, rfl, ?_⟩
      rw [List.append_assoc, List.singleton_append, scan_mark,
        cutLiteral_written allowed stop]
  | @openLiteral delimiter body unclosed =>
      refine ⟨_, _, rfl, ?_⟩
      have ends := literalCut_cutLiteral delimiter body
      rw [List.append_nil, scan_mark]
      generalize cutLiteral delimiter body = cut at ends unclosed
      cases ends with
      | closed => cases unclosed
      | unclosed => rfl
  | @lineComment first body _ opening line stop =>
      refine ⟨_, _, rfl, ?_⟩
      have inside : ∀ char ∈ body, (char != '\n') = true := by
        simpa using line
      have ended : ∀ char ∈ rest.head?, (char != '\n') = false := by
        simpa using stop
      have cut := takeWhile_run inside ended
      have opened :
          first = '#' ∨ first = '-' ∧ (body ++ rest).head? = some '-' := by
        rcases opening with hash | ⟨dash, second⟩
        · exact Or.inl hash
        · exact Or.inr ⟨dash, by simp [List.head?_append, second]⟩
      have noMark : Delimiter.ofMark? first = none := by
        rcases opening with rfl | ⟨rfl, -⟩ <;> decide
      simp only [scan, noMark, opened, if_true, cut]
  | @blockComment content _ inside =>
      refine ⟨_, _, rfl, ?_⟩
      rw [List.cons_append, List.append_assoc, scan_blockComment]
      simp [cutComment_append_close inside]
  | @openComment body inside =>
      refine ⟨_, _, rfl, ?_⟩
      have ends := commentCut_cutComment body
      rw [List.append_nil, scan_blockComment]
      generalize cutComment body = cut at ends
      cases ends with
      | @closed content rest _ =>
          exact absurd ⟨content, rest, by simp⟩ inside
      | unclosed => rfl
  | @blank first body _ run stop =>
      refine ⟨_, _, rfl, ?_⟩
      have separator := run first List.mem_cons_self
      have cut := takeWhile_run
        (fun char member => run char (List.mem_cons_of_mem _ member)) stop
      obtain ⟨noHash, noDash, noSlash⟩ := ne_of_isSeparator separator
      have noMark := ofMark?_eq_none_of_class isSeparator_mark separator
      simp [scan, noMark, noHash, noDash, noSlash, separator, cut]
  | @word first body _ run stop whole =>
      refine ⟨_, _, rfl, ?_⟩
      rw [scan_word (run first List.mem_cons_self), ← List.cons_append,
        leadingWord_run run stop whole, List.drop_left]
  | @decimal first body digits _ start run fraction numeric stop =>
      refine ⟨_, _, rfl, ?_⟩
      rw [scan_word (run first List.mem_cons_self), ← List.cons_append,
        leadingWord_decimal start run fraction numeric stop, List.drop_left]
  | @symbol first _ start alone =>
      refine ⟨_, _, rfl, ?_⟩
      have apart : ∀ next ∈ rest.head?,
          ¬(first = '-' ∧ next = '-') ∧ ¬(first = '/' ∧ next = '*') := by
        intro next member
        have separate := alone next member
        simp only [joins, Bool.or_eq_false_iff] at separate
        simpa using separate.1
      have length : symbolLength first rest = 1 := by
        cases rest with
        | nil => rfl
        | cons next rest =>
            have separate := alone next (by simp)
            simp only [joins, Bool.or_eq_false_iff] at separate
            simpa [symbolLength] using separate.2
      rw [List.nil_append, scan_symbol start apart, length]
      rfl
  | @longSymbol first second _ listed =>
      refine ⟨_, _, rfl, ?_⟩
      obtain ⟨start, noSlash, noDash⟩ := isSymbolChar_of_mem_longSymbols listed
      have apart : ∀ next ∈ ([second] ++ rest).head?,
          ¬(first = '-' ∧ next = '-') ∧ ¬(first = '/' ∧ next = '*') := by
        intro next member
        obtain rfl : second = next := by simpa using member
        simp [noSlash, noDash]
      have length : symbolLength first ([second] ++ rest) = 2 := by
        simp [symbolLength, listed]
      rw [scan_symbol start apart, length]
      rfl

end SqlCatalog
