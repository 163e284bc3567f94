import Mathlib.Data.List.Forall2
import SqlCatalog.Proofs.Lexing.Class

/-!
# Letter case and the grammar

The grammar does not tell the two cases of a letter apart.  A lexeme that is
no literal can be written in other letter case, whatever follows it can be,
and what it is stays the same.  So texts that differ in letter case outside of
literals are cut at the same places, their tokens are of the same classes, and
in canonical form they are the same.

Only the letters of ASCII count: other letters have two cases as well, but
these may differ in length, and no keyword is written with them.
-/

namespace SqlCatalog

/-! ## What does not depend on letter case -/

/-- The two cases of a letter look alike. -/
def IgnoresCase {View : Type} (view : Char → View) : Prop :=
  ∀ char, view char.toUpper = view char

theorem toUpper_of_le {char : Char} (wide : 0x80 ≤ char.toNat) :
    char.toUpper = char := by
  have above : ¬('a'.val ≤ char.val ∧ char.val ≤ 'z'.val) := by
    rintro ⟨-, below⟩
    have bound : char.toNat ≤ 'z'.toNat := below
    have last : 'z'.toNat < 0x80 := by decide
    omega
  exact dif_neg above

/-- A view can be tried on the characters of ASCII. -/
theorem ignoresCase_of_ascii
    {View : Type} {view : Char → View}
    (each : ∀ code < 0x80,
      view (Char.ofNat code).toUpper = view (Char.ofNat code)) :
    IgnoresCase view := by
  intro char
  by_cases ascii : char.toNat < 0x80
  · exact of_toNat_lt each char ascii
  · rw [toUpper_of_le (Nat.not_lt.mp ascii)]

/-- Upper-casing changes letters only, and into letters. -/
theorem toUpper_cases (char : Char) :
    char.toUpper = char ∨
      char.isAlpha = true ∧ char.toUpper.isAlpha = true := by
  by_cases ascii : char.toNat < 0x80
  · exact of_toNat_lt (by decide) char ascii
  · exact Or.inl (toUpper_of_le (Nat.not_lt.mp ascii))

/-- A class that holds no letters does not depend on their case. -/
theorem ignoresCase_of_noLetters
    {inClass : Char → Bool}
    (noLetters : ∀ char, char.isAlpha = true → inClass char = false) :
    IgnoresCase inClass := by
  intro char
  rcases toUpper_cases char with same | ⟨letter, capital⟩
  · rw [same]
  · rw [noLetters _ letter, noLetters _ capital]

theorem ignoresCase_isDigit : IgnoresCase Char.isDigit :=
  ignoresCase_of_ascii (by decide)

theorem ignoresCase_isSeparator : IgnoresCase isSeparator :=
  ignoresCase_of_ascii (by decide)

theorem ignoresCase_isWordChar : IgnoresCase isWordChar :=
  ignoresCase_of_ascii (by decide)

theorem ignoresCase_isWhiteSpace : IgnoresCase Unicode.isWhiteSpace :=
  ignoresCase_of_ascii (by decide)

theorem ignoresCase_utf8Size : IgnoresCase Char.utf8Size :=
  ignoresCase_of_ascii (by decide)

theorem ignoresCase_upperChar : IgnoresCase Unicode.upperChar :=
  ignoresCase_of_ascii (by decide)

theorem ignoresCase_beq {sign : Char} (noLetter : sign.isAlpha = false) :
    IgnoresCase (· == sign) := by
  refine ignoresCase_of_noLetters ?_
  intro char letter
  rw [beq_eq_false_iff_ne]
  rintro rfl
  rw [letter] at noLetter
  cases noLetter

/-- Words take all letters, so none is left for symbols. -/
theorem isAlpha_of_isSymbolChar
    {char : Char}
    (symbol : isSymbolChar char = true) :
    char.isAlpha = false := by
  simp only [isSymbolChar, isWordChar, Char.isAlphanum, Bool.and_eq_true,
    Bool.not_eq_true', Bool.or_eq_false_iff] at symbol
  exact symbol.2.1.1.1.1

theorem isAlpha_of_mem_longSymbols
    {first second : Char}
    (listed : (first, second) ∈ longSymbols) :
    first.isAlpha = false ∧ second.isAlpha = false := by
  have signs :
      ∀ pair ∈ longSymbols,
        pair.1.isAlpha = false ∧ pair.2.isAlpha = false := by
    decide
  exact signs (first, second) listed

theorem ignoresCase_joins (first : Char) : IgnoresCase (joins first) := by
  refine ignoresCase_of_noLetters ?_
  intro next letter
  cases joined : joins first next with
  | false => rfl
  | true =>
      simp only [joins, Bool.or_eq_true, Bool.and_eq_true, beq_iff_eq,
        List.contains_iff_mem] at joined
      rcases joined with (⟨-, rfl⟩ | ⟨-, rfl⟩) | listed
      · cases letter
      · cases letter
      · rw [(isAlpha_of_mem_longSymbols listed).2] at letter
        cases letter

/-! ## Texts in other letter case -/

/-- The texts differ at most in the case of letters. -/
def SameLetters (left right : List Char) : Prop :=
  left.map Char.toUpper = right.map Char.toUpper

/-- A character that is no letter has only one case. -/
theorem eq_of_toUpper_eq
    {sign char : Char}
    (noLetter : sign.isAlpha = false)
    (same : sign.toUpper = char.toUpper) :
    char = sign := by
  have found := ignoresCase_beq noLetter char
  rw [← same, ignoresCase_beq noLetter sign] at found
  simpa using found

namespace SameLetters

variable {left right : List Char}

theorem symm (same : SameLetters left right) : SameLetters right left :=
  Eq.symm same

theorem nil (same : SameLetters [] right) : right = [] :=
  List.map_eq_nil_iff.mp same.symm

theorem cons
    {char : Char}
    (same : SameLetters (char :: left) right) :
    ∃ other later, right = other :: later ∧ char.toUpper = other.toUpper ∧
      SameLetters left later := by
  obtain ⟨other, later, rfl, first, behind⟩ := List.map_eq_cons_iff.mp same.symm
  exact ⟨other, later, rfl, first.symm, behind.symm⟩

/-- Behind a character that is no letter the texts go on. -/
theorem sign
    {char : Char}
    (same : SameLetters (char :: left) right)
    (noLetter : char.isAlpha = false) :
    ∃ later, right = char :: later ∧ SameLetters left later := by
  obtain ⟨other, later, rfl, first, behind⟩ := same.cons
  rw [eq_of_toUpper_eq noLetter first]
  exact ⟨later, rfl, behind⟩

theorem append
    {front back : List Char}
    (same : SameLetters (front ++ back) right) :
    ∃ start later, right = start ++ later ∧ SameLetters front start ∧
      SameLetters back later := by
  rw [SameLetters, List.map_append] at same
  obtain ⟨start, later, rfl, first, behind⟩ :=
    List.map_eq_append_iff.mp same.symm
  exact ⟨start, later, rfl, first.symm, behind.symm⟩

/-- What ignores letter case is the same of both texts. -/
theorem map_eq
    (same : SameLetters left right)
    {View : Type} {view : Char → View}
    (ignores : IgnoresCase view) :
    left.map view = right.map view := by
  have upper : view ∘ Char.toUpper = view := funext ignores
  rw [← upper, ← List.map_map, same, List.map_map]

theorem all
    (same : SameLetters left right)
    {inClass : Char → Bool}
    (ignores : IgnoresCase inClass)
    {value : Bool}
    (each : ∀ char ∈ left, inClass char = value) :
    ∀ char ∈ right, inClass char = value := by
  intro char member
  have image : inClass char ∈ left.map inClass := by
    rw [same.map_eq ignores]
    exact List.mem_map_of_mem member
  obtain ⟨other, inside, found⟩ := List.mem_map.mp image
  rw [← found, each other inside]

theorem head
    (same : SameLetters left right)
    {inClass : Char → Bool}
    (ignores : IgnoresCase inClass)
    {value : Bool}
    (each : ∀ char ∈ left.head?, inClass char = value) :
    ∀ char ∈ right.head?, inClass char = value := by
  have first : SameLetters left.head?.toList right.head?.toList := by
    cases left with
    | nil => rw [same.nil]; rfl
    | cons char left =>
        obtain ⟨other, later, rfl, alike, -⟩ := same.cons
        simp [SameLetters, alike]
  simpa using first.all ignores (by simpa using each)

/-- Letter case does not hide the closing of a comment. -/
theorem not_close
    (same : SameLetters left right)
    (inside : ¬['*', '/'] <:+: left) :
    ¬['*', '/'] <:+: right := by
  rintro ⟨front, back, rfl⟩
  obtain ⟨start, later, rfl, first, -⟩ := append same.symm
  obtain ⟨before, closing, rfl, -, close⟩ := append first
  obtain ⟨behind, rfl, slash⟩ := sign close (by decide)
  obtain ⟨nothing, rfl, none⟩ := sign slash (by decide)
  rw [none.nil] at inside
  exact inside ⟨before, later, rfl⟩

theorem byteLength_eq (same : SameLetters left right) :
    byteLength left = byteLength right := by
  have sum : ∀ text : List Char,
      byteLength text = (text.map Char.utf8Size).sum := by
    intro text
    induction text with
    | nil => rfl
    | cons char text hypothesis => simp [hypothesis]
  rw [sum, sum, same.map_eq ignoresCase_utf8Size]

theorem upper_eq (same : SameLetters left right) :
    Unicode.upper left = Unicode.upper right := by
  rw [Unicode.upper, Unicode.upper, List.flatMap_def, List.flatMap_def,
    same.map_eq ignoresCase_upperChar]

/-- A number has a decimal part in both texts or in none. -/
theorem decimals_eq_nil
    (same : SameLetters left right)
    (whole : decimals left = []) :
    decimals right = [] := by
  rw [decimals_eq_nil_iff] at whole ⊢
  rintro later rfl
  obtain ⟨behind, rfl, digits⟩ := sign same.symm (by decide)
  exact digits.symm.head ignoresCase_isDigit (whole behind rfl)

end SameLetters

/-! ## Lexemes in other letter case -/

namespace Lexeme

/-- Lexemes of one class that differ in letter case, but not as literals. -/
structure Alike (left right : Lexeme) : Prop where
  /-- The class is the same. -/
  kind : left.kind = right.kind
  /-- The letters are the same up to their case. -/
  letters : SameLetters left.text right.text
  /-- The text of a literal is the same. -/
  literal : left.kind.isLiteral = true → left.text = right.text

/--
Other letter case in a lexeme that is no literal, and in what follows, leaves
the lexeme what it is.  There is one case for each rule of the grammar: marks
and signs stay as they are, and runs stay within their class.
-/
theorem StandsBefore.of_alike
    {left right : Lexeme} {rest later : List Char}
    (stands : left.StandsBefore rest)
    (alike : left.Alike right)
    (behind : SameLetters rest later) :
    right.StandsBefore later := by
  rcases left with ⟨kind, original⟩
  rcases right with ⟨_, text⟩
  obtain ⟨rfl, letters, literal⟩ := alike
  change SameLetters original text at letters
  cases stands with
  | @literal delimiter pieces _ allowed stop =>
      cases literal rfl
      refine .literal allowed ?_
      have noLetter : delimiter.mark.isAlpha = false := by
        cases delimiter <;> decide
      have apart : ∀ char ∈ rest.head?, (char == delimiter.mark) = false := by
        intro char found
        rw [beq_eq_false_iff_ne]
        rintro rfl
        exact stop found
      have ended := behind.head (ignoresCase_beq noLetter) apart
      intro found
      simpa using ended _ found
  | openLiteral unclosed =>
      cases literal rfl
      cases behind.nil
      exact .openLiteral unclosed
  | lineComment opening line stop =>
      obtain ⟨first, body, rfl, start, inner⟩ := letters.cons
      have lineFeed : IgnoresCase (· == '\n') := ignoresCase_beq (by decide)
      have inside : ∀ char ∈ body, (char == '\n') = false :=
        inner.all lineFeed (by simpa using line)
      have ended : ∀ char ∈ later.head?, (char == '\n') = true :=
        behind.head lineFeed (by simpa using stop)
      refine .lineComment ?_ (by simpa using inside) (by simpa using ended)
      rcases opening with rfl | ⟨rfl, second⟩
      · exact Or.inl (eq_of_toUpper_eq (by decide) start)
      · refine Or.inr ⟨eq_of_toUpper_eq (by decide) start, ?_⟩
        obtain ⟨tail, rfl⟩ := List.head?_eq_some_iff.mp second
        obtain ⟨tail, rfl, -⟩ := inner.sign (by decide)
        rfl
  | blockComment inside =>
      obtain ⟨text, rfl, starred⟩ := letters.sign (by decide)
      obtain ⟨text, rfl, inner⟩ := starred.sign (by decide)
      obtain ⟨content, closing, rfl, body, close⟩ := inner.append
      obtain ⟨text, rfl, slash⟩ := close.sign (by decide)
      obtain ⟨text, rfl, nothing⟩ := slash.sign (by decide)
      cases nothing.nil
      exact .blockComment (body.not_close inside)
  | openComment inside =>
      obtain ⟨text, rfl, starred⟩ := letters.sign (by decide)
      obtain ⟨text, rfl, inner⟩ := starred.sign (by decide)
      cases behind.nil
      exact .openComment (inner.not_close inside)
  | blank run stop =>
      have separators := letters.all ignoresCase_isSeparator run
      obtain ⟨first, body, rfl, -⟩ := letters.cons
      exact .blank separators (behind.head ignoresCase_isSeparator stop)
  | word run stop whole =>
      have characters := letters.all ignoresCase_isWordChar run
      obtain ⟨first, body, rfl, start, -⟩ := letters.cons
      refine .word characters (behind.head ignoresCase_isWordChar stop) ?_
      intro digit
      rw [← ignoresCase_isDigit, ← start, ignoresCase_isDigit] at digit
      exact behind.decimals_eq_nil (whole digit)
  | @decimal initial _ _ _ digit run fraction numeric stop =>
      obtain ⟨first, text, rfl, start, inner⟩ := letters.cons
      obtain ⟨body, text, rfl, front, point⟩ := inner.append
      obtain ⟨digits, rfl, back⟩ := point.sign (by decide)
      have word : SameLetters (initial :: _) (first :: body) :=
        congrArg₂ List.cons start front
      rw [← ignoresCase_isDigit, start, ignoresCase_isDigit] at digit
      refine .decimal digit (word.all ignoresCase_isWordChar run) ?_
        (back.all ignoresCase_isDigit numeric)
        (behind.head ignoresCase_isDigit stop)
      rintro rfl
      exact fraction (SameLetters.nil back.symm)
  | @symbol initial _ start alone =>
      have noLetter := isAlpha_of_isSymbolChar start
      obtain ⟨text, rfl, nothing⟩ := letters.sign noLetter
      cases nothing.nil
      exact .symbol start (behind.head (ignoresCase_joins initial) alone)
  | longSymbol listed =>
      have noLetters := isAlpha_of_mem_longSymbols listed
      obtain ⟨text, rfl, second⟩ := letters.sign noLetters.1
      obtain ⟨text, rfl, nothing⟩ := second.sign noLetters.2
      cases nothing.nil
      exact .longSymbol listed

/-- The canonical form does not depend on letter case. -/
theorem StandsBefore.canonical_of_alike
    {left right : Lexeme} {rest : List Char}
    (stands : left.StandsBefore rest)
    (alike : left.Alike right) :
    left.token.canonical = right.token.canonical := by
  have again := stands.of_alike alike rfl
  cases literal : left.kind.isLiteral with
  | true =>
      rw [token, alike.literal literal]
      rfl
  | false =>
      have blank : left.token.isBlank = right.token.isBlank := by
        have white := alike.letters.map_eq ignoresCase_isWhiteSpace
        have filled := congrArg List.isEmpty white
        have all := congrArg (List.all · id) white
        simp only [List.isEmpty_map, List.all_map, Function.id_comp] at filled all
        simp [Token.isBlank, token, filled, all]
      have upper : left.token.upper = right.token.upper := by
        simp [Token.upper, token, alike.letters.upper_eq]
      rw [Token.canonical, Token.canonical, stands.isQuoted_token,
        again.isQuoted_token, stands.isComment_token, again.isComment_token,
        alike.kind, blank, upper, ← alike.kind, literal]
      rfl

end Lexeme

/-! ## Sequences of lexemes in other letter case -/

section Sequences

variable {front back : List Lexeme}

theorem spelling_of_alike (alike : List.Forall₂ Lexeme.Alike front back) :
    SameLetters (spelling front) (spelling back) := by
  induction alike with
  | nil => rfl
  | cons first _ hypothesis =>
      simp only [SameLetters, spelling_cons, List.map_append]
      exact congrArg₂ _ first.letters hypothesis

theorem reads_of_alike
    (reads : Reads front [])
    (alike : List.Forall₂ Lexeme.Alike front back) :
    Reads back [] := by
  induction alike with
  | nil => exact reads
  | cons first later hypothesis =>
      obtain ⟨stands, behind⟩ := reads
      rw [List.append_nil] at stands
      refine ⟨?_, hypothesis behind⟩
      rw [List.append_nil]
      exact stands.of_alike first (spelling_of_alike later)

theorem canonical_of_alike
    (reads : Reads front [])
    (alike : List.Forall₂ Lexeme.Alike front back) :
    front.map (fun lexeme => lexeme.token.canonical) =
      back.map fun lexeme => lexeme.token.canonical := by
  induction alike with
  | nil => rfl
  | cons first later hypothesis =>
      obtain ⟨stands, behind⟩ := reads
      rw [List.map_cons, List.map_cons, stands.canonical_of_alike first,
        hypothesis behind]

theorem lastFault?_of_alike
    (alike : List.Forall₂ Lexeme.Alike front back)
    (position : Nat) :
    Lexeme.lastFault? position front = Lexeme.lastFault? position back := by
  induction alike generalizing position with
  | nil => rfl
  | cons first later hypothesis =>
      rw [Lexeme.lastFault?, Lexeme.lastFault?, hypothesis,
        first.letters.byteLength_eq, Lexeme.fault?, Lexeme.fault?, first.kind]

end Sequences

end SqlCatalog
