import SqlCatalog.Proofs.Extraction.Canonical
import SqlCatalog.Proofs.Lexing.LetterCase

/-!
# Extractions and letter case

Keywords, types and names without quotes are read in any letter case.  Two
texts that differ in the case of letters outside of quoted tokens have the
same extraction, with all diagnostics and the positions that these tell.

The difference is stated character by character, given the characters that the
quoted tokens of the first text take.  Cut by the lexemes of the first text,
the second one falls into lexemes that are alike.
-/

namespace SqlCatalog

/-! ## Texts that differ in letter case -/

/-- The characters of a text, and whether a quoted token takes them. -/
def quotedCharacters (sql : String) : List (Char × Bool) :=
  (tokenize sql).tokens.flatMap fun token =>
    token.toList.map fun char => (char, token.isQuoted)

/--
The characters are the same, or they are the two cases of a letter of ASCII
that stands in no quoted token.
-/
def SameOutsideQuotes (character : Char × Bool) (char : Char) : Prop :=
  character.1 = char ∨
    character.2 = false ∧ character.1.toUpper = char.toUpper

instance (character : Char × Bool) (char : Char) :
    Decidable (SameOutsideQuotes character char) :=
  inferInstanceAs (Decidable (_ ∨ _))

/--
The texts are of one length and differ at most in the case of letters, and
only outside of the quoted tokens of the first one.
-/
def DifferInCase (left right : String) : Prop :=
  List.Forall₂ SameOutsideQuotes (quotedCharacters left) right.toList

instance (left right : String) : Decidable (DifferInCase left right) :=
  inferInstanceAs (Decidable (List.Forall₂ _ _ _))

/-! ## Lexemes of both texts -/

theorem forall₂_append_left
    {Left Right : Type} {related : Left → Right → Prop}
    {front back : List Left} {whole : List Right}
    (pairs : List.Forall₂ related (front ++ back) whole) :
    ∃ start later, whole = start ++ later ∧
      List.Forall₂ related front start ∧ List.Forall₂ related back later := by
  have flipped : List.Forall₂ (flip related) whole (front ++ back) := pairs.flip
  exact ⟨_, _, (List.take_append_drop front.length whole).symm,
    (List.forall₂_take_append _ _ _ flipped).flip,
    (List.forall₂_drop_append _ _ _ flipped).flip⟩

/-- What takes the place of a lexeme is a lexeme like it. -/
theorem Lexeme.alike_of_forall₂
    {lexeme : Lexeme} {text : List Char}
    (quoted : lexeme.token.isQuoted = lexeme.kind.isLiteral)
    (same : List.Forall₂ SameOutsideQuotes
      (lexeme.text.map fun char => (char, lexeme.token.isQuoted)) text) :
    lexeme.Alike ⟨lexeme.kind, text⟩ := by
  rw [List.forall₂_map_left_iff, quoted] at same
  refine ⟨rfl, ?_, ?_⟩
  · rw [SameLetters, ← List.forall₂_eq_eq_eq, List.forall₂_map_left_iff,
      List.forall₂_map_right_iff]
    refine same.imp ?_
    rintro first second (equal | ⟨-, letter⟩)
    · exact congrArg Char.toUpper equal
    · exact letter
  · intro literal
    rw [← List.forall₂_eq_eq_eq]
    refine same.imp ?_
    rintro first second (equal | ⟨outside, -⟩)
    · exact equal
    · rw [literal] at outside
      cases outside

/-- The second text falls into lexemes that are like those of the first. -/
theorem exists_alike
    {sequence : List Lexeme} {text : List Char}
    (quoted : ∀ lexeme ∈ sequence,
      lexeme.token.isQuoted = lexeme.kind.isLiteral)
    (same : List.Forall₂ SameOutsideQuotes
      (sequence.flatMap fun lexeme =>
        lexeme.text.map fun char => (char, lexeme.token.isQuoted)) text) :
    ∃ others, text = spelling others ∧
      List.Forall₂ Lexeme.Alike sequence others := by
  induction sequence generalizing text with
  | nil =>
      cases same
      exact ⟨[], rfl, .nil⟩
  | cons lexeme sequence hypothesis =>
      rw [List.flatMap_cons] at same
      obtain ⟨start, behind, rfl, first, later⟩ := forall₂_append_left same
      obtain ⟨others, rfl, alike⟩ := hypothesis
        (fun other member => quoted other (List.mem_cons_of_mem _ member)) later
      have here := quoted lexeme List.mem_cons_self
      exact ⟨⟨lexeme.kind, start⟩ :: others, by simp,
        .cons (Lexeme.alike_of_forall₂ here first) alike⟩

/-- The lexemes of the second text are like those of the first. -/
theorem DifferInCase.lexemes_alike
    {left right : String}
    (differ : DifferInCase left right) :
    List.Forall₂ Lexeme.Alike (lexemes left.toList) (lexemes right.toList) := by
  have reads := reads_lexemes left.toList
  have quoted :
      ∀ lexeme ∈ lexemes left.toList,
        lexeme.token.isQuoted = lexeme.kind.isLiteral := by
    intro lexeme member
    obtain ⟨front, back, parts⟩ := List.append_of_mem member
    rw [parts, reads_append] at reads
    exact reads.2.1.isQuoted_token
  have same :
      List.Forall₂ SameOutsideQuotes
        ((lexemes left.toList).flatMap fun lexeme =>
          lexeme.text.map fun char => (char, lexeme.token.isQuoted))
        right.toList := by
    simpa [DifferInCase, quotedCharacters, List.flatMap_map, Lexeme.token]
      using differ
  obtain ⟨others, text, alike⟩ := exists_alike quoted same
  have again := lexemes_of_reads (reads_of_alike reads alike)
  rw [List.append_nil, lexemes_nil, List.append_nil, ← text] at again
  rwa [again]

/-! ## Whole texts -/

/--
Letter case outside of quoted tokens does not matter: the tables are the same,
and so are the diagnostics with the positions of open tokens.
-/
theorem extract_recased
    (extractor : Extractor) {left right : String}
    (differ : DifferInCase left right) :
    extractor.extract left = extractor.extract right := by
  have alike := differ.lexemes_alike
  have reads := reads_lexemes left.toList
  have canonical : extractor.canonical left = extractor.canonical right := by
    have spelled := canonical_of_alike reads alike
    have counted := alike.length_eq
    simp only [Extractor.canonical, Token.normalize, tokenize_tokens,
      List.length_map, List.map_map, Function.comp_def, spelled, counted]
  rw [extract_eq_ofTokens, extract_eq_ofTokens, canonical, tokenize_fault,
    tokenize_fault, lastFault?_of_alike alike]

/--
Letters differ in keywords, a type, a number, a comment and a name without
quotes, and neither in the names in quotes nor in the open literal.
-/
theorem extract_recased_statement :
    let left :=
      "create Table `Tab` (`Col` int /* note */ default (1e5), `d`); drop x 'Open"
    let right :=
      "CREATE tABLE `Tab` (`Col` INT /* NOTE */ DEFAULT (1E5), `d`); drop X 'Open"
    DifferInCase left right ∧
      (Extractor.mk 10).extract left =
        { tables :=
            [{ name := "Tab"
               columns := [⟨"Col", "INT", "1E5", "", false, false, "", ""⟩] }]
          diagnostics :=
            [⟨.column 0 1, .bareColumnName 1⟩,
              ⟨.statement 1, .unterminated (.literal 69)⟩] } ∧
      (Extractor.mk 10).extract left = (Extractor.mk 10).extract right := by
  intro left right
  have differ : DifferInCase left right := by decide +kernel
  exact ⟨differ, by decide +kernel, extract_recased ⟨10⟩ differ⟩

end SqlCatalog
