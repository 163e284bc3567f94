import SqlCatalog.Proofs.Lexing.Class

/-!
# Symbols in canonical form

The later stages look for symbols such as semicolons and parentheses among the
canonical tokens.  Upper-casing could have made them up: it maps characters
far outside of ASCII, some of them to ASCII.  It does not, since the upper
case of a word character consists of word characters.  So a symbol among the
canonical tokens was a symbol of the text.
-/

namespace SqlCatalog

/-! ## Upper case of words -/

/-- The capital letters of ASCII and all characters outside of ASCII. -/
def isWordCode (code : Nat) : Bool :=
  0x41 ≤ code && code ≤ 0x5A || 0x80 ≤ code && code < 0xD800 ||
    0xE000 ≤ code && code < 0x110000

theorem toNat_ofNat_of_isWordCode
    {code : Nat}
    (word : isWordCode code = true) :
    (Char.ofNat code).toNat = code := by
  simp only [isWordCode, Bool.or_eq_true, Bool.and_eq_true,
    decide_eq_true_eq] at word
  have valid : code.isValidChar := by
    unfold Nat.isValidChar
    omega
  rw [Char.ofNat, dif_pos valid]
  rfl

theorem isWordChar_ofNat
    {code : Nat}
    (word : isWordCode code = true) :
    isWordChar (Char.ofNat code) = true := by
  have number := toNat_ofNat_of_isWordCode word
  simp only [isWordCode, Bool.or_eq_true, Bool.and_eq_true,
    decide_eq_true_eq] at word
  rcases word with (letter | wide) | wide
  · have capital :
        ∀ code < 128, 0x41 ≤ code ∧ code ≤ 0x5A →
          isWordChar (Char.ofNat code) = true := by
      decide
    exact capital code (by omega) letter
  · simp [isWordChar, number, wide.1]
  · have high : 0x80 ≤ code := by omega
    simp [isWordChar, number, high]

/-- A code point is a member of a run, a letter of its own, or its own image. -/
theorem Unicode.upperCodes_cases (code : Nat) :
    (∃ run ∈ caseRuns, run.contains code = true ∧
      upperCodes code = [run.image code]) ∨
    (∃ entry ∈ caseExpansions, entry.1 = code ∧
      upperCodes code = entry.2) ∨
    upperCodes code = [code] := by
  unfold upperCodes
  split
  case h_1 run found =>
    refine Or.inl ⟨run, List.mem_of_find?_eq_some found, ?_, rfl⟩
    simpa using List.find?_some found
  case h_2 =>
    cases found : caseExpansions.lookup code with
    | some codes =>
        obtain ⟨before, behind, parts, -⟩ := List.lookup_eq_some_iff.mp found
        have listed : (code, codes) ∈ caseExpansions := by
          simp [parts]
        exact Or.inr (Or.inl ⟨_, listed, rfl, rfl⟩)
    | none => exact Or.inr (Or.inr rfl)

/-- The members of a run are mapped to a range of word characters. -/
theorem isWordCode_image
    {run : Unicode.CaseRun} {code : Nat}
    (listed : run ∈ Unicode.caseRuns)
    (member : run.contains code = true) :
    isWordCode (run.image code) = true := by
  have ranges :
      ∀ run ∈ Unicode.caseRuns,
        run.first = run.last ∧ 0x41 ≤ run.target ∧ run.target ≤ 0x5A ∨
          0x80 ≤ run.target ∧ run.target + (run.last - run.first) < 0xD800 ∨
          0xE000 ≤ run.target ∧
            run.target + (run.last - run.first) < 0x110000 := by
    decide +kernel
  have range := ranges run listed
  simp only [Unicode.CaseRun.contains, Bool.and_eq_true,
    decide_eq_true_eq] at member
  rw [Unicode.CaseRun.image]
  simp only [isWordCode, Bool.or_eq_true, Bool.and_eq_true, decide_eq_true_eq]
  omega

theorem isWordCode_expansion :
    ∀ entry ∈ Unicode.caseExpansions,
      entry.2 ≠ [] ∧ ∀ code ∈ entry.2, isWordCode code = true := by
  decide +kernel

/-- The upper case of a word character is a word and is not empty. -/
theorem isWordChar_upperChar
    {char : Char}
    (word : isWordChar char = true) :
    Unicode.upperChar char ≠ [] ∧
      ∀ image ∈ Unicode.upperChar char, isWordChar image = true := by
  by_cases ascii : char.toNat < 0x80
  · have capital : isWordChar char = true → isWordChar char.toUpper = true :=
      of_toNat_lt (by decide) char ascii
    simp [Unicode.upperChar, ascii, capital word]
  · have codes :
        Unicode.upperCodes char.toNat ≠ [] ∧
          ∀ code ∈ Unicode.upperCodes char.toNat, isWordCode code = true := by
      rcases Unicode.upperCodes_cases char.toNat with
        ⟨run, listed, member, images⟩ | ⟨entry, listed, -, images⟩ | itself
      · rw [images]
        simpa using isWordCode_image listed member
      · rw [images]
        exact isWordCode_expansion entry listed
      · have valid : char.toNat.isValidChar := char.valid
        unfold Nat.isValidChar at valid
        have word : isWordCode char.toNat = true := by
          simp only [isWordCode, Bool.or_eq_true, Bool.and_eq_true,
            decide_eq_true_eq]
          omega
        rw [itself]
        simpa using word
    rw [Unicode.upperChar, if_neg ascii]
    refine ⟨by simpa using codes.1, ?_⟩
    intro image member
    obtain ⟨code, listed, rfl⟩ := List.mem_map.mp member
    exact isWordChar_ofNat (codes.2 code listed)

/-- No character vanishes in upper case. -/
theorem Unicode.upperChar_ne_nil (char : Char) : upperChar char ≠ [] := by
  by_cases ascii : char.toNat < 0x80
  · rw [upperChar, if_pos ascii]
    exact List.cons_ne_nil _ _
  · have word : isWordChar char = true := by
      simp [isWordChar, Nat.not_lt.mp ascii]
    exact (isWordChar_upperChar word).1

/-! ## Symbols -/

/-- Characters of symbols are their own upper case. -/
theorem upperChar_of_isSymbolChar
    {char : Char}
    (symbol : isSymbolChar char = true) :
    Unicode.upperChar char = [char] := by
  have ascii : char.toNat < 128 := by
    have noWord : isWordChar char = false := by
      simp only [isSymbolChar, Bool.and_eq_true, Bool.not_eq_true'] at symbol
      exact symbol.2
    simp only [isWordChar, Bool.or_eq_false_iff, decide_eq_false_iff_not] at noWord
    exact Nat.not_le.mp noWord.2
  revert symbol
  exact of_toNat_lt (by decide) char ascii

/-- The upper case of a word does not start with a character of symbols. -/
theorem upper_ne_symbol
    {first char : Char}
    (word : isWordChar first = true)
    (symbol : isSymbolChar char = true)
    (body : List Char) :
    Unicode.upper (first :: body) ≠ [char] := by
  obtain ⟨filled, images⟩ := isWordChar_upperChar word
  obtain ⟨image, more, upper⟩ := List.exists_cons_of_ne_nil filled
  have wordImage := images image (by simp [upper])
  rw [Unicode.upper_cons, upper]
  intro same
  injection same with sameImage _
  simp [isSymbolChar, ← sameImage, wordImage] at symbol

/-- A symbol among the canonical tokens was that symbol in the text. -/
theorem Lexeme.StandsBefore.token_of_canonical
    {lexeme : Lexeme} {rest : List Char} {char : Char}
    (stands : lexeme.StandsBefore rest)
    (symbol : isSymbolChar char = true)
    (canonical : lexeme.token.canonical = String.singleton char) :
    lexeme.token = String.singleton char := by
  have solid : lexeme.token.canonical ≠ Token.blank := by
    rw [canonical]
    intro same
    obtain rfl : char = ' ' := by
      simpa [Token.blank] using congrArg String.toList same
    exact absurd symbol (by decide)
  have gap := stands.not_gap solid
  cases quoted : lexeme.token.isQuoted with
  | true => rwa [Token.canonical, if_pos quoted] at canonical
  | false =>
      rw [Token.canonical_eq_upper quoted solid] at canonical
      have upper : Unicode.upper lexeme.text = [char] := by
        simpa [Token.upper, Lexeme.token] using congrArg String.toList canonical
      rw [stands.isQuoted_token] at quoted
      cases stands with
      | literal => cases quoted
      | openLiteral => cases quoted
      | lineComment => exact absurd (Or.inr rfl) gap
      | blockComment => exact absurd (Or.inr rfl) gap
      | openComment => exact absurd (Or.inr rfl) gap
      | blank => exact absurd (Or.inl rfl) gap
      | word run =>
          exact absurd upper
            (upper_ne_symbol (run _ List.mem_cons_self) symbol _)
      | decimal _ run =>
          exact absurd upper
            (upper_ne_symbol (run _ List.mem_cons_self) symbol _)
      | symbol start =>
          rw [Unicode.upper_cons, upperChar_of_isSymbolChar start] at upper
          injection upper with same _
          rw [same]
          rfl
      | @longSymbol first second _ listed =>
          have long :
              ∀ pair ∈ longSymbols,
                (Unicode.upper [pair.1, pair.2]).length = 2 := by
            decide
          have length := long (first, second) listed
          simp [upper] at length

/-- Exactly the semicolons of a text are semicolons in canonical form. -/
theorem Lexeme.StandsBefore.canonical_eq_semicolon_iff
    {lexeme : Lexeme} {rest : List Char}
    (stands : lexeme.StandsBefore rest) :
    lexeme.token.canonical = ";" ↔ lexeme.token = ";" := by
  constructor
  · exact stands.token_of_canonical (by decide : isSymbolChar ';' = true)
  · intro token
    rw [token]
    decide

end SqlCatalog
