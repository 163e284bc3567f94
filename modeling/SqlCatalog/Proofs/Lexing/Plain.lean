import Mathlib.Data.List.Chain
import SqlCatalog.Pattern
import SqlCatalog.Proofs.Lexing.Class
import SqlCatalog.Proofs.Token.Spacing
import SqlCatalog.Token.Quoting

/-!
# Plain token sequences

A sequence of tokens need not be what its text is read as: two words side by
side are read as one, and so are two blanks.  A sequence is plain if it is
made of bare words, single blanks, punctuation and quoted values, and if
blanks or punctuation keep the words and quoted values apart.

A plain sequence is what its text is read as, and it is its own canonical
form.
-/

namespace SqlCatalog

/-- The punctuation of definitions. -/
def punctuation : List Token :=
  ["(", ")", ",", "=", ";"]

/-- Tokens that a definition is made of. -/
inductive Token.IsPlain : Token → Prop
  | blank : IsPlain blank
  | punctuation {token : Token} (listed : token ∈ punctuation) : IsPlain token
  | word {token : Token}
      (spelled : Alphabet.optionValue.spells token = true) : IsPlain token
  | quote {delimiter : Delimiter} {value : String}
      (readable : delimiter.escapes = true → '\\' ∉ value.toList) :
      IsPlain (quote delimiter value)

/-- Two tokens that are still told apart when nothing stands between them. -/
def Token.adjoins (token next : Token) : Prop :=
  if token = blank then next ≠ blank
  else token ∈ SqlCatalog.punctuation ∨ next = blank ∨
    next ∈ SqlCatalog.punctuation

instance : DecidableRel Token.adjoins := fun token next =>
  inferInstanceAs (Decidable (if token = Token.blank then next ≠ Token.blank
    else token ∈ punctuation ∨ next = Token.blank ∨ next ∈ punctuation))

/-! ## Plain tokens as lexemes -/

theorem double_eq_written
    {delimiter : Delimiter} {text : List Char}
    (readable : delimiter.escapes = true → '\\' ∉ text) :
    ∃ pieces : List Literal.Piece,
      (∀ piece ∈ pieces, piece.Allowed delimiter) ∧
        double delimiter.mark text = Literal.written delimiter pieces := by
  induction text with
  | nil => exact ⟨[], by simp, rfl⟩
  | cons char text hypothesis =>
      have later : delimiter.escapes = true → '\\' ∉ text := by
        intro escapes member
        exact readable escapes (List.mem_cons_of_mem char member)
      rcases hypothesis later with ⟨pieces, allowed, written⟩
      by_cases mark : char = delimiter.mark
      · refine ⟨.doubled :: pieces, ?_, ?_⟩
        · intro piece member
          rcases List.mem_cons.mp member with rfl | member
          · trivial
          · exact allowed piece member
        · simp [double, mark, written, Literal.written_cons,
            Literal.Piece.written]
      · refine ⟨.plain char :: pieces, ?_, ?_⟩
        · intro piece member
          rcases List.mem_cons.mp member with rfl | member
          · refine ⟨mark, ?_⟩
            rintro escapes rfl
            exact readable escapes List.mem_cons_self
          · exact allowed piece member
        · simp [double, mark, written, Literal.written_cons,
            Literal.Piece.written]

theorem Alphabet.isWordChar_of_allows
    {alphabet : Alphabet} {char : Char}
    (allowed : alphabet.allows char = true) :
    isWordChar char = true := by
  have letter : char.isAlpha = (char.isUpper || char.isLower) := rfl
  simp only [allows, isWordChar, Char.isAlphanum, letter, Bool.or_eq_true,
    Bool.and_eq_true] at allowed ⊢
  rcases allowed with ((upper | digit) | underscore) | ⟨-, dollar⟩
  · exact Or.inl (Or.inl (Or.inl (Or.inl (Or.inl upper))))
  · exact Or.inl (Or.inl (Or.inl (Or.inr digit)))
  · exact Or.inl (Or.inl (Or.inr underscore))
  · exact Or.inl (Or.inr dollar)

/-- The characters of a name, which are all word characters. -/
theorem Alphabet.chars_of_spells
    {alphabet : Alphabet} {token : Token}
    (spelled : alphabet.spells token = true) :
    ∃ first body, token.toList = first :: body ∧
      ∀ char ∈ first :: body, alphabet.allows char = true := by
  simp only [spells, Bool.and_eq_true, List.all_eq_true] at spelled
  rcases text : token.toList with - | ⟨first, body⟩
  · simp [text] at spelled
  · exact ⟨first, body, rfl, by simpa [text] using spelled.2⟩

theorem Alphabet.toNat_lt_of_allows
    {alphabet : Alphabet} {char : Char}
    (allowed : alphabet.allows char = true) :
    char.toNat < 128 := by
  have capital :
      char.isUpper = decide ('A'.val ≤ char.val ∧ char.val ≤ 'Z'.val) := rfl
  simp only [allows, capital, Char.isDigit, Bool.or_eq_true,
    Bool.and_eq_true, decide_eq_true_eq, beq_iff_eq] at allowed
  rcases allowed with ((upper | digit) | rfl) | ⟨-, rfl⟩
  · have bound : char.val.toNat ≤ 90 := UInt32.le_iff_toNat_le.mp upper.2
    exact Nat.lt_of_le_of_lt bound (by decide)
  · have bound : char.val.toNat ≤ 57 := UInt32.le_iff_toNat_le.mp digit.2
    exact Nat.lt_of_le_of_lt bound (by decide)
  · decide
  · decide

/-- The characters of names are in upper case and are not White_Space. -/
theorem Alphabet.upperChar_of_allows
    {alphabet : Alphabet} {char : Char}
    (allowed : alphabet.allows char = true) :
    Unicode.upperChar char = [char] ∧ Unicode.isWhiteSpace char = false := by
  have ascii := Alphabet.toNat_lt_of_allows allowed
  revert allowed
  refine of_toNat_lt ?_ char ascii
  cases alphabet <;> decide +kernel

@[simp]
theorem Token.toList_quote (delimiter : Delimiter) (value : String) :
    (Token.quote delimiter value).toList =
      delimiter.mark ::
        (double delimiter.mark value.toList ++ [delimiter.mark]) := by
  simp [Token.quote]

/-- The characters at which words and quoted values end. -/
def boundary : List Char :=
  [' ', '(', ')', ',', '=', ';']

theorem not_isWordChar_of_mem_boundary :
    ∀ char ∈ boundary, isWordChar char = false ∧ char ≠ '.' :=
  List.all_iff_forall_prop.mp (by decide)

theorem mark_not_mem_boundary (delimiter : Delimiter) :
    delimiter.mark ∉ boundary := by
  cases delimiter <;> decide

theorem head?_mem_boundary
    {token : Token}
    (gap : token = Token.blank ∨ token ∈ punctuation) :
    ∃ first ∈ token.toList.head?, first ∈ boundary := by
  have each :
      ∀ mark ∈ Token.blank :: punctuation,
        mark.toList.head?.any boundary.contains = true := by
    decide
  obtain ⟨first, head, listed⟩ :=
    (Option.any_eq_true _ _).mp (each token (List.mem_cons.mpr gap))
  exact ⟨first, head, List.contains_iff_mem.mp listed⟩

theorem toList_of_mem_punctuation :
    ∀ token ∈ punctuation, ∃ first, token.toList = [first] ∧
      isSymbolChar first = true ∧ ∀ next, joins first next = false := by
  have chars :
      ∀ token ∈ punctuation,
        ['(', ')', ',', '=', ';'].any (token.toList == [·]) = true := by
    decide
  intro token listed
  rcases List.any_eq_true.mp (chars token listed) with ⟨first, member, text⟩
  refine ⟨first, beq_iff_eq.mp text, ?_⟩
  simp only [List.mem_cons, List.not_mem_nil, or_false] at member
  rcases member with rfl | rfl | rfl | rfl | rfl <;>
    exact ⟨by decide, by simp [joins, longSymbols]⟩

/-- A name is neither the blank nor punctuation. -/
theorem Alphabet.ne_of_spells
    {alphabet : Alphabet} {token : Token}
    (spelled : alphabet.spells token = true) :
    token ≠ Token.blank ∧ token ∉ punctuation := by
  have refused :
      ∀ mark ∈ Token.blank :: punctuation, alphabet.spells mark = false := by
    cases alphabet <;> decide
  have outside : token ∉ Token.blank :: punctuation := by
    intro listed
    rw [refused token listed] at spelled
    cases spelled
  rwa [List.mem_cons, not_or] at outside

namespace Token.IsPlain

/-- Only a blank starts with a separator. -/
theorem head?_of_ne_blank
    {token : Token}
    (plain : token.IsPlain)
    (other : token ≠ Token.blank) :
    ∃ first ∈ token.toList.head?, isSeparator first = false := by
  cases plain with
  | blank => exact absurd rfl other
  | punctuation listed =>
      have each :
          ∀ mark ∈ SqlCatalog.punctuation,
            (mark.toList.head?.any fun first => !isSeparator first) = true := by
        decide
      obtain ⟨first, head, other⟩ :=
        (Option.any_eq_true _ _).mp (each token listed)
      exact ⟨first, head, by simpa using other⟩
  | word spelled =>
      rcases Alphabet.chars_of_spells spelled with ⟨first, body, text, inside⟩
      have word := Alphabet.isWordChar_of_allows (inside first List.mem_cons_self)
      exact ⟨first, by simp [text], (ne_of_isWordChar word).2⟩
  | @quote delimiter value =>
      exact ⟨delimiter.mark, by simp, isSeparator_mark delimiter⟩

/--
A plain token in front of a text: the text is over, or it goes on with a
character that the token does not take.
-/
theorem standsBefore
    {token : Token}
    (plain : token.IsPlain)
    {rest : List Char}
    (gap : token = Token.blank →
      ∀ char ∈ rest.head?, isSeparator char = false)
    (solid : token ≠ Token.blank → token ∉ SqlCatalog.punctuation →
      ∀ char ∈ rest.head?, char ∈ boundary) :
    ∃ kind, Lexeme.isOpen ⟨kind, token.toList⟩ = false ∧
      Lexeme.StandsBefore ⟨kind, token.toList⟩ rest := by
  cases plain with
  | blank =>
      have run : ∀ char ∈ [' '], isSeparator char = true := by simp [isSeparator]
      exact ⟨.blank, rfl, .blank run (gap rfl)⟩
  | punctuation listed =>
      rcases toList_of_mem_punctuation token listed with ⟨first, text, start, alone⟩
      rw [text]
      exact ⟨.symbol, rfl, .symbol start fun next _ => alone next⟩
  | word spelled =>
      rcases Alphabet.chars_of_spells spelled with ⟨first, body, text, inside⟩
      have apart :
          ∀ char ∈ rest.head?, isWordChar char = false ∧ char ≠ '.' := by
        intro char next
        apply not_isWordChar_of_mem_boundary
        apply solid _ _ char next
        · exact (Alphabet.ne_of_spells spelled).1
        · exact (Alphabet.ne_of_spells spelled).2
      rw [text]
      refine ⟨.word, rfl, .word ?_ ?_ ?_⟩
      · intro char member
        exact Alphabet.isWordChar_of_allows (inside char member)
      · intro char next
        exact (apart char next).1
      · intro _
        rw [decimals_eq_nil_iff]
        rintro later rfl
        exact absurd rfl (apart '.' rfl).2
  | @quote delimiter value readable =>
      rcases double_eq_written readable with ⟨pieces, allowed, written⟩
      rw [Token.toList_quote, written]
      refine ⟨.literal delimiter true, rfl, .literal allowed ?_⟩
      intro mark
      apply mark_not_mem_boundary delimiter
      apply solid _ _ delimiter.mark mark
      · exact ne_of_isQuoted (Token.isQuoted_quote delimiter value) (by decide)
      · intro listed
        have bare : ∀ mark ∈ SqlCatalog.punctuation, mark.isQuoted = false := by
          decide
        exact ne_of_isQuoted (Token.isQuoted_quote delimiter value) (bare _ listed) rfl

/-- A plain token in front of a text that starts as a token told apart from it. -/
theorem standsBefore_of_adjoins
    {token : Token}
    (plain : token.IsPlain)
    {rest : List Char}
    (next : ∀ char ∈ rest.head?, ∃ next : Token,
      token.adjoins next ∧ next.IsPlain ∧ char ∈ next.toList.head?) :
    ∃ kind, Lexeme.isOpen ⟨kind, token.toList⟩ = false ∧
      Lexeme.StandsBefore ⟨kind, token.toList⟩ rest := by
  apply plain.standsBefore
  · intro blank char first
    rcases next char first with ⟨next, adjoins, nextPlain, start⟩
    rw [Token.adjoins, if_pos blank] at adjoins
    rcases nextPlain.head?_of_ne_blank adjoins with ⟨other, same, separator⟩
    rwa [Option.mem_unique start same]
  · intro other noMark char first
    rcases next char first with ⟨next, adjoins, nextPlain, start⟩
    rw [Token.adjoins, if_neg other] at adjoins
    rcases head?_mem_boundary (adjoins.resolve_left noMark) with
      ⟨another, same, member⟩
    rwa [Option.mem_unique start same]

/-- A plain token is its own canonical form. -/
theorem canonical_eq_self
    {token : Token}
    (plain : token.IsPlain) :
    token.canonical = token := by
  have fixed :
      ∀ mark ∈ Token.blank :: SqlCatalog.punctuation, mark.canonical = mark := by
    decide
  cases plain with
  | blank => exact fixed Token.blank List.mem_cons_self
  | punctuation listed => exact fixed token (List.mem_cons_of_mem _ listed)
  | word spelled =>
      rcases Alphabet.chars_of_spells spelled with ⟨first, body, text, inside⟩
      have stands : Lexeme.StandsBefore ⟨.word, token.toList⟩ [] := by
        rw [text]
        refine .word ?_ (by simp) (by simp [decimals])
        intro char member
        exact Alphabet.isWordChar_of_allows (inside char member)
      have itself : Lexeme.token ⟨.word, token.toList⟩ = token := by
        simp [Lexeme.token]
      have unquoted := stands.isQuoted_token
      have noComment := stands.isComment_token
      rw [itself] at unquoted noComment
      have noBlank : token.isBlank = false := by
        have first := Alphabet.upperChar_of_allows (inside first List.mem_cons_self)
        simp [Token.isBlank, text, first.2]
      have upper : Unicode.upper token.toList = token.toList := by
        rw [text]
        apply Unicode.upper_eq_self
        intro char member
        exact (Alphabet.upperChar_of_allows (inside char member)).1
      rw [Token.canonical, unquoted, noComment, noBlank]
      simp [Token.upper, upper, Lexeme.Kind.isLiteral, Lexeme.Kind.isComment]
  | quote readable => simp [Token.canonical]

end Token.IsPlain

/-! ## Plain sequences -/

/-- Plain tokens that are told apart. -/
structure IsPlainSequence (tokens : List Token) : Prop where
  /-- All tokens are plain. -/
  plain : ∀ token ∈ tokens, token.IsPlain
  /-- Neighbours are told apart. -/
  chain : tokens.IsChain Token.adjoins

theorem IsPlainSequence.exists_reads
    {tokens : List Token}
    (sequence : IsPlainSequence tokens) :
    ∃ read : List Lexeme, read.map Lexeme.token = tokens ∧
      Reads read [] ∧ ∀ lexeme ∈ read, lexeme.isOpen = false := by
  rcases sequence with ⟨plain, chain⟩
  induction tokens with
  | nil => exact ⟨[], rfl, reads_nil [], by simp⟩
  | cons token tokens hypothesis =>
      rw [List.isChain_cons] at chain
      rcases chain with ⟨apart, chain⟩
      rcases hypothesis
          (fun other member => plain other (List.mem_cons_of_mem token member))
          chain with
        ⟨read, shown, reads, closed⟩
      -- Only the first character of the next token matters to this one.
      have next (char : Char) (first : char ∈ (spelling read ++ []).head?) :
          ∃ next, token.adjoins next ∧ next.IsPlain ∧
            char ∈ next.toList.head? := by
        cases read with
        | nil => simp at first
        | cons lexeme later =>
            rcases List.exists_cons_of_ne_nil reads.1.text_ne_nil with
              ⟨start, body, text⟩
            subst shown
            refine ⟨lexeme.token, apart _ rfl, plain _ (by simp), ?_⟩
            simpa [text, Lexeme.token] using first
      obtain ⟨kind, shut, stands⟩ :=
        (plain token List.mem_cons_self).standsBefore_of_adjoins next
      refine ⟨⟨kind, token.toList⟩ :: read, ?_, ⟨stands, reads⟩, ?_⟩
      · simp [Lexeme.token, shown]
      · intro lexeme member
        rcases List.mem_cons.mp member with rfl | member
        · exact shut
        · exact closed lexeme member

/-- A plain sequence is what its text is read as. -/
theorem IsPlainSequence.tokenize_join
    {tokens : List Token}
    (sequence : IsPlainSequence tokens) :
    tokenize (String.join tokens) = ⟨tokens, none⟩ := by
  rcases sequence.exists_reads with ⟨read, rfl, reads, closed⟩
  rw [tokenize_join_of_reads reads, (lastFault?_eq_none_iff 0 read).mpr closed]

/-- A plain sequence is its own canonical form. -/
theorem IsPlainSequence.normalize_eq_self
    {tokens : List Token}
    (sequence : IsPlainSequence tokens) :
    Token.normalize 0 tokens = tokens := by
  have canonical : tokens.map Token.canonical = tokens := by
    have each : tokens.map Token.canonical = tokens.map id := by
      apply List.map_congr_left
      intro token member
      exact (sequence.plain token member).canonical_eq_self
    rw [each, List.map_id]
  have spaced : Token.IsSpaced tokens := by
    refine sequence.chain.imp ?_
    intro token next adjoins blank
    rwa [Token.adjoins, if_pos blank] at adjoins
  rw [Token.normalize_zero, canonical, spaced.squeeze_eq_self]

/-! ## Putting sequences together -/

theorem isPlainSequence_nil : IsPlainSequence [] where
  plain token member := by cases member
  chain := .nil

theorem isPlainSequence_append_iff (front back : List Token) :
    IsPlainSequence (front ++ back) ↔
      IsPlainSequence front ∧ IsPlainSequence back ∧
        ∀ last ∈ front.getLast?, ∀ first ∈ back.head?,
          Token.adjoins last first := by
  constructor
  · rintro ⟨plain, chain⟩
    rw [List.isChain_append] at chain
    rw [List.forall_mem_append] at plain
    exact ⟨⟨plain.1, chain.1⟩, ⟨plain.2, chain.2.1⟩, chain.2.2⟩
  · rintro ⟨left, right, seam⟩
    refine ⟨?_, left.chain.append right.chain seam⟩
    rw [List.forall_mem_append]
    exact ⟨left.plain, right.plain⟩

/-- Words, blanks and punctuation, which can be checked one by one. -/
def isPlainKey (token : Token) : Bool :=
  token == Token.blank || punctuation.contains token ||
    Alphabet.optionValue.spells token

theorem isPlainSequence_of_keys
    {tokens : List Token}
    (keys : tokens.all isPlainKey = true)
    (chain : tokens.IsChain Token.adjoins) :
    IsPlainSequence tokens where
  plain token member := by
    have key := List.all_eq_true.mp keys token member
    simp only [isPlainKey, Bool.or_eq_true, beq_iff_eq, List.contains_iff_mem] at key
    rcases key with (rfl | listed) | spelled
    · exact .blank
    · exact .punctuation listed
    · exact .word spelled
  chain := chain

/-- A plain sequence with no blank at either end. -/
structure IsPhrase (tokens : List Token) : Prop extends
    IsPlainSequence tokens where
  filled : tokens ≠ []
  first : tokens.head? ≠ some Token.blank
  last : tokens.getLast? ≠ some Token.blank

/-- A plain sequence that can stand behind any phrase. -/
structure IsTail (tokens : List Token) : Prop extends
    IsPlainSequence tokens where
  start : ∀ token ∈ tokens.head?, token = Token.blank ∨ token ∈ punctuation
  last : tokens.getLast? ≠ some Token.blank

theorem isTail_nil : IsTail [] where
  toIsPlainSequence := isPlainSequence_nil
  start token member := by cases member
  last := by simp

theorem IsTail.adjoins
    {tokens : List Token}
    (tail : IsTail tokens)
    {token : Token}
    (solid : token ≠ Token.blank) :
    ∀ first ∈ tokens.head?, Token.adjoins token first := by
  intro first member
  rw [Token.adjoins, if_neg solid]
  exact Or.inr (tail.start first member)

theorem getLast?_append_ne
    {front back : List Token} {token : Token}
    (left : front.getLast? ≠ some token) (right : back.getLast? ≠ some token) :
    (front ++ back).getLast? ≠ some token := by
  rw [List.getLast?_append]
  cases final : back.getLast? with
  | none => simpa using left
  | some last => simpa [final] using right

theorem IsTail.append
    {front back : List Token}
    (left : IsTail front) (right : IsTail back) :
    IsTail (front ++ back) where
  toIsPlainSequence := by
    rw [isPlainSequence_append_iff]
    refine ⟨left.toIsPlainSequence, right.toIsPlainSequence, ?_⟩
    intro token final
    apply right.adjoins
    rintro rfl
    exact left.last final
  start := by
    cases front with
    | nil => exact right.start
    | cons token front => exact left.start
  last := getLast?_append_ne left.last right.last

theorem IsPhrase.append
    {front back : List Token}
    (phrase : IsPhrase front) (tail : IsTail back) :
    IsPhrase (front ++ back) where
  toIsPlainSequence := by
    rw [isPlainSequence_append_iff]
    refine ⟨phrase.toIsPlainSequence, tail.toIsPlainSequence, ?_⟩
    intro token final
    apply tail.adjoins
    rintro rfl
    exact phrase.last final
  filled := by simp [phrase.filled]
  first := by
    rw [List.head?_append_of_ne_nil _ phrase.filled]
    exact phrase.first
  last := getLast?_append_ne phrase.last tail.last

theorem isPhrase_singleton
    {token : Token}
    (plain : token.IsPlain ∧ token ≠ Token.blank) :
    IsPhrase [token] where
  plain other member := by
    rw [List.mem_singleton.mp member]
    exact plain.1
  chain := .singleton token
  filled := by simp
  first := by simpa using plain.2
  last := by simpa using plain.2

/-- A blank and a phrase can stand behind another phrase. -/
theorem IsPhrase.isTail_blank_cons
    {tokens : List Token}
    (phrase : IsPhrase tokens) :
    IsTail (Token.blank :: tokens) where
  toIsPlainSequence := by
    refine ⟨?_, ?_⟩
    · rw [List.forall_mem_cons]
      exact ⟨.blank, phrase.plain⟩
    · rw [List.isChain_cons]
      refine ⟨?_, phrase.chain⟩
      intro first next
      rw [Token.adjoins, if_pos rfl]
      rintro rfl
      exact phrase.first next
  start first next := by
    exact Or.inl (by simpa using next.symm)
  last := by
    rw [← List.singleton_append, List.getLast?_append_of_ne_nil _ phrase.filled]
    exact phrase.last

/-- Phrases can be joined by punctuation, with or without a blank behind it. -/
theorem IsPhrase.intercalate
    {separator : List Token}
    (listed : separator.headD Token.blank ∈ punctuation)
    (plain : IsPlainSequence separator)
    (ends : ∀ last ∈ separator.getLast?, last = Token.blank ∨ last ∈ punctuation)
    {parts : List (List Token)}
    (filled : parts ≠ [])
    (each : ∀ part ∈ parts, IsPhrase part) :
    IsPhrase (separator.intercalate parts) := by
  rcases separator with - | ⟨mark, blanks⟩
  · exact absurd listed (by decide)
  induction parts with
  | nil => exact absurd rfl filled
  | cons part later hypothesis =>
      have first := each part List.mem_cons_self
      cases later with
      | nil => rwa [List.intercalate_singleton]
      | cons next later =>
          have others :=
            hypothesis (List.cons_ne_nil next later)
              fun other member => each other (List.mem_cons_of_mem part member)
          rw [List.intercalate_cons_cons, List.append_assoc]
          have joined :
              IsPlainSequence
                (mark :: blanks ++ (mark :: blanks).intercalate (next :: later)) := by
            rw [isPlainSequence_append_iff]
            refine ⟨plain, others.toIsPlainSequence, ?_⟩
            intro token final start first
            rcases ends token final with rfl | punctuated
            · rw [Token.adjoins, if_pos rfl]
              rintro rfl
              exact others.first first
            · have solid : token ≠ Token.blank := by
                rintro rfl
                exact absurd punctuated (by decide)
              rw [Token.adjoins, if_neg solid]
              exact Or.inl punctuated
          apply first.append
          refine ⟨joined, ?_, ?_⟩
          · intro token start
            obtain rfl : mark = token := by simpa using start
            exact Or.inr listed
          · rw [List.getLast?_append_of_ne_nil _ others.filled]
            exact others.last

/-- A phrase has no blanks to be trimmed. -/
theorem IsPhrase.trim_eq_self
    {tokens : List Token}
    (phrase : IsPhrase tokens) :
    Token.trim tokens = tokens := by
  have start : Token.trimStart tokens = tokens := by
    rcases tokens with - | ⟨token, rest⟩
    · rfl
    · have solid : token ≠ Token.blank := by simpa using phrase.first
      rw [Token.trimStart, if_neg solid]
  rw [Token.trim, start, Token.trimEnd, if_neg phrase.last]

end SqlCatalog
