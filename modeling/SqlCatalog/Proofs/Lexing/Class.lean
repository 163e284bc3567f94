import SqlCatalog.Proofs.Lexing.Seam
import SqlCatalog.Token.Canonical

/-!
# Classes of tokens and of lexemes

The later stages read the class of a token off its text, while the scanner
knew the class when it took the token.  The two agree: exactly literals are
quoted, exactly comments look like comments, and blanks are blank.  So the
canonical form of a token is a matter of its class.
-/

namespace SqlCatalog

/-- Whether the class is that of literals, closed or not. -/
def Lexeme.Kind.isLiteral : Lexeme.Kind → Bool
  | literal _ _ => true
  | _ => false

/-- Whether the class is one of the two classes of comments. -/
def Lexeme.Kind.isComment : Lexeme.Kind → Bool
  | lineComment => true
  | blockComment _ => true
  | _ => false

/-- The first character tells whether a token is quoted. -/
theorem Lexeme.isQuoted_cons (kind : Kind) (first : Char) (body : List Char) :
    (Lexeme.token ⟨kind, first :: body⟩).isQuoted =
      (Delimiter.ofMark? first).isSome := by
  simp [token, Token.isQuoted, Token.delimiter?]

/-- The first two characters tell whether a token is a comment. -/
theorem Lexeme.isComment_cons (kind : Kind) (first : Char) (body : List Char) :
    (Lexeme.token ⟨kind, first :: body⟩).isComment =
      (first == '#' || first == '-' && body.head? == some '-' ||
        first == '/' && body.head? == some '*') := by
  rw [token, Token.isComment, String.toList_ofList]
  cases body with
  | nil => simp [Token.commentOpenings, List.isPrefixOf, Bool.beq_comm]
  | cons next body =>
      simp [Token.commentOpenings, List.isPrefixOf, Bool.or_assoc,
        Bool.beq_comm]

/-- A character of ASCII has one of the first numbers. -/
@[elab_as_elim]
theorem of_toNat_lt
    {motive : Char → Prop}
    (each : ∀ code < 0x80, motive (Char.ofNat code))
    (char : Char)
    (ascii : char.toNat < 0x80) :
    motive char := by
  have here := each char.toNat ascii
  rwa [Char.ofNat_toNat] at here

/-- The first characters of symbols are neither marks nor hashes. -/
theorem of_isSymbolChar
    {first : Char}
    (start : isSymbolChar first = true) :
    Delimiter.ofMark? first = none ∧ first ≠ '#' := by
  simp only [isSymbolChar, Bool.and_eq_true, Option.isNone_iff_eq_none,
    bne_iff_ne] at start
  exact ⟨start.1.1.1, start.1.1.2⟩

namespace Lexeme.StandsBefore

variable {lexeme : Lexeme} {rest : List Char}

/-- Exactly the literals are quoted tokens. -/
theorem isQuoted_token (stands : lexeme.StandsBefore rest) :
    lexeme.token.isQuoted = lexeme.kind.isLiteral := by
  cases stands with
  | literal => simp [isQuoted_cons, Kind.isLiteral]
  | openLiteral => simp [isQuoted_cons, Kind.isLiteral]
  | lineComment opening =>
      rcases opening with rfl | ⟨rfl, -⟩ <;>
        rw [isQuoted_cons] <;> rfl
  | blockComment =>
      rw [isQuoted_cons]
      rfl
  | openComment =>
      rw [isQuoted_cons]
      rfl
  | blank run =>
      have separator := run _ List.mem_cons_self
      have noMark := ofMark?_eq_none_of_class isSeparator_mark separator
      simp [isQuoted_cons, Kind.isLiteral, noMark]
  | word run =>
      have noMark := ofMark?_eq_none_of_class isWordChar_mark
        (run _ List.mem_cons_self)
      simp [isQuoted_cons, Kind.isLiteral, noMark]
  | decimal _ run =>
      have noMark := ofMark?_eq_none_of_class isWordChar_mark
        (run _ List.mem_cons_self)
      simp [isQuoted_cons, Kind.isLiteral, noMark]
  | symbol start =>
      simp [isQuoted_cons, Kind.isLiteral, of_isSymbolChar start]
  | longSymbol listed =>
      have start := (isSymbolChar_of_mem_longSymbols listed).1
      simp [isQuoted_cons, Kind.isLiteral, of_isSymbolChar start]

/-- Exactly the comments look like comments. -/
theorem isComment_token (stands : lexeme.StandsBefore rest) :
    lexeme.token.isComment = lexeme.kind.isComment := by
  have marks :
      ∀ delimiter : Delimiter, delimiter.mark ≠ '#' ∧ delimiter.mark ≠ '-' ∧
        delimiter.mark ≠ '/' := by
    intro delimiter
    cases delimiter <;> decide
  cases stands with
  | @literal delimiter =>
      simp [isComment_cons, Kind.isComment, marks delimiter]
  | @openLiteral delimiter =>
      simp [isComment_cons, Kind.isComment, marks delimiter]
  | lineComment opening =>
      rcases opening with rfl | ⟨rfl, second⟩
      · simp [isComment_cons, Kind.isComment]
      · simp [isComment_cons, Kind.isComment, second]
  | blockComment => simp [isComment_cons, Kind.isComment]
  | openComment => simp [isComment_cons, Kind.isComment]
  | blank run =>
      have apart := ne_of_isSeparator (run _ List.mem_cons_self)
      simp [isComment_cons, Kind.isComment, apart]
  | word run =>
      have apart := (ne_of_isWordChar (run _ List.mem_cons_self)).1
      simp [isComment_cons, Kind.isComment, apart]
  | decimal _ run =>
      have apart := (ne_of_isWordChar (run _ List.mem_cons_self)).1
      simp [isComment_cons, Kind.isComment, apart]
  | symbol start =>
      simp [isComment_cons, Kind.isComment, of_isSymbolChar start]
  | longSymbol listed =>
      rcases isSymbolChar_of_mem_longSymbols listed with
        ⟨start, noSlash, noDash⟩
      simp [isComment_cons, Kind.isComment,
        of_isSymbolChar start, noSlash, noDash]

/-- A blank consists of White_Space. -/
theorem isBlank_token
    (stands : lexeme.StandsBefore rest)
    (blank : lexeme.kind = .blank) :
    lexeme.token.isBlank = true := by
  cases stands with
  | @blank first body _ run stop =>
      have white :
          ∀ char ∈ [' ', '\t', '\n', '\x0c', '\r'],
            Unicode.isWhiteSpace char = true :=
        List.all_iff_forall_prop.mp (by decide)
      have inside : ∀ char ∈ first :: body, Unicode.isWhiteSpace char = true := by
        intro char member
        exact white char (by simpa [isSeparator] using run char member)
      simpa [token, Token.isBlank] using inside
  | _ => cases blank

/-- Blanks and comments have the canonical blank for their canonical form. -/
theorem canonical_token_of_gap
    (stands : lexeme.StandsBefore rest)
    (gap : lexeme.kind = .blank ∨ lexeme.kind.isComment = true) :
    lexeme.token.canonical = Token.blank := by
  have unquoted : lexeme.token.isQuoted = false := by
    rw [stands.isQuoted_token]
    rcases gap with blank | comment
    · rw [blank]
      rfl
    · cases kind : lexeme.kind <;> simp_all [Kind.isLiteral, Kind.isComment]
  have layout : (lexeme.token.isComment || lexeme.token.isBlank) = true := by
    rw [Bool.or_eq_true, stands.isComment_token]
    rcases gap with blank | comment
    · exact Or.inr (stands.isBlank_token blank)
    · exact Or.inl comment
  simp [Token.canonical, unquoted, layout]

/-- A lexeme with a canonical form other than the blank is no layout. -/
theorem not_gap
    (stands : lexeme.StandsBefore rest)
    (solid : lexeme.token.canonical ≠ Token.blank) :
    ¬(lexeme.kind = .blank ∨ lexeme.kind.isComment = true) :=
  fun kind => solid (stands.canonical_token_of_gap kind)

end Lexeme.StandsBefore

/-- The canonical form of a token without quotes is blank or in upper case. -/
theorem Token.canonical_eq_upper
    {token : Token}
    (bare : token.isQuoted = false)
    (solid : token.canonical ≠ blank) :
    token.canonical = token.upper := by
  unfold canonical at solid ⊢
  rw [bare] at solid ⊢
  split at solid
  case isTrue quoted => cases quoted
  case isFalse =>
    split at solid
    case isTrue => exact absurd rfl solid
    case isFalse gap => simp [gap]

end SqlCatalog
