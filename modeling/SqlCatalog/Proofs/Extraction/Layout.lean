import SqlCatalog.Proofs.Extraction.Canonical
import SqlCatalog.Proofs.Lexing.Class
import SqlCatalog.Proofs.Token.Squeeze

/-!
# Layout

A blank or comment can be exchanged for other layout without any effect but on
positions.  New separators may merge with a blank on either side, so that the
number of tokens changes; the canonical form hides this, since it keeps one
blank of a run.  The token in front still ends where it did: no layout
prolongs a word, a number, a symbol or a literal.  Only a line comment would
swallow what follows, and it has to be ended by a line feed.
-/

namespace SqlCatalog

/-- A text that counts as layout: separators, or a block comment. -/
def IsLayout (text : List Char) : Prop :=
  (text ≠ [] ∧ ∀ char ∈ text, isSeparator char = true) ∨
    ∃ content, ¬['*', '/'] <:+: content ∧
      text = '/' :: '*' :: (content ++ ['*', '/'])

/-- A lexeme that counts as layout: a blank, or a comment that was closed. -/
def Lexeme.Kind.IsGap (kind : Lexeme.Kind) : Prop :=
  kind = .blank ∨ kind = .lineComment ∨ kind = .blockComment true

/-- The canonical tokens of a sequence of lexemes. -/
def canonicalForm (sequence : List Lexeme) : List Token :=
  Token.squeeze ((sequence.map Lexeme.token).map Token.canonical)

/-! ## Separators in front of a text -/

theorem isNeutral_of_isSeparator
    {char : Char}
    (separator : isSeparator char = true) :
    isNeutral char = true ∧ char.isDigit = false := by
  have each :
      ∀ blank ∈ [' ', '\t', '\n', '\x0c', '\r'],
        isNeutral blank = true ∧ blank.isDigit = false :=
    List.all_iff_forall_prop.mp (by decide)
  exact each char (by simpa [isSeparator] using separator)

/-- Separators at the start of a text make up a blank. -/
theorem lexemes_run
    {run : List Char}
    (filled : run ≠ [])
    (inside : ∀ char ∈ run, isSeparator char = true)
    (behind : List Char) :
    lexemes (run ++ behind) =
      ⟨.blank, run ++ behind.takeWhile isSeparator⟩ ::
        lexemes (behind.dropWhile isSeparator) := by
  rcases List.exists_cons_of_ne_nil filled with ⟨first, body, rfl⟩
  have whole :
      ∀ char ∈ first :: (body ++ behind.takeWhile isSeparator),
        isSeparator char = true := by
    intro char member
    rw [← List.cons_append, List.mem_append] at member
    rcases member with early | late
    · exact inside char early
    · exact List.mem_takeWhile_imp late
  have stands :
      Lexeme.StandsBefore
        ⟨.blank, first :: (body ++ behind.takeWhile isSeparator)⟩
        (behind.dropWhile isSeparator) :=
    .blank whole (dropWhile_stop _ _)
  have first := lexemes_of_standsBefore stands
  rwa [List.cons_append, List.append_assoc,
    List.takeWhile_append_dropWhile] at first

/-- The blank at the start of a text, if there is one, and the rest. -/
theorem lexemes_leading_blank (behind : List Char) :
    (behind.takeWhile isSeparator = [] ∧
        behind.dropWhile isSeparator = behind) ∨
      lexemes behind =
        ⟨.blank, behind.takeWhile isSeparator⟩ ::
          lexemes (behind.dropWhile isSeparator) := by
  cases behind with
  | nil => exact Or.inl ⟨rfl, rfl⟩
  | cons first rest =>
      by_cases separator : isSeparator first = true
      · right
        have inside : ∀ char ∈ [first], isSeparator char = true := by
          simpa using separator
        have run := lexemes_run (List.cons_ne_nil first []) inside rest
        simpa [separator] using run
      · left
        simp [separator]

/-! ## Blanks in the canonical form -/

/-- The canonical form around a lexeme whose canonical token is a blank. -/
theorem canonicalForm_append_gap
    {gap : Lexeme}
    (blank : gap.token.canonical = Token.blank)
    (front back : List Lexeme) :
    canonicalForm (front ++ gap :: back) =
      Token.squeeze
        ((front.map Lexeme.token).map Token.canonical ++
          Token.blank :: (back.map Lexeme.token).map Token.canonical) := by
  simp [canonicalForm, blank]

/-- Two gaps side by side count for one. -/
theorem canonicalForm_append_gap_gap
    {first second : Lexeme}
    (firstBlank : first.token.canonical = Token.blank)
    (secondBlank : second.token.canonical = Token.blank)
    (front back : List Lexeme) :
    canonicalForm (front ++ first :: second :: back) =
      canonicalForm (front ++ first :: back) := by
  rw [canonicalForm_append_gap firstBlank, canonicalForm_append_gap firstBlank,
    List.map_cons, List.map_cons, secondBlank,
    Token.squeeze_append_blank_blank]

/-- The blank at the start of a text vanishes behind a gap. -/
theorem canonicalForm_append_leading_blank
    {gap : Lexeme}
    (blank : gap.token.canonical = Token.blank)
    (front : List Lexeme) (behind : List Char) :
    canonicalForm (front ++ gap :: lexemes behind) =
      canonicalForm
        (front ++ gap :: lexemes (behind.dropWhile isSeparator)) := by
  rcases lexemes_leading_blank behind with ⟨-, whole⟩ | leading
  · rw [whole]
  · have reads := reads_lexemes behind
    rw [leading] at reads ⊢
    exact canonicalForm_append_gap_gap blank
      (reads.1.canonical_token_of_gap (Or.inl rfl)) front _

/-- The blank at the start of a text gives no reason to complain. -/
theorem lastFault?_leading_blank (position : Nat) (behind : List Char) :
    Lexeme.lastFault? position (lexemes behind) =
      Lexeme.lastFault?
        (position + byteLength (behind.takeWhile isSeparator))
        (lexemes (behind.dropWhile isSeparator)) := by
  rcases lexemes_leading_blank behind with ⟨none, whole⟩ | leading
  · rw [none, whole, byteLength_nil, Nat.add_zero]
  · rw [leading, Lexeme.lastFault?]
    simp [Lexeme.fault?]

/-! ## Exchanging layout -/

/-- Separators behind lexemes the last of which they do not prolong. -/
theorem lexemes_append_run
    {before : List Lexeme} {old : List Char}
    (reads : Reads before old)
    (closed : ∀ lexeme ∈ before, lexeme.isOpen = false)
    (noBlank : ∀ lexeme ∈ before.getLast?, lexeme.kind ≠ .blank)
    {run : List Char}
    (filled : run ≠ [])
    (inside : ∀ char ∈ run, isSeparator char = true)
    (line : ∀ lexeme ∈ before.getLast?,
      lexeme.kind = .lineComment → run.head? = some '\n')
    (behind : List Char) :
    lexemes (spelling before ++ (run ++ behind)) =
      before ++ ⟨.blank, run ++ behind.takeWhile isSeparator⟩ ::
        lexemes (behind.dropWhile isSeparator) := by
  rcases List.exists_cons_of_ne_nil filled with ⟨first, body, rfl⟩
  have separator := inside first List.mem_cons_self
  rcases isNeutral_of_isSeparator separator with ⟨neutral, noDigit⟩
  have last :
      ∀ lexeme ∈ before.getLast?,
        lexeme.StandsBefore (first :: body ++ behind) := by
    intro lexeme final
    have stands := reads.standsBefore_of_getLast? final
    refine stands.before_neutral
      (closed lexeme (List.mem_of_getLast? final)) neutral ?_ ?_ _
    · intro comment
      simpa using line lexeme final comment
    · intro blank
      exact absurd blank (noBlank lexeme final)
  have again := reads.swap (by simpa using noDigit) last
  rw [lexemes_of_reads again, lexemes_run filled inside]

/-- Two blanks never stand side by side. -/
theorem Reads.noBlank_before_separator
    {before : List Lexeme} {char : Char} {rest : List Char}
    (reads : Reads before (char :: rest))
    (separator : isSeparator char = true) :
    ∀ lexeme ∈ before.getLast?, lexeme.kind ≠ .blank := by
  intro lexeme final blank
  have stands := reads.standsBefore_of_getLast? final
  cases stands with
  | blank run stop =>
      rw [stop char rfl] at separator
      cases separator
  | _ => cases blank

theorem Lexeme.StandsBefore.isSeparator_of_blank
    {lexeme : Lexeme} {rest : List Char}
    (stands : lexeme.StandsBefore rest)
    (blank : lexeme.kind = .blank) :
    ∀ char ∈ lexeme.text, isSeparator char = true := by
  cases stands with
  | blank run stop => exact run
  | _ => cases blank

/-- A line comment is followed by a line feed. -/
theorem Reads.lineFeed_of_lineComment
    {before : List Lexeme} {char : Char} {rest : List Char}
    (reads : Reads before (char :: rest)) :
    ∀ lexeme ∈ before.getLast?, lexeme.kind = .lineComment → char = '\n' := by
  intro lexeme final comment
  have stands := reads.standsBefore_of_getLast? final
  cases stands with
  | lineComment opening line stop => exact stop char rfl
  | _ => cases comment

/-- Separators have the canonical blank for their canonical form. -/
theorem canonical_run
    {run : List Char}
    (filled : run ≠ [])
    (inside : ∀ char ∈ run, isSeparator char = true) :
    (Lexeme.token ⟨.blank, run⟩).canonical = Token.blank := by
  rcases List.exists_cons_of_ne_nil filled with ⟨first, body, rfl⟩
  have stands : Lexeme.StandsBefore ⟨.blank, first :: body⟩ [] :=
    .blank inside (by simp)
  exact stands.canonical_token_of_gap (Or.inl rfl)

/--
Separators count for a gap behind lexemes the last of which they do not
prolong, and what is left open behind them moves along.
-/
theorem replace_by_run_of_noBlank
    {before : List Lexeme} {old : List Char}
    (reads : Reads before old)
    (closed : ∀ lexeme ∈ before, lexeme.isOpen = false)
    (noBlank : ∀ lexeme ∈ before.getLast?, lexeme.kind ≠ .blank)
    {gap : Lexeme}
    (blank : gap.token.canonical = Token.blank)
    {run : List Char}
    (filled : run ≠ [])
    (inside : ∀ char ∈ run, isSeparator char = true)
    (line : ∀ lexeme ∈ before.getLast?,
      lexeme.kind = .lineComment → run.head? = some '\n')
    (behind : List Char) :
    canonicalForm (lexemes (spelling before ++ (run ++ behind))) =
        canonicalForm (before ++ gap :: lexemes behind) ∧
      Lexeme.lastFault? 0 (lexemes (spelling before ++ (run ++ behind))) =
        Lexeme.lastFault? (byteLength (spelling before ++ run))
          (lexemes behind) := by
  have merged :
      (Lexeme.token ⟨.blank, run ++ behind.takeWhile isSeparator⟩).canonical =
        Token.blank := by
    apply canonical_run
    · simp [filled]
    · intro char member
      rcases List.mem_append.mp member with early | late
      · exact inside char early
      · exact List.mem_takeWhile_imp late
  rw [lexemes_append_run reads closed noBlank filled inside line]
  constructor
  · rw [canonicalForm_append_gap merged, ← canonicalForm_append_gap blank,
      ← canonicalForm_append_leading_blank blank]
  · rw [lastFault?_append_closed closed, lastFault?_leading_blank _ behind,
      Lexeme.lastFault?]
    simp [Lexeme.fault?, Nat.add_assoc]

/--
Separators merge with a blank in front of them; the two count for the blank and
the gap, and what is left open behind them moves along.
-/
theorem replace_by_run_of_blank
    {core : List Lexeme} {last gap : Lexeme} {behind : List Char}
    (reads : Reads (core ++ [last]) (gap.text ++ behind))
    (closed : ∀ lexeme ∈ core ++ [last], lexeme.isOpen = false)
    (isBlank : last.kind = .blank)
    (blank : gap.token.canonical = Token.blank)
    {run : List Char}
    (inside : ∀ char ∈ run, isSeparator char = true) :
    canonicalForm (lexemes (spelling (core ++ [last]) ++ (run ++ behind))) =
        canonicalForm ((core ++ [last]) ++ gap :: lexemes behind) ∧
      Lexeme.lastFault? 0
          (lexemes (spelling (core ++ [last]) ++ (run ++ behind))) =
        Lexeme.lastFault? (byteLength (spelling (core ++ [last]) ++ run))
          (lexemes behind) := by
  rw [reads_append] at reads
  rcases reads with ⟨coreReads, lastStands, -⟩
  have lastBlank := lastStands.canonical_token_of_gap (Or.inl isBlank)
  have separators := lastStands.isSeparator_of_blank isBlank
  rcases List.exists_cons_of_ne_nil lastStands.text_ne_nil with
    ⟨first, body, text⟩
  rw [text] at separators
  simp only [spelling_cons, spelling_nil, List.append_nil, text,
    List.cons_append] at coreReads
  have whole : ∀ char ∈ first :: body ++ run, isSeparator char = true := by
    intro char member
    rcases List.mem_append.mp member with early | late
    · exact separators char early
    · exact inside char late
  have coreLine :
      ∀ lexeme ∈ core.getLast?, lexeme.kind = .lineComment →
        (first :: body ++ run).head? = some '\n' := by
    intro lexeme member comment
    rw [coreReads.lineFeed_of_lineComment lexeme member comment]
    rfl
  have merged := replace_by_run_of_noBlank coreReads
    (fun lexeme member => closed lexeme (List.mem_append_left _ member))
    (coreReads.noBlank_before_separator
      (separators first List.mem_cons_self))
    lastBlank (by simp) whole coreLine behind
  have regrouped :
      spelling (core ++ [last]) ++ run =
        spelling core ++ (first :: body ++ run) := by
    simp [text]
  rw [← List.append_assoc, regrouped, List.append_assoc, merged.1, merged.2,
    List.append_assoc, List.singleton_append,
    canonicalForm_append_gap_gap lastBlank blank]
  exact ⟨rfl, rfl⟩

/--
Behind any lexemes a gap can be exchanged for separators: they count for the
gap, and what is left open behind it moves along.
-/
theorem replace_by_run
    {before : List Lexeme} {gap : Lexeme} {behind : List Char}
    (reads : Reads before (gap.text ++ behind))
    (closed : ∀ lexeme ∈ before, lexeme.isOpen = false)
    (blank : gap.token.canonical = Token.blank)
    {run : List Char}
    (filled : run ≠ [])
    (inside : ∀ char ∈ run, isSeparator char = true)
    (line : ∀ lexeme ∈ before.getLast?,
      lexeme.kind = .lineComment → run.head? = some '\n') :
    canonicalForm (lexemes (spelling before ++ (run ++ behind))) =
        canonicalForm (before ++ gap :: lexemes behind) ∧
      Lexeme.lastFault? 0 (lexemes (spelling before ++ (run ++ behind))) =
        Lexeme.lastFault? (byteLength (spelling before ++ run))
          (lexemes behind) := by
  by_cases noBlank : ∀ lexeme ∈ before.getLast?, lexeme.kind ≠ .blank
  · exact replace_by_run_of_noBlank reads closed noBlank blank filled inside
      line behind
  · simp only [not_forall, not_not] at noBlank
    rcases noBlank with ⟨last, final, isBlank⟩
    rcases List.getLast?_eq_some_iff.mp final with ⟨core, rfl⟩
    exact replace_by_run_of_blank reads closed isBlank blank inside

/--
Behind any lexemes a gap can be exchanged for a block comment, unless a line
comment would swallow it.
-/
theorem replace_by_comment
    {before : List Lexeme} {gap : Lexeme} {behind : List Char}
    (reads : Reads before (gap.text ++ behind))
    (closed : ∀ lexeme ∈ before, lexeme.isOpen = false)
    (blank : gap.token.canonical = Token.blank)
    {content : List Char}
    (inside : ¬['*', '/'] <:+: content)
    (noLine : ∀ lexeme ∈ before.getLast?, lexeme.kind ≠ .lineComment) :
    canonicalForm (lexemes (spelling before ++
          ('/' :: '*' :: (content ++ ['*', '/']) ++ behind))) =
        canonicalForm (before ++ gap :: lexemes behind) ∧
      Lexeme.lastFault? 0 (lexemes (spelling before ++
          ('/' :: '*' :: (content ++ ['*', '/']) ++ behind))) =
        Lexeme.lastFault?
          (byteLength (spelling before ++
            '/' :: '*' :: (content ++ ['*', '/'])))
          (lexemes behind) := by
  have comment :
      Lexeme.StandsBefore
        ⟨.blockComment true, '/' :: '*' :: (content ++ ['*', '/'])⟩ behind :=
    .blockComment inside
  have last :
      ∀ lexeme ∈ before.getLast?,
        lexeme.StandsBefore
          ('/' :: '*' :: (content ++ ['*', '/']) ++ behind) := by
    intro lexeme final
    have stands := reads.standsBefore_of_getLast? final
    refine stands.before_neutral
      (closed lexeme (List.mem_of_getLast? final)) (by decide) ?_ ?_ _
    · intro line
      exact absurd line (noLine lexeme final)
    · intro _
      decide
  have again := reads.swap (by simp) last
  have commentBlank := comment.canonical_token_of_gap (Or.inr rfl)
  rw [lexemes_of_reads again, lexemes_of_standsBefore comment]
  constructor
  · rw [canonicalForm_append_gap commentBlank,
      ← canonicalForm_append_gap blank]
  · rw [lastFault?_append_closed closed, Lexeme.lastFault?]
    simp [Lexeme.fault?]

theorem Lexeme.Kind.IsGap.closed
    {kind : Lexeme.Kind}
    (gap : kind.IsGap) (text : List Char) :
    Lexeme.isOpen ⟨kind, text⟩ = false := by
  rcases gap with rfl | rfl | rfl <;> rfl

theorem canonical_of_isGap
    {lexeme : Lexeme} {rest : List Char}
    (stands : lexeme.StandsBefore rest)
    (gap : lexeme.kind.IsGap) :
    lexeme.token.canonical = Token.blank := by
  apply stands.canonical_token_of_gap
  rcases gap with blank | line | block
  · exact Or.inl blank
  · exact Or.inr (by rw [line]; rfl)
  · exact Or.inr (by rw [block]; rfl)

/-- Behind any lexemes a gap can be exchanged for any layout. -/
theorem replace_by_layout
    {before : List Lexeme} {gap : Lexeme} {behind : List Char}
    (reads : Reads before (gap.text ++ behind))
    (closed : ∀ lexeme ∈ before, lexeme.isOpen = false)
    (blank : gap.token.canonical = Token.blank)
    {text : List Char}
    (layout : IsLayout text)
    (line : ∀ lexeme ∈ before.getLast?,
      lexeme.kind = .lineComment → text.head? = some '\n') :
    canonicalForm (lexemes (spelling before ++ (text ++ behind))) =
        canonicalForm (before ++ gap :: lexemes behind) ∧
      Lexeme.lastFault? 0 (lexemes (spelling before ++ (text ++ behind))) =
        Lexeme.lastFault? (byteLength (spelling before ++ text))
          (lexemes behind) := by
  rcases layout with ⟨filled, inside⟩ | ⟨content, inside, rfl⟩
  · exact replace_by_run reads closed blank filled inside line
  · refine replace_by_comment reads closed blank inside ?_
    intro lexeme final isLine
    simpa using line lexeme final isLine

/-! ## Whole texts -/

/-- A text with other layout at a place has the same canonical tokens. -/
theorem Placed.replace_layout
    {front old new behind : String} {kind : Lexeme.Kind}
    {before : List Lexeme}
    (placed : Placed front old behind kind before)
    (gap : kind.IsGap)
    (layout : IsLayout new.toList)
    (line : ∀ lexeme ∈ before.getLast?,
      lexeme.kind = .lineComment → new.toList.head? = some '\n') :
    canonicalForm (lexemes (front ++ new ++ behind).toList) =
        canonicalForm (lexemes (front ++ old ++ behind).toList) ∧
      (tokenize (front ++ new ++ behind)).fault =
        (tokenize (front ++ old ++ behind)).fault.map
          (Unterminated.moved
            (byteLength new.toList - byteLength old.toList)) := by
  rcases placed.parts with ⟨reads, stands, cut⟩
  have text :
      (front ++ new ++ behind).toList =
        spelling before ++ (new.toList ++ behind.toList) := by
    simp [placed.place]
  obtain ⟨same, fault⟩ :=
    replace_by_layout reads placed.isOpen_eq_false
      (canonical_of_isGap stands gap) layout line
  rw [← cut, ← text] at same
  rw [← text, placed.place, ← String.toList_append, ← tokenize_fault] at fault
  refine ⟨same, ?_⟩
  rw [fault, placed.fault (gap.closed _)]
  exact lastFault?_exchanged front old new _

/--
Exchanging a blank or comment for other layout changes no table and no
diagnostic but for the position of an open token.  That token stands behind
the exchanged layout, so it moves by the difference of the lengths.
-/
theorem extract_replace_layout
    (extractor : Extractor) (front old new behind : String)
    {kind : Lexeme.Kind} {before : List Lexeme}
    (placed : Placed front old behind kind before)
    (gap : kind.IsGap)
    (layout : IsLayout new.toList)
    (line : ∀ lexeme ∈ before.getLast?,
      lexeme.kind = .lineComment → new.toList.head? = some '\n')
    (enoughOld : extractor.minTokens ≤
      (tokenize (front ++ old ++ behind)).tokens.length)
    (enoughNew : extractor.minTokens ≤
      (tokenize (front ++ new ++ behind)).tokens.length) :
    extractor.extract (front ++ new ++ behind) =
        { tables := (extractor.extract (front ++ old ++ behind)).tables
          diagnostics :=
            (extractor.extract (front ++ old ++ behind)).diagnostics.map
              (Diagnostic.moved 0
                (byteLength new.toList - byteLength old.toList)) } ∧
      ∀ diagnostic ∈ (extractor.extract (front ++ old ++ behind)).diagnostics,
        ∀ token, diagnostic.fault = .unterminated token →
          byteLength (front ++ old).toList ≤ token.position := by
  obtain ⟨same, fault⟩ := placed.replace_layout gap layout line
  have tokens :
      extractor.canonical (front ++ new ++ behind) =
        extractor.canonical (front ++ old ++ behind) := by
    rw [Extractor.canonical, Extractor.canonical,
      Token.normalize_of_le enoughNew, Token.normalize_of_le enoughOld]
    exact same
  constructor
  · rw [extract_eq_ofTokens, extract_eq_ofTokens, tokens, fault,
      ofTokens_moved]
  · intro diagnostic member token unclosed
    exact placed.le_position (gap.closed _) member unclosed

/--
Behind a line comment a line feed is exchanged for a longer blank, which moves
the open literal at the end of the text.
-/
theorem extract_replace_line_feed :
    (tokenize "CREATE--c\nTABLE 'a' ('x'); SELECT 'open").fault =
        some (.literal 34) ∧
      (Extractor.mk 3).extract
          ("CREATE--c" ++ "\n \t" ++ "TABLE 'a' ('x'); SELECT 'open") =
        { tables := [{ name := "a" }]
          diagnostics :=
            [⟨.column 0 0, .bareColumnName 1⟩,
              ⟨.statement 1, .unterminated (.literal 36)⟩] } := by
  refine ⟨by decide +kernel, ?_⟩
  have placed :
      Placed "CREATE--c" "\n" "TABLE 'a' ('x'); SELECT 'open" .blank
        [⟨.word, "CREATE".toList⟩, ⟨.lineComment, "--c".toList⟩] :=
    ⟨by decide +kernel,
      lexemes "TABLE 'a' ('x'); SELECT 'open".toList, by decide +kernel⟩
  have layout : IsLayout "\n \t".toList :=
    Or.inl ⟨by decide, List.all_iff_forall_prop.mp (by decide +kernel)⟩
  rw [(extract_replace_layout ⟨3⟩ _ _ "\n \t" _ placed (Or.inl rfl) layout
    (by decide +kernel) (by decide +kernel) (by decide +kernel)).1]
  decide +kernel

end SqlCatalog
