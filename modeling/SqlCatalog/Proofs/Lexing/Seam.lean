import SqlCatalog.Lexeme.Cursor
import SqlCatalog.Proofs.Lexing.Grammar

/-!
# Seams between lexemes

A sequence of lexemes is read in front of a text if each of them stands before
what follows it.  Reading is then a matter of the grammar alone: the lexemes of
a text are read in front of nothing, and lexemes that are read in front of a
text are its first ones.

A lexeme depends on what follows only through the next character, with one
exception: a number looks for a digit behind a point.  So the text behind a
sequence can be exchanged for another as long as the last lexeme of the
sequence still ends there and no digit comes to stand behind a point.
-/

namespace SqlCatalog

/-- The text of a sequence of lexemes. -/
def spelling (sequence : List Lexeme) : List Char :=
  sequence.flatMap Lexeme.text

@[simp]
theorem spelling_nil : spelling [] = [] := rfl

@[simp]
theorem spelling_cons (lexeme : Lexeme) (later : List Lexeme) :
    spelling (lexeme :: later) = lexeme.text ++ spelling later := by
  simp [spelling]

@[simp]
theorem spelling_append (front back : List Lexeme) :
    spelling (front ++ back) = spelling front ++ spelling back := by
  simp [spelling]

@[simp]
theorem spelling_lexemes (text : List Char) :
    spelling (lexemes text) = text :=
  lexemes_flatMap_text text

/-- The lexemes of the sequence are read one by one in front of a text. -/
def Reads : List Lexeme → List Char → Prop
  | [], _ => True
  | lexeme :: later, rest =>
    lexeme.StandsBefore (spelling later ++ rest) ∧ Reads later rest

@[simp]
theorem reads_nil (rest : List Char) : Reads [] rest := trivial

@[simp]
theorem reads_cons (lexeme : Lexeme) (later : List Lexeme) (rest : List Char) :
    Reads (lexeme :: later) rest ↔
      lexeme.StandsBefore (spelling later ++ rest) ∧ Reads later rest :=
  Iff.rfl

theorem reads_append (front back : List Lexeme) (rest : List Char) :
    Reads (front ++ back) rest ↔
      Reads front (spelling back ++ rest) ∧ Reads back rest := by
  induction front with
  | nil => simp
  | cons lexeme front hypothesis =>
      simp [hypothesis, and_assoc]

/-- The last lexeme of the sequence stands right before the text. -/
theorem Reads.standsBefore_of_getLast?
    {front : List Lexeme} {rest : List Char} {lexeme : Lexeme}
    (reads : Reads front rest)
    (last : lexeme ∈ front.getLast?) :
    lexeme.StandsBefore rest := by
  rcases List.getLast?_eq_some_iff.mp last with ⟨others, rfl⟩
  rw [reads_append] at reads
  simpa using reads.2.1

/-! ## Reading and the lexemes of a text -/

theorem Lexeme.StandsBefore.text_ne_nil
    {lexeme : Lexeme} {rest : List Char}
    (stands : lexeme.StandsBefore rest) :
    lexeme.text ≠ [] := by
  obtain ⟨first, body, text, -⟩ := scan_of_standsBefore stands
  simp [text]

/-- A lexeme that stands before a text is the first one that is read. -/
theorem lexemes_of_standsBefore
    {lexeme : Lexeme} {rest : List Char}
    (stands : lexeme.StandsBefore rest) :
    lexemes (lexeme.text ++ rest) = lexeme :: lexemes rest := by
  obtain ⟨first, body, text, scanned⟩ := scan_of_standsBefore stands
  rw [text, List.cons_append, lexemes_cons, scanned]

/-- Lexemes that are read in front of a text are the first ones. -/
theorem lexemes_of_reads
    {front : List Lexeme} {rest : List Char}
    (reads : Reads front rest) :
    lexemes (spelling front ++ rest) = front ++ lexemes rest := by
  induction front with
  | nil => simp
  | cons lexeme front hypothesis =>
      obtain ⟨stands, later⟩ := reads
      rw [spelling_cons, List.append_assoc, lexemes_of_standsBefore stands,
        hypothesis later, List.cons_append]

/-- The lexemes of a text are read in front of nothing. -/
theorem reads_lexemes (text : List Char) : Reads (lexemes text) [] := by
  fun_induction lexemes text with
  | case1 => exact reads_nil []
  | case2 first rest hypothesis =>
      refine ⟨?_, hypothesis⟩
      rw [spelling_lexemes, List.append_nil]
      exact standsBefore_scan first rest

/-- A text can be cut between any two of its lexemes. -/
theorem reads_of_lexemes_eq
    {text : List Char} {front back : List Lexeme}
    (parts : lexemes text = front ++ back) :
    text = spelling front ++ spelling back ∧
      Reads front (spelling back) ∧ lexemes (spelling back) = back := by
  have reads := reads_lexemes text
  rw [parts, reads_append, List.append_nil] at reads
  refine ⟨?_, reads.1, ?_⟩
  · rw [← spelling_append, ← parts, spelling_lexemes]
  · have alone := lexemes_of_reads reads.2
    simpa using alone

/-! ## Exchanging what follows -/

/--
Behind the next character the text matters only to a number, and only if that
character is a point.
-/
theorem Lexeme.StandsBefore.swap_behind
    {lexeme : Lexeme} {char : Char} {old new : List Char}
    (stands : lexeme.StandsBefore (char :: old))
    (point : char = '.' →
      ∀ next ∈ new.head?, next.isDigit = true → next ∈ old.head?) :
    lexeme.StandsBefore (char :: new) := by
  cases stands with
  | literal allowed stop => exact .literal allowed stop
  | lineComment opening line stop => exact .lineComment opening line stop
  | blockComment inside => exact .blockComment inside
  | blank run stop => exact .blank run stop
  | word run stop whole =>
      refine .word run stop ?_
      intro digit
      have old := (decimals_eq_nil_iff _).mp (whole digit)
      rw [decimals_eq_nil_iff]
      rintro later ⟨rfl, rfl⟩ next member
      cases isDigit : next.isDigit with
      | false => rfl
      | true =>
          have before := old _ rfl next (point rfl next member isDigit)
          rw [before] at isDigit
          cases isDigit
  | decimal start run fraction numeric stop =>
      exact .decimal start run fraction numeric stop
  | symbol start alone => exact .symbol start alone
  | longSymbol listed => exact .longSymbol listed

/--
The text behind a sequence can be exchanged if the last lexeme still ends
there and the new text does not start with a digit.
-/
theorem Reads.swap
    {front : List Lexeme} {old new : List Char}
    (reads : Reads front old)
    (noDigit : ∀ next ∈ new.head?, next.isDigit = false)
    (last : ∀ lexeme ∈ front.getLast?, lexeme.StandsBefore new) :
    Reads front new := by
  induction front with
  | nil => exact reads_nil new
  | cons lexeme later hypothesis =>
      obtain ⟨stands, others⟩ := reads
      cases later with
      | nil => exact ⟨last lexeme rfl, reads_nil new⟩
      | cons next later =>
          refine ⟨?_, hypothesis others last⟩
          obtain ⟨char, body, text⟩ :=
            List.exists_cons_of_ne_nil others.1.text_ne_nil
          simp only [spelling_cons, text, List.cons_append,
            List.append_assoc] at stands ⊢
          refine stands.swap_behind ?_
          -- A digit behind the point was there before: the new text has none.
          intro _ digit member isDigit
          cases inside : body ++ spelling later with
          | nil =>
              rw [← List.append_assoc, inside] at member
              rw [noDigit digit member] at isDigit
              cases isDigit
          | cons _ _ =>
              rw [← List.append_assoc, inside] at member ⊢
              exact member

/-! ## Characters at which lexemes end -/

/-- Characters that prolong no literal, no word, no number and no symbol. -/
def isNeutral (char : Char) : Bool :=
  (Delimiter.ofMark? char).isNone && !isWordChar char && char != '.' &&
    char != '-' && char != '*' && longSymbols.all fun pair => pair.2 != char

/-- Whether a literal or comment was left open. -/
def Lexeme.isOpen (lexeme : Lexeme) : Bool :=
  (lexeme.fault? 0).isSome

/-- A neutral character is joined with no character in front of it. -/
theorem joins_neutral
    {next : Char}
    (neutral : isNeutral next = true)
    (first : Char) :
    joins first next = false := by
  simp only [isNeutral, Bool.and_eq_true, bne_iff_ne, List.all_eq_true] at neutral
  obtain ⟨⟨⟨-, noDash⟩, noStar⟩, noSecond⟩ := neutral
  have unlisted : (first, next) ∉ longSymbols := by
    intro listed
    exact noSecond (first, next) listed rfl
  simp [joins, noDash, noStar, unlisted]

/-- A digit is a word character. -/
theorem isWordChar_of_isDigit
    {char : Char}
    (digit : char.isDigit = true) :
    isWordChar char = true := by
  simp [isWordChar, Char.isAlphanum, digit]

/--
Every closed lexeme ends in front of a neutral character, but for a line
comment that the character does not end and a blank that it prolongs.
-/
theorem Lexeme.StandsBefore.before_neutral
    {lexeme : Lexeme} {char : Char} {old : List Char}
    (stands : lexeme.StandsBefore old)
    (closed : lexeme.isOpen = false)
    (neutral : isNeutral char = true)
    (line : lexeme.kind = .lineComment → char = '\n')
    (gap : lexeme.kind = .blank → isSeparator char = false)
    (new : List Char) :
    lexeme.StandsBefore (char :: new) := by
  have joined := joins_neutral neutral
  simp only [isNeutral, Bool.and_eq_true, Option.isNone_iff_eq_none,
    Bool.not_eq_true', bne_iff_ne] at neutral
  obtain ⟨⟨⟨⟨⟨noMark, noWord⟩, noPoint⟩, -⟩, -⟩, -⟩ := neutral
  cases stands with
  | @literal delimiter _ _ allowed _ =>
      refine .literal allowed ?_
      intro mark
      obtain rfl : char = delimiter.mark := by simpa using mark
      simp at noMark
  | openLiteral => cases closed
  | lineComment opening body _ =>
      exact .lineComment opening body (by simpa using line rfl)
  | blockComment inside => exact .blockComment inside
  | openComment => cases closed
  | blank run _ => exact .blank run (by simpa using gap rfl)
  | word run _ _ =>
      refine .word run (by simpa using noWord) ?_
      intro _
      rw [decimals_eq_nil_iff]
      rintro later ⟨point, -⟩
      exact absurd rfl noPoint
  | decimal start run fraction numeric _ =>
      refine .decimal start run fraction numeric ?_
      intro next member
      obtain rfl : char = next := by simpa using member
      cases digit : char.isDigit with
      | false => rfl
      | true => rw [isWordChar_of_isDigit digit] at noWord; cases noWord
  | symbol start _ =>
      refine .symbol start ?_
      intro next member
      obtain rfl : char = next := by simpa using member
      exact joined _
  | longSymbol listed => exact .longSymbol listed

/-! ## Open lexemes -/

/-- Behind an open lexeme the text is over. -/
theorem Lexeme.StandsBefore.eq_nil_of_isOpen
    {lexeme : Lexeme} {rest : List Char}
    (stands : lexeme.StandsBefore rest)
    (unclosed : lexeme.isOpen = true) :
    rest = [] := by
  cases stands with
  | openLiteral => rfl
  | openComment => rfl
  | _ => cases unclosed

/-- Lexemes with text behind them are closed. -/
theorem Reads.isOpen_eq_false
    {front : List Lexeme} {rest : List Char}
    (reads : Reads front rest)
    (more : rest ≠ []) :
    ∀ lexeme ∈ front, lexeme.isOpen = false := by
  induction front with
  | nil => simp
  | cons lexeme later hypothesis =>
      intro other member
      rcases List.mem_cons.mp member with rfl | member
      · cases unclosed : other.isOpen with
        | false => rfl
        | true =>
            have nothing := reads.1.eq_nil_of_isOpen unclosed
            exact absurd (List.append_eq_nil_iff.mp nothing).2 more
      · exact hypothesis reads.2 other member

theorem Lexeme.fault?_eq_none_of_closed
    {lexeme : Lexeme}
    (closed : lexeme.isOpen = false)
    (position : Nat) :
    lexeme.fault? position = none := by
  rcases lexeme with ⟨kind, text⟩
  cases kind with
  | literal delimiter closed' => cases closed' <;> simp_all [isOpen, fault?]
  | blockComment closed' => cases closed' <;> simp_all [isOpen, fault?]
  | _ => rfl

/-! ## Positions of open lexemes -/

/-- An open token that starts a distance further on. -/
def Unterminated.moved (distance : Int) : Unterminated → Unterminated
  | literal position => literal (position + distance).toNat
  | comment position => comment (position + distance).toNat

/-- The complaint about a text follows the place where the text starts. -/
theorem lastFault?_moved (old new : Nat) (sequence : List Lexeme) :
    Lexeme.lastFault? new sequence =
      (Lexeme.lastFault? old sequence).map
        (Unterminated.moved ((new : Int) - old)) := by
  induction sequence generalizing old new with
  | nil => rfl
  | cons lexeme later hypothesis =>
      have first :
          lexeme.fault? new =
            (lexeme.fault? old).map
              (Unterminated.moved ((new : Int) - old)) := by
        have reached : ((old : Int) + (new - old)).toNat = new := by omega
        unfold Lexeme.fault?
        split <;> simp only [Option.map_some, Option.map_none,
          Unterminated.moved, reached]
      have distance :
          ((new + byteLength lexeme.text : Nat) : Int) -
              (old + byteLength lexeme.text : Nat) =
            new - old := by
        omega
      have behind :=
        hypothesis (old + byteLength lexeme.text)
          (new + byteLength lexeme.text)
      rw [Lexeme.lastFault?, Lexeme.lastFault?, behind, distance, first]
      cases Lexeme.lastFault? (old + byteLength lexeme.text) later <;> rfl

theorem lastFault?_append (position : Nat) (front back : List Lexeme) :
    Lexeme.lastFault? position (front ++ back) =
      (Lexeme.lastFault? (position + byteLength (spelling front)) back <|>
        Lexeme.lastFault? position front) := by
  induction front generalizing position with
  | nil => simp [Lexeme.lastFault?]
  | cons lexeme front hypothesis =>
      simp only [List.cons_append, Lexeme.lastFault?, hypothesis,
        spelling_cons, byteLength_append, Nat.add_assoc, Option.orElse_eq_orElse,
        Option.orElse_eq_or, Option.or_assoc]

/-- A text of closed lexemes gives no reason to complain. -/
theorem lastFault?_eq_none_iff (position : Nat) (sequence : List Lexeme) :
    Lexeme.lastFault? position sequence = none ↔
      ∀ lexeme ∈ sequence, lexeme.isOpen = false := by
  induction sequence generalizing position with
  | nil => simp [Lexeme.lastFault?]
  | cons lexeme later hypothesis =>
      have first : lexeme.fault? position = none ↔ lexeme.isOpen = false := by
        constructor
        · intro none
          unfold Lexeme.fault? at none
          unfold Lexeme.isOpen Lexeme.fault?
          split at none <;> simp_all
        · intro closed
          exact lexeme.fault?_eq_none_of_closed closed position
      simp [Lexeme.lastFault?, hypothesis, first, and_comm]

/-- Complaints about what stands behind closed lexemes. -/
theorem lastFault?_append_closed
    {front : List Lexeme}
    (closed : ∀ lexeme ∈ front, lexeme.isOpen = false)
    (position : Nat) (back : List Lexeme) :
    Lexeme.lastFault? position (front ++ back) =
      Lexeme.lastFault? (position + byteLength (spelling front)) back := by
  rw [lastFault?_append, (lastFault?_eq_none_iff position front).mpr closed]
  simp

/-- An open lexeme lies inside of the text. -/
theorem le_position_of_lastFault?
    {position : Nat} {sequence : List Lexeme} {token : Unterminated}
    (found : Lexeme.lastFault? position sequence = some token) :
    position ≤ token.position := by
  induction sequence generalizing position with
  | nil => cases found
  | cons lexeme later hypothesis =>
      simp only [Lexeme.lastFault?] at found
      cases behind : Lexeme.lastFault? (position + byteLength lexeme.text) later with
      | some other =>
          rw [behind] at found
          cases found
          have bound := hypothesis behind
          omega
      | none =>
          rw [behind] at found
          have here : lexeme.fault? position = some token := found
          unfold Lexeme.fault? at here
          split at here <;> cases here <;> exact Nat.le_refl _

/-! ## Texts as strings -/

@[simp]
theorem tokenize_tokens (sql : String) :
    (tokenize sql).tokens = (lexemes sql.toList).map Lexeme.token := rfl

@[simp]
theorem tokenize_fault (sql : String) :
    (tokenize sql).fault = Lexeme.lastFault? 0 (lexemes sql.toList) := by
  simp [tokenize, Cursor.start, Cursor.drain]

/-- The tokens of lexemes, joined, are the text of the lexemes. -/
theorem toList_join_tokens (sequence : List Lexeme) :
    (String.join (sequence.map Lexeme.token)).toList = spelling sequence := by
  simp [String.toList_join, List.flatMap_map, Lexeme.token, spelling]

/-- Lexemes that can stand side by side are what their text is read as. -/
theorem tokenize_join_of_reads
    {sequence : List Lexeme}
    (reads : Reads sequence []) :
    tokenize (String.join (sequence.map Lexeme.token)) =
      ⟨sequence.map Lexeme.token, Lexeme.lastFault? 0 sequence⟩ := by
  have cut : lexemes (spelling sequence) = sequence := by
    simpa using lexemes_of_reads reads
  have whole (lexed : Lexed) : lexed = ⟨lexed.tokens, lexed.fault⟩ := rfl
  rw [whole (tokenize _), tokenize_tokens, tokenize_fault, toList_join_tokens,
    cut]

/--
The middle part of a text is a token of the given class, and `before` are the
lexemes that stand in front of it.
-/
structure Placed (front token behind : String) (kind : Lexeme.Kind)
    (before : List Lexeme) : Prop where
  /-- The lexemes in front make up the first part. -/
  place : spelling before = front.toList
  /-- The token is the next lexeme of the text. -/
  cut : ∃ after, lexemes (front ++ token ++ behind).toList =
    before ++ ⟨kind, token.toList⟩ :: after

/-- Around a token the text falls into parts that are read on their own. -/
theorem Placed.parts
    {front token behind : String} {kind : Lexeme.Kind} {before : List Lexeme}
    (placed : Placed front token behind kind before) :
    Reads before (token.toList ++ behind.toList) ∧
      Lexeme.StandsBefore ⟨kind, token.toList⟩ behind.toList ∧
      lexemes (front ++ token ++ behind).toList =
        before ++ ⟨kind, token.toList⟩ :: lexemes behind.toList := by
  rcases placed.cut with ⟨after, cut⟩
  have pieces :
      lexemes (front ++ token ++ behind).toList =
        (before ++ [⟨kind, token.toList⟩]) ++ after := by
    rw [cut, List.append_assoc, List.singleton_append]
  rcases reads_of_lexemes_eq pieces with ⟨text, reads, alone⟩
  have rest : spelling after = behind.toList := by
    rw [spelling_append, placed.place] at text
    simpa using text.symm
  rw [rest] at reads alone
  rw [reads_append] at reads
  refine ⟨?_, ?_, ?_⟩
  · simpa using reads.1
  · simpa using reads.2.1
  · rw [cut, alone]

theorem Placed.isOpen_eq_false
    {front token behind : String} {kind : Lexeme.Kind} {before : List Lexeme}
    (placed : Placed front token behind kind before) :
    ∀ lexeme ∈ before, lexeme.isOpen = false := by
  rcases placed.parts with ⟨reads, stands, -⟩
  apply reads.isOpen_eq_false
  simp [stands.text_ne_nil]

/-- What a text leaves open stands behind each of its closed tokens. -/
theorem Placed.fault
    {front token behind : String} {kind : Lexeme.Kind} {before : List Lexeme}
    (placed : Placed front token behind kind before)
    (closed : Lexeme.isOpen ⟨kind, token.toList⟩ = false) :
    (tokenize (front ++ token ++ behind)).fault =
      Lexeme.lastFault? (byteLength (front ++ token).toList)
        (lexemes behind.toList) := by
  rw [tokenize_fault, placed.parts.2.2,
    lastFault?_append_closed placed.isOpen_eq_false, Lexeme.lastFault?,
    Lexeme.fault?_eq_none_of_closed closed, placed.place]
  simp

/-- What is left open behind a part of a text moves if that part is exchanged. -/
theorem lastFault?_exchanged
    (front old new : String) (later : List Lexeme) :
    Lexeme.lastFault? (byteLength (front ++ new).toList) later =
      (Lexeme.lastFault? (byteLength (front ++ old).toList) later).map
        (Unterminated.moved
          (byteLength new.toList - byteLength old.toList)) := by
  rw [lastFault?_moved (byteLength (front ++ old).toList)]
  congr 2
  simp only [String.toList_append, byteLength_append]
  omega

end SqlCatalog
