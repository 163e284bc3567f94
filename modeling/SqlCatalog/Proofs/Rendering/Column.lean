import SqlCatalog.Proofs.Fragment.Pieces
import SqlCatalog.Proofs.Rendering.Tokens
import SqlCatalog.Proofs.Statement.Lookup

/-!
# Reading the definition of a column

Every clause of a rendered column is found where it was written.  A search for
a single keyword passes over the clauses in front, since none of their words
is that keyword.  The two searches for a pair of words are a different matter:
a type, character set or collation may be the first word of the pair, and what
tells them apart is the word that follows.
-/

namespace SqlCatalog

/-! ## Words of the clauses -/

@[simp]
theorem valueTokens_empty (key : List Token) (token : Token) :
    valueTokens key "" token = [] := rfl

theorem valueTokens_of_ne
    {value : String}
    (filled : value ≠ "")
    (key : List Token) (token : Token) :
    valueTokens key value token = key ++ [token] := by
  rw [valueTokens, if_neg (by simpa using filled)]

theorem not_mem_valueTokens
    {word : Token} {key : List Token} {value : String} {token : Token}
    (absent : word ∉ key)
    (other : value ≠ "" → word ≠ token) :
    word ∉ valueTokens key value token := by
  unfold valueTokens
  split
  case isTrue => simp
  case isFalse filled =>
    rw [List.mem_append, List.mem_singleton, not_or]
    exact ⟨absent, other (by simpa using filled)⟩

theorem IsBareValue.not_mem_valueTokens
    {keys : List Token} {value : String}
    (bare : IsBareValue keys value)
    {word : Token} {key : List Token}
    (listed : word ∈ keys)
    (absent : word ∉ key) :
    word ∉ valueTokens key value value := by
  apply SqlCatalog.not_mem_valueTokens absent
  rintro filled rfl
  rcases bare with empty | ⟨-, unlisted⟩
  · exact filled empty
  · exact unlisted listed

theorem not_mem_valueTokens_quote
    {word : Token} {key : List Token}
    (unquoted : word.isQuoted = false)
    (absent : word ∉ key)
    (delimiter : Delimiter) (value : String) :
    word ∉ valueTokens key value (Token.quote delimiter value) := by
  apply not_mem_valueTokens absent
  intro _
  exact Ne.symm (ne_of_isQuoted (Token.isQuoted_quote delimiter value) unquoted)

theorem not_mem_flagTokens
    {word : Token} {keyword : List Token}
    (absent : word ∉ keyword)
    (applies : Bool) :
    word ∉ flagTokens keyword applies := by
  unfold flagTokens
  split
  · exact absent
  · simp

theorem mem_of_mem_intercalate
    {separator : List Token} {parts : List (List Token)} {token : Token}
    (member : token ∈ separator.intercalate parts) :
    token ∈ separator ∨ ∃ part ∈ parts, token ∈ part := by
  induction parts with
  | nil => simp at member
  | cons part later hypothesis =>
      cases later with
      | nil =>
          rw [List.intercalate_singleton] at member
          exact Or.inr ⟨part, List.mem_cons_self, member⟩
      | cons next later =>
          rw [List.intercalate_cons_cons, List.mem_append, List.mem_append] at member
          rcases member with (first | between) | others
          · exact Or.inr ⟨part, List.mem_cons_self, first⟩
          · exact Or.inl between
          · rcases hypothesis others with between | ⟨other, listed, inside⟩
            · exact Or.inl between
            · exact Or.inr ⟨other, List.mem_cons_of_mem part listed, inside⟩

/-- Between the parentheses of a type stand numbers and commas. -/
theorem DataType.IsWritten.mem_arguments
    {declared : DataType} {values : List String}
    (written : declared.IsWritten)
    (found : declared.arguments = some values)
    {token : Token}
    (member : token ∈ [","].intercalate (values.map fun value => [value])) :
    token = "," ∨ token.toList.all Char.isDigit = true := by
  rcases mem_of_mem_intercalate member with comma | ⟨part, listed, inside⟩
  · exact Or.inl (List.mem_singleton.mp comma)
  · rcases List.mem_map.mp listed with ⟨value, argument, rfl⟩
    obtain rfl := List.mem_singleton.mp inside
    right
    rw [List.all_eq_true]
    exact (written.arguments values found token argument).2

/-- A word that is no token of a type, unless it is the first one. -/
def isForeign (word : Token) : Bool :=
  !word.isQuoted && !word.toList.all Char.isDigit &&
    !List.contains ["(", ")", ",", " ", "UNSIGNED"] word

theorem DataType.IsWritten.not_mem_argumentTokens
    {declared : DataType}
    (written : declared.IsWritten)
    {word : Token}
    (symbols : word ∉ ["(", ")", ","])
    (letters : word.toList.all Char.isDigit = false) :
    word ∉ declared.argumentTokens := by
  unfold argumentTokens
  split
  case h_1 => simp
  case h_2 values found =>
    intro member
    rw [List.mem_cons, List.mem_append, List.mem_singleton] at member
    rcases member with rfl | inside | rfl
    · exact symbols (by decide)
    · rcases written.mem_arguments found inside with rfl | digits
      · exact symbols (by decide)
      · rw [letters] at digits
        cases digits
    · exact symbols (by decide)

theorem DataType.IsWritten.not_mem_behind_word
    {declared : DataType}
    (written : declared.IsWritten)
    {word : Token}
    (foreign : isForeign word = true) :
    word ∉ declared.argumentTokens ++
      flagTokens [" ", "UNSIGNED"] declared.isUnsigned := by
  simp only [isForeign, Bool.and_eq_true, Bool.not_eq_true',
    List.contains_eq_mem, decide_eq_false_iff_not] at foreign
  rcases foreign with ⟨⟨-, letters⟩, symbols⟩
  rw [List.mem_append, not_or]
  constructor
  · apply written.not_mem_argumentTokens _ letters
    intro listed
    exact symbols (List.mem_of_mem_take (i := 3) listed)
  · apply not_mem_flagTokens
    intro listed
    exact symbols (List.mem_of_mem_drop (i := 3) listed)

theorem not_mem_name
    {word : Token}
    (foreign : isForeign word = true)
    (name : String) :
    word ∉ [Token.quote .backtick name, " "] := by
  simp only [isForeign, Bool.and_eq_true, Bool.not_eq_true',
    List.contains_eq_mem, decide_eq_false_iff_not] at foreign
  rcases foreign with ⟨⟨unquoted, -⟩, symbols⟩
  have name : word ≠ Token.quote .backtick name :=
    Ne.symm (ne_of_isQuoted (Token.isQuoted_quote _ _) unquoted)
  simp_all

theorem Column.headTokens_eq (column : Column) (declared : DataType) :
    column.headTokens declared =
      [Token.quote .backtick column.name, " "] ++ ([declared.word] ++
        (declared.argumentTokens ++
          flagTokens [" ", "UNSIGNED"] declared.isUnsigned)) := by
  simp [headTokens, DataType.stem]

/-! ## Searches for a single keyword -/

theorem defaultValue_valueTokens
    {front back : List Token}
    (before : "DEFAULT" ∉ front) (behind : "DEFAULT" ∉ back)
    (value : String) :
    Fragment.defaultValue
        (front ++ (valueTokens [" ", "DEFAULT", " "] value
          (Token.quote .apostrophe value) ++ back)) =
      .ok value := by
  by_cases filled : value = ""
  · rw [filled, valueTokens_empty, List.nil_append]
    apply Fragment.defaultValue_of_not_mem
    simp [before, behind]
  · have whole :
        front ++ (valueTokens [" ", "DEFAULT", " "] value
            (Token.quote .apostrophe value) ++ back) =
          (front ++ [" "]) ++ "DEFAULT" :: Token.blank ::
            Token.quote .apostrophe value :: back := by
      simp [valueTokens_of_ne filled, Token.blank]
    rw [whole, Fragment.defaultValue_append_literal _ (Token.isQuoted_quote _ _),
      Token.unquote_quote]
    simp [before]

theorem comment_valueTokens
    {front : List Token}
    (before : "COMMENT" ∉ front)
    (value : String) :
    Fragment.comment
        (front ++ valueTokens [" ", "COMMENT", " "] value
          (Token.quote .apostrophe value)) =
      value := by
  by_cases filled : value = ""
  · rw [filled, valueTokens_empty, List.append_nil]
    exact Fragment.comment_of_not_mem before
  · have whole :
        front ++ valueTokens [" ", "COMMENT", " "] value
            (Token.quote .apostrophe value) =
          (front ++ [" "]) ++ "COMMENT" :: Token.blank ::
            Token.quote .apostrophe value :: [] := by
      simp [valueTokens_of_ne filled, Token.blank]
    rw [whole, Fragment.comment_append_literal _ (Token.isQuoted_quote _ _),
      Token.unquote_quote]
    simp [before]

theorem valueAfter_valueTokens
    {pattern : Pattern} {key front back : List Token} {value : String}
    (fit : ∀ rest, pattern.fits (key ++ rest) = true)
    (length : key.length = pattern.length)
    (before : value ≠ "" →
      pattern.Misses (front ++ [" "]) (key ++ value :: back))
    (absent : value = "" → pattern.Misses (front ++ back) []) :
    Fragment.valueAfter pattern
        (front ++ (valueTokens (" " :: key) value value ++ back)) =
      value := by
  by_cases filled : value = ""
  · have misses := absent filled
    rw [filled, valueTokens_empty, List.nil_append]
    exact Fragment.valueAfter_eq_empty misses
  · have whole :
        front ++ (valueTokens (" " :: key) value value ++ back) =
          (front ++ [" "]) ++ (key ++ value :: back) := by
      simp [valueTokens_of_ne filled]
    rw [whole]
    exact Fragment.valueAfter_append (before filled) (fit _) length

/-! ## Searches for a pair of words -/

/-- The sequence does not go on with a blank and the given word. -/
def Avoids (word : Token) (tokens : List Token) : Prop :=
  Pattern.fits [.blank, .exactly word] tokens = false

theorem avoids_nil (word : Token) : Avoids word [] := rfl

theorem avoids_cons_cons
    {word next : Token}
    (other : next ≠ word)
    (token : Token) (rest : List Token) :
    Avoids word (token :: next :: rest) := by
  simp [Avoids, Element.accepts, other]

theorem Avoids.valueTokens_append
    {word next : Token} {rest : List Token}
    (behind : Avoids word rest)
    (other : next ≠ word)
    (key : List Token) (value : String) (token : Token) :
    Avoids word (valueTokens (" " :: next :: key) value token ++ rest) := by
  unfold valueTokens
  split
  · exact behind
  · exact avoids_cons_cons other _ _

theorem Avoids.flagTokens_append
    {word next : Token} {rest : List Token}
    (behind : Avoids word rest)
    (other : next ≠ word)
    (keyword : List Token) (applies : Bool) :
    Avoids word (flagTokens (" " :: next :: keyword) applies ++ rest) := by
  unfold flagTokens
  split
  · exact avoids_cons_cons other _ _
  · exact behind

/-- Behind a word the type goes on with a parenthesis or with its sign. -/
theorem Avoids.type_append
    {word : Token} {rest : List Token}
    (behind : Avoids word rest)
    (other : "UNSIGNED" ≠ word)
    (declared : DataType) :
    Avoids word (declared.argumentTokens ++
      (flagTokens [" ", "UNSIGNED"] declared.isUnsigned ++ rest)) := by
  unfold DataType.argumentTokens
  split
  · exact behind.flagTokens_append other [] _
  · rfl

/-- A word is passed over if the second word of the pair does not follow. -/
theorem misses_of_avoids
    {first second : Token} {rest : List Token}
    (avoids : Avoids second rest)
    (pattern : Pattern) (token : Token) :
    Pattern.Misses (.exactly first :: .blank :: .exactly second :: pattern)
      [token] rest := by
  refine ⟨?_, trivial⟩
  rcases rest with - | ⟨next, - | ⟨after, rest⟩⟩ <;>
    simp_all [Avoids, Element.accepts]

theorem misses_valueTokens
    {first second : Token} {key rest : List Token}
    (absent : first ∉ key)
    (avoids : Avoids second rest)
    (pattern : Pattern) (value : String) :
    Pattern.Misses (.exactly first :: .blank :: .exactly second :: pattern)
      (valueTokens key value value) rest := by
  unfold valueTokens
  split
  · trivial
  · apply Pattern.Misses.append
    · exact Pattern.misses_of_not_mem absent _ _
    · exact misses_of_avoids avoids pattern value

theorem head?_valueTokens_append
    {rest : List Token}
    (opens : ∀ token ∈ rest.head?, token = Token.blank)
    (key : List Token) (value : String) (token : Token) :
    ∀ first ∈ (valueTokens (" " :: key) value token ++ rest).head?,
      first = Token.blank := by
  unfold valueTokens
  split
  · exact opens
  · intro first next
    simpa [Token.blank] using next.symm

theorem head?_flagTokens_append
    {rest : List Token}
    (opens : ∀ token ∈ rest.head?, token = Token.blank)
    (keyword : List Token) (applies : Bool) :
    ∀ first ∈ (flagTokens (" " :: keyword) applies ++ rest).head?,
      first = Token.blank := by
  unfold flagTokens
  split
  · intro first next
    simpa [Token.blank] using next.symm
  · exact opens

namespace Column

variable (column : Column)

/-- No clause behind the collation starts with another word. -/
theorem avoids_behind_collation
    (word : Token)
    (other : word ∉ ["NOT", "AUTO_INCREMENT", "DEFAULT", "COMMENT"]) :
    Avoids word (column.notNullTokens ++ (column.autoIncrementTokens ++
      (column.defaultTokens ++ column.commentTokens))) := by
  simp only [List.mem_cons, List.not_mem_nil, or_false, not_or] at other
  have comment : Avoids word (column.commentTokens ++ []) :=
    (avoids_nil word).valueTokens_append (Ne.symm other.2.2.2) _ _ _
  rw [List.append_nil] at comment
  apply Avoids.flagTokens_append _ (Ne.symm other.1)
  apply Avoids.flagTokens_append _ (Ne.symm other.2.1)
  exact comment.valueTokens_append (Ne.symm other.2.2.1) _ _ _

/-- No clause starts with another word. -/
theorem avoids_clauseTokens
    (word : Token)
    (other : word ∉ ["CHARACTER", "COLLATE", "NOT", "AUTO_INCREMENT", "DEFAULT",
      "COMMENT"]) :
    Avoids word column.clauseTokens := by
  rw [List.mem_cons, List.mem_cons, not_or, not_or] at other
  apply Avoids.valueTokens_append _ (Ne.symm other.1)
  apply Avoids.valueTokens_append _ (Ne.symm other.2.1)
  exact column.avoids_behind_collation word other.2.2

theorem head?_clauseTokens :
    ∀ token ∈ column.clauseTokens.head?, token = Token.blank := by
  have none : ∀ token ∈ ([] : List Token).head?, token = Token.blank := by
    simp
  have comment := head?_valueTokens_append none ["COMMENT", " "] column.comment
    (Token.quote .apostrophe column.comment)
  rw [List.append_nil] at comment
  apply head?_valueTokens_append
  apply head?_valueTokens_append
  apply head?_flagTokens_append
  apply head?_flagTokens_append
  apply head?_valueTokens_append
  exact comment

theorem absent_behind_notNull
    {word : Token}
    (unquoted : word.isQuoted = false)
    (other : word ∉ [" ", "AUTO_INCREMENT", "DEFAULT", "COMMENT"]) :
    word ∉ column.autoIncrementTokens ++
      (column.defaultTokens ++ column.commentTokens) := by
  simp only [List.mem_cons, List.not_mem_nil, or_false, not_or] at other
  rw [List.mem_append, List.mem_append, not_or, not_or]
  refine ⟨?_, ?_, ?_⟩
  · apply not_mem_flagTokens
    simp [other]
  · apply not_mem_valueTokens_quote unquoted
    simp [other]
  · apply not_mem_valueTokens_quote unquoted
    simp [other]

end Column

/-- A column with a declaration of its type. -/
structure Column.IsDeclared (column : Column) (declared : DataType) : Prop
    extends column.IsRenderable where
  written : declared.IsWritten
  free : declared.word ∉ columnKeys
  same : column.dataType = declared.text

namespace Column.IsDeclared

variable {column : Column} {declared : DataType}

/-- Every key stands in its own clause only. -/
theorem absent_key
    (given : column.IsDeclared declared)
    {word : Token}
    (listed : word ∈ columnKeys) :
    word ∉ column.headTokens declared ∧
      (word ≠ "CHARSET" → word ∉ column.charsetTokens) ∧
      (word ≠ "COLLATE" → word ∉ column.collationTokens) ∧
      word ∉ column.notNullTokens ∧
      (word ≠ "AUTO_INCREMENT" → word ∉ column.autoIncrementTokens) ∧
      (word ≠ "DEFAULT" → word ∉ column.defaultTokens) ∧
      (word ≠ "COMMENT" → word ∉ column.commentTokens) := by
  have shape :
      ∀ word ∈ columnKeys, isForeign word = true ∧ word.isQuoted = false ∧
        word ≠ " " ∧ word ∉ ["CHARACTER", "SET", "NOT", "NULL"] := by
    decide
  rcases shape word listed with ⟨foreign, unquoted, solid, fixed⟩
  simp only [List.mem_cons, List.not_mem_nil, or_false, not_or] at fixed
  refine ⟨?_, ?_, ?_, ?_, ?_, ?_, ?_⟩
  · have other : word ≠ declared.word := by
      rintro rfl
      exact given.free listed
    rw [headTokens_eq, List.mem_append, List.mem_append, List.mem_singleton,
      not_or, not_or]
    exact ⟨not_mem_name foreign _, other, given.written.not_mem_behind_word foreign⟩
  · intro other
    apply given.charset.not_mem_valueTokens
    · exact (List.mem_erase_of_ne other).mpr listed
    · simp [solid, fixed]
  · intro other
    apply given.collation.not_mem_valueTokens
    · exact (List.mem_erase_of_ne other).mpr listed
    · simp [solid, other]
  · apply not_mem_flagTokens
    simp [solid, fixed]
  · intro other
    apply not_mem_flagTokens
    simp [solid, other]
  · intro other
    apply not_mem_valueTokens_quote unquoted
    simp [solid, other]
  · intro other
    apply not_mem_valueTokens_quote unquoted
    simp [solid, other]

theorem defaultValue_tokens
    (given : column.IsDeclared declared) :
    Fragment.defaultValue (column.tokens declared) =
      .ok column.defaultValue := by
  have whole :
      column.tokens declared =
        (column.headTokens declared ++ column.charsetTokens ++
          column.collationTokens ++ column.notNullTokens ++
          column.autoIncrementTokens) ++
        (column.defaultTokens ++ column.commentTokens) := by
    simp [tokens, clauseTokens]
  have absent : "DEFAULT" ∈ columnKeys := by decide
  rw [whole]
  apply defaultValue_valueTokens
  · simp [given.absent_key absent]
  · simp [given.absent_key absent]

theorem comment_tokens
    (given : column.IsDeclared declared) :
    Fragment.comment (column.tokens declared) = column.comment := by
  have whole :
      column.tokens declared =
        (column.headTokens declared ++ column.charsetTokens ++
          column.collationTokens ++ column.notNullTokens ++
          column.autoIncrementTokens ++ column.defaultTokens) ++
        column.commentTokens := by
    simp [tokens, clauseTokens]
  have listed : "COMMENT" ∈ columnKeys := by decide
  rw [whole]
  apply comment_valueTokens
  simp [given.absent_key listed]

theorem isAutoIncrement_tokens
    (given : column.IsDeclared declared) :
    Fragment.isAutoIncrement (column.tokens declared) =
      column.autoIncrement := by
  have listed : "AUTO_INCREMENT" ∈ columnKeys := by decide
  have own :
      "AUTO_INCREMENT" ∈ column.autoIncrementTokens ↔
        column.autoIncrement = true := by
    cases flag : column.autoIncrement <;>
      simp [autoIncrementTokens, flagTokens, flag]
  rw [Bool.eq_iff_iff, ← own]
  simp [Fragment.isAutoIncrement, tokens, clauseTokens, given.absent_key listed]

theorem collation_tokens
    (given : column.IsDeclared declared) :
    Fragment.collation (column.tokens declared) = column.collation := by
  have whole :
      column.tokens declared =
        (column.headTokens declared ++ column.charsetTokens) ++
        (column.collationTokens ++ (column.notNullTokens ++
          column.autoIncrementTokens ++ column.defaultTokens ++
          column.commentTokens)) := by
    simp [tokens, clauseTokens]
  have listed : "COLLATE" ∈ columnKeys := by decide
  rw [whole]
  apply valueAfter_valueTokens
  · intro rest
    simp [Element.accepts, Element.blank, Token.blank]
  · rfl
  · intro _
    apply Pattern.misses_of_not_mem
    simp [given.absent_key listed]
  · intro empty
    apply Pattern.misses_of_not_mem
    simp [given.absent_key listed]

/-- The name and the type are passed over by the search for a pair of words. -/
theorem misses_headTokens
    (given : column.IsDeclared declared)
    {first second : Token} {rest : List Token}
    (foreign : isForeign first = true)
    (avoids : Avoids second rest)
    (other : "UNSIGNED" ≠ second)
    (pattern : Pattern) :
    Pattern.Misses (.exactly first :: .blank :: .exactly second :: pattern)
      (column.headTokens declared) rest := by
  rw [headTokens_eq]
  apply Pattern.Misses.append
  · exact Pattern.misses_of_not_mem (not_mem_name foreign _) _ _
  apply Pattern.Misses.append
  · apply misses_of_avoids
    rw [List.append_assoc]
    exact avoids.type_append other declared
  · apply Pattern.misses_of_not_mem
    exact given.written.not_mem_behind_word foreign

/--
A pair of words that starts no clause of the column is found nowhere in the
definition, whatever words stand in it.
-/
theorem misses_tokens
    (given : column.IsDeclared declared)
    {first second : Token}
    (foreign : isForeign first = true)
    (charset : column.charset = "" ∨
      first ∉ [" ", "CHARACTER", " ", "SET", " "])
    (notNull : first ∉ column.notNullTokens)
    (fixed : first ∉ [" ", "COLLATE", "AUTO_INCREMENT", "DEFAULT", "COMMENT"])
    (avoided : second ∉ ["UNSIGNED", "CHARACTER", "COLLATE", "NOT",
      "AUTO_INCREMENT", "DEFAULT", "COMMENT"])
    (pattern : Pattern) :
    Pattern.Misses (.exactly first :: .blank :: .exactly second :: pattern)
      (column.tokens declared) [] := by
  rw [List.mem_cons, not_or] at avoided
  have unquoted : first.isQuoted = false := by
    simp only [isForeign, Bool.and_eq_true, Bool.not_eq_true'] at foreign
    exact foreign.1.1
  simp only [List.mem_cons, List.not_mem_nil, or_false, not_or] at fixed
  have behind := column.avoids_behind_collation second
    (fun listed => avoided.2 (List.mem_of_mem_drop (i := 2) listed))
  have collation : first ∉ [" ", "COLLATE", " "] := by
    simp [fixed]
  apply Pattern.Misses.append
  · apply given.misses_headTokens foreign _ (Ne.symm avoided.1)
    rw [List.append_nil]
    exact column.avoids_clauseTokens second avoided.2
  apply Pattern.Misses.append
  · rcases charset with empty | absent
    · simp [charsetTokens, empty, Pattern.Misses]
    · apply misses_valueTokens absent
      rw [List.append_nil]
      apply behind.valueTokens_append
      rintro rfl
      exact avoided.2 (by decide)
  apply Pattern.Misses.append
  · apply misses_valueTokens collation
    rwa [List.append_nil]
  · apply Pattern.misses_of_not_mem
    rw [List.mem_append, not_or]
    exact ⟨notNull, column.absent_behind_notNull unquoted (by simp [fixed])⟩

theorem charset_tokens
    (given : column.IsDeclared declared) :
    Fragment.charset (column.tokens declared) = column.charset := by
  have long :
      Fragment.valueAfter
          [.exactly "CHARACTER", .blank, .exactly "SET", .blank]
          (column.tokens declared) =
        column.charset := by
    apply valueAfter_valueTokens
    · intro rest
      simp [Element.accepts, Element.blank, Token.blank]
    · rfl
    · intro _
      apply Pattern.Misses.append
      · apply given.misses_headTokens (by decide) _ (by decide)
        exact avoids_cons_cons (by decide) _ _
      · exact Pattern.misses_of_not_mem (by decide) _ _
    · intro empty
      have absent : "CHARACTER" ∉ column.notNullTokens :=
        not_mem_flagTokens (by decide) _
      have misses :
          Pattern.Misses [.exactly "CHARACTER", .blank, .exactly "SET", .blank]
            (column.tokens declared) [] :=
        given.misses_tokens (by decide) (Or.inl empty) absent (by decide)
          (by decide) [.blank]
      simpa [tokens, clauseTokens, charsetTokens, empty] using misses
  have listed : "CHARSET" ∈ columnKeys := by decide
  rw [Fragment.charset, long]
  split
  case isTrue empty =>
    rw [String.isEmpty_iff] at empty
    rw [empty]
    apply Fragment.valueAfter_eq_empty
    apply Pattern.misses_of_not_mem
    simp [tokens, clauseTokens, charsetTokens, empty, given.absent_key listed]
  case isFalse => rfl

theorem isNotNull_tokens
    (given : column.IsDeclared declared) :
    Fragment.isNotNull (column.tokens declared) = column.notNull := by
  cases flag : column.notNull with
  | true =>
      have whole :
          column.tokens declared =
            (column.headTokens declared ++ column.charsetTokens ++
              column.collationTokens ++ [" "]) ++
            "NOT" :: Token.blank :: "NULL" :: (column.autoIncrementTokens ++
              (column.defaultTokens ++ column.commentTokens)) := by
        simp [tokens, clauseTokens, notNullTokens, flagTokens, flag, Token.blank]
      rw [Fragment.isNotNull, whole]
      apply Pattern.isSome_find?
      simp [Element.accepts, Element.blank]
  | false =>
      have absent : "NOT" ∉ column.notNullTokens := by
        simp [notNullTokens, flagTokens, flag]
      have misses :
          Pattern.Misses [.exactly "NOT", .blank, .exactly "NULL"]
            (column.tokens declared) [] :=
        given.misses_tokens (by decide) (Or.inr (by decide)) absent (by decide)
          (by decide) []
      rw [Fragment.isNotNull, Pattern.find?_eq_none misses]
      rfl

theorem blank_not_mem_stem
    (given : column.IsDeclared declared) :
    Token.blank ∉ declared.stem := by
  intro member
  rcases List.mem_cons.mp member with word | argument
  · exact (Alphabet.ne_of_spells given.written.spells).1 word.symm
  · exact given.written.not_mem_argumentTokens (by decide) (by decide) argument

theorem dataType_tokens
    (given : column.IsDeclared declared) :
    Fragment.dataType (column.tokens declared) = column.dataType := by
  have clauses := column.head?_clauseTokens
  have tokens :
      column.tokens declared =
        Token.quote .backtick column.name :: " " ::
          (declared.stem ++ (flagTokens [" ", "UNSIGNED"] declared.isUnsigned ++
            column.clauseTokens)) := by
    simp [tokens, headTokens]
  have opens :
      ∀ token ∈ (flagTokens [" ", "UNSIGNED"] declared.isUnsigned ++
          column.clauseTokens).head?, token = Token.blank :=
    head?_flagTokens_append clauses _ _
  have filled : declared.stem ≠ [] := List.cons_ne_nil _ _
  have text := declared.join_stem
  rw [tokens, Fragment.dataType_append filled given.blank_not_mem_stem opens,
    given.same, ← text, String.join_append]
  cases sign : declared.isUnsigned with
  | true => simp [flagTokens]
  | false =>
      have avoids := column.avoids_clauseTokens "UNSIGNED" (by decide)
      have next : column.clauseTokens[1]? ≠ some "UNSIGNED" := by
        generalize column.clauseTokens = clauseTokens at avoids clauses
        rcases clauseTokens with - | ⟨first, - | ⟨second, rest⟩⟩
        · simp
        · simp
        · obtain rfl := clauses first rfl
          simpa [Avoids, Element.accepts, Element.blank] using avoids
      simp [flagTokens, next]

/-- The definition of a column is read as the column. -/
theorem column_tokens
    (given : column.IsDeclared declared) :
    Fragment.column (column.tokens declared) = .ok (some column) := by
  have start :
      ∃ rest, column.tokens declared =
        Token.quote .backtick column.name :: " " :: rest := by
    exact ⟨_, rfl⟩
  rcases start with ⟨rest, start⟩
  have name : column.name.isEmpty = false := by
    simpa using given.name
  have value := given.defaultValue_tokens
  have clauses :
      (⟨column.name, Fragment.dataType (column.tokens declared),
        column.defaultValue, Fragment.comment (column.tokens declared),
        Fragment.isNotNull (column.tokens declared),
        Fragment.isAutoIncrement (column.tokens declared),
        Fragment.charset (column.tokens declared),
        Fragment.collation (column.tokens declared)⟩ : Column) = column := by
    rw [given.dataType_tokens, given.comment_tokens, given.isNotNull_tokens,
      given.isAutoIncrement_tokens, given.charset_tokens, given.collation_tokens]
  rw [start] at value clauses ⊢
  simp [Fragment.column, name, value, bind, Except.bind, pure, Except.pure, clauses]

end Column.IsDeclared

/-! ## The definition as a piece of a body -/

theorem IsBareValue.not_mem_of_punctuation
    {keys : List Token} {value : String}
    (bare : IsBareValue keys value)
    {mark : Token} {key : List Token}
    (listed : mark ∈ punctuation)
    (absent : mark ∉ key) :
    mark ∉ valueTokens key value value := by
  apply SqlCatalog.not_mem_valueTokens absent
  rintro filled rfl
  rcases bare with empty | ⟨spelled, -⟩
  · exact filled empty
  · exact (Alphabet.ne_of_spells spelled).2 listed

/-- The clauses of a column hold no punctuation. -/
theorem Column.IsRenderable.not_mem_clauseTokens
    {column : Column}
    (renderable : column.IsRenderable)
    {mark : Token}
    (listed : mark ∈ punctuation) :
    mark ∉ column.clauseTokens := by
  have shape :
      ∀ mark ∈ punctuation, mark.isQuoted = false ∧
        mark ∉ [" ", "CHARACTER", " ", "SET", " "] ∧
        mark ∉ [" ", "COLLATE", " "] ∧ mark ∉ [" ", "NOT", " ", "NULL"] ∧
        mark ∉ [" ", "AUTO_INCREMENT"] ∧ mark ∉ [" ", "DEFAULT", " "] ∧
        mark ∉ [" ", "COMMENT", " "] := by
    decide
  rcases shape mark listed with
    ⟨unquoted, charset, collation, notNull, increment, value, comment⟩
  simp only [clauseTokens, List.mem_append, not_or]
  refine ⟨?_, ?_, ?_, ?_, ?_, ?_⟩
  · exact renderable.charset.not_mem_of_punctuation listed charset
  · exact renderable.collation.not_mem_of_punctuation listed collation
  · exact not_mem_flagTokens notNull _
  · exact not_mem_flagTokens increment _
  · exact not_mem_valueTokens_quote unquoted value _ _
  · exact not_mem_valueTokens_quote unquoted comment _ _

theorem DataType.IsWritten.isPiece_argumentTokens
    {declared : DataType}
    (written : declared.IsWritten) :
    Fragment.IsPiece declared.argumentTokens := by
  unfold argumentTokens
  split
  case h_1 => exact Fragment.isPiece_of_not_mem (by simp) (by simp) (by simp)
  case h_2 values found =>
    apply Fragment.isPiece_wrap
    · intro member
      rcases written.mem_arguments found member with comma | digits
      · exact absurd comma (by decide)
      · exact absurd digits (by decide)
    · intro member
      rcases written.mem_arguments found member with comma | digits
      · exact absurd comma (by decide)
      · exact absurd digits (by decide)

namespace Column.IsDeclared

variable {column : Column} {declared : DataType}

theorem not_mem_name_word
    (given : column.IsDeclared declared)
    {mark : Token}
    (listed : mark ∈ punctuation) :
    mark ∉ [Token.quote .backtick column.name, " ", declared.word] := by
  have shape : ∀ mark ∈ punctuation, mark.isQuoted = false ∧ mark ≠ " " := by
    decide
  rcases shape mark listed with ⟨unquoted, solid⟩
  have name : mark ≠ Token.quote .backtick column.name :=
    Ne.symm (ne_of_isQuoted (Token.isQuoted_quote _ _) unquoted)
  have word : mark ≠ declared.word := by
    rintro rfl
    exact (Alphabet.ne_of_spells given.written.spells).2 listed
  simp [name, solid, word]

/-- The definition of a column closes its parentheses and hides its commas. -/
theorem isPiece_tokens
    (given : column.IsDeclared declared) :
    Fragment.IsPiece (column.tokens declared) := by
  have whole :
      column.tokens declared =
        [Token.quote .backtick column.name, " ", declared.word] ++
          (declared.argumentTokens ++
            (flagTokens [" ", "UNSIGNED"] declared.isUnsigned ++
              column.clauseTokens)) := by
    simp [tokens, headTokens, DataType.stem]
  have sign {mark : Token} (listed : mark ∈ punctuation) :
      mark ∉ flagTokens [" ", "UNSIGNED"] declared.isUnsigned := by
    apply not_mem_flagTokens
    have absent : ∀ mark ∈ punctuation, mark ∉ [" ", "UNSIGNED"] := by
      decide
    exact absent mark listed
  rw [whole]
  apply Fragment.IsPiece.append
  · apply Fragment.isPiece_of_not_mem
    · exact given.not_mem_name_word (by decide)
    · exact given.not_mem_name_word (by decide)
    · exact given.not_mem_name_word (by decide)
  apply Fragment.IsPiece.append given.written.isPiece_argumentTokens
  apply Fragment.IsPiece.append
  · exact Fragment.isPiece_of_not_mem (sign (by decide)) (sign (by decide))
      (sign (by decide))
  · apply Fragment.isPiece_of_not_mem
    · exact given.not_mem_clauseTokens (by decide)
    · exact given.not_mem_clauseTokens (by decide)
    · exact given.not_mem_clauseTokens (by decide)

theorem semicolon_not_mem_tokens
    (given : column.IsDeclared declared) :
    ";" ∉ column.tokens declared := by
  have name :
      ";" ∉ [Token.quote .backtick column.name, " ", declared.word] :=
    given.not_mem_name_word (by decide)
  have behind :
      ";" ∉ declared.argumentTokens ++
        flagTokens [" ", "UNSIGNED"] declared.isUnsigned :=
    given.written.not_mem_behind_word (by decide)
  have clauses : ";" ∉ column.clauseTokens :=
    given.not_mem_clauseTokens (by decide)
  simp_all [tokens, headTokens, DataType.stem]

end Column.IsDeclared

end SqlCatalog
