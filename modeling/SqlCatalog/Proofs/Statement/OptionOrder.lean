import SqlCatalog.Proofs.Statement.Arrangement
import SqlCatalog.Proofs.Statement.Grammar
import SqlCatalog.Proofs.Token.Spacing

/-!
# Tables with options in any order

The options of a table are looked up in a flat sequence of tokens too, most of
them from the front and the comment from the back, where a key that leaves no
room for a literal does not count.  If the words that start the known options
are reserved for them, each lookup ends in its own option, and the comment has
room enough even at the very end.  So the options may come in any order, and
options that are not known are passed over.
-/

namespace SqlCatalog.Statement

/-! ## The options of a table -/

/-- The words that options are looked up by. -/
def reservedWords : List Token :=
  ["ENGINE", "CHARSET", "CHARACTER", "COLLATE", "COMMENT"]

/-- The keys of options with a bare value. -/
def valueKeys : List (List Token) :=
  [["ENGINE"], ["CHARSET"], ["CHARACTER", " ", "SET"], ["COLLATE"]]

/-- The options that a table may have. -/
inductive IsTableOption : Clause → Prop
  /-- A key and a bare value. -/
  | value {keyword : Token} {rest sign : List Token} {value : Token}
      (listed : keyword :: rest ∈ valueKeys) (signed : sign ∈ signs)
      (spelled : Alphabet.optionValue.spells value = true)
      (free : value ∉ reservedWords) :
      IsTableOption
        ⟨some keyword, keyword :: (rest ++ (sign ++ [value])), value⟩
  /-- A comment. -/
  | comment {sign : List Token} {literal : Token}
      (signed : sign ∈ signs) (quoted : literal.isQuoted = true) :
      IsTableOption
        ⟨some "COMMENT", "COMMENT" :: (sign ++ [literal]), literal.unquote⟩
  /-- Tokens that are not reserved and do not end in a blank. -/
  | other {tokens : List Token}
      (filled : tokens ≠ []) (last : tokens.getLast? ≠ some Token.blank)
      (free : ∀ token ∈ tokens, token ∉ reservedWords) :
      IsTableOption ⟨none, tokens, ""⟩

theorem IsTableOption.isKeyed
    {option : Clause}
    (known : IsTableOption option) :
    option.IsKeyed reservedWords := by
  have signFree : ∀ sign ∈ signs, ∀ token ∈ sign, token ∉ reservedWords := by
    decide
  cases known with
  | @value keyword rest sign value listed signed _ free =>
      have each :
          ∀ key ∈ valueKeys, ∀ token ∈ key.tail, token ∉ reservedWords := by
        decide
      apply Clause.isKeyed_cons
      simp only [List.forall_mem_append, List.forall_mem_singleton]
      exact ⟨each _ listed, signFree sign signed, free⟩
  | @comment sign literal signed quoted =>
      apply Clause.isKeyed_cons
      simp only [List.forall_mem_append, List.forall_mem_singleton]
      exact ⟨signFree sign signed, not_mem_of_isQuoted quoted (by decide)⟩
  | other _ _ free => exact Clause.isKeyed_of_free free _ _

/-- The last token of an option is no blank. -/
theorem IsTableOption.exists_last
    {option : Clause}
    (known : IsTableOption option) :
    ∃ front last, option.tokens = front ++ [last] ∧ last ≠ Token.blank := by
  cases known with
  | @value keyword rest sign value _ _ spelled _ =>
      refine ⟨keyword :: (rest ++ sign), value, by simp, ?_⟩
      rintro rfl
      cases spelled
  | @comment sign literal _ quoted =>
      exact ⟨"COMMENT" :: sign, literal, rfl, ne_of_isQuoted quoted (by decide)⟩
  | @other tokens filled last _ =>
      refine ⟨tokens.dropLast, tokens.getLast filled,
        (List.dropLast_append_getLast filled).symm, ?_⟩
      rintro blank
      rw [List.getLast?_eq_some_getLast filled, blank] at last
      exact last rfl

/-! ## Options by their keywords -/

section Keywords

variable {option : Clause} (known : IsTableOption option)

include known

theorem IsTableOption.of_value
    {keyword : Token} {rest : List Token}
    (listed : keyword :: rest ∈ valueKeys)
    (own : option.keyword? = some keyword) :
    Alphabet.optionValue.spells option.text = true ∧
      ∃ sign ∈ signs,
        option.tokens = keyword :: (rest ++ (sign ++ [option.text])) := by
  have each :
      ∀ key ∈ valueKeys, ∀ other ∈ valueKeys,
        key.head? = other.head? → key = other := by
    decide
  have apart : ∀ key ∈ valueKeys, some "COMMENT" ≠ key.head? := by
    decide
  cases known with
  | @value first later sign value also signed spelled =>
      have same := each _ also _ listed own
      injection same with first later
      subst first later
      exact ⟨spelled, sign, signed, rfl⟩
  | comment => exact absurd own (apart _ listed)
  | other => cases own

theorem IsTableOption.of_comment
    (own : option.keyword? = some "COMMENT") :
    ∃ sign ∈ signs, ∃ literal : Token, literal.isQuoted = true ∧
      option.tokens = "COMMENT" :: (sign ++ [literal]) ∧
      option.text = literal.unquote := by
  have apart : ∀ key ∈ valueKeys, key.head? ≠ some "COMMENT" := by
    decide
  cases known with
  | value listed => exact absurd own (apart _ listed)
  | comment signed quoted => exact ⟨_, signed, _, quoted, rfl, rfl⟩
  | other => cases own

end Keywords

/-! ## Statements with arranged options -/

/-- The table that a name and options declare. -/
def declared (name : String) (options : List Clause) : Table where
  name := name
  comment := Clause.textOf "COMMENT" options
  engine := Clause.textOf "ENGINE" options
  charset :=
    if Clause.has "CHARSET" options then Clause.textOf "CHARSET" options
    else Clause.textOf "CHARACTER" options
  collation := Clause.textOf "COLLATE" options

section Lookups

variable {options : List Clause}
  (each : ∀ option ∈ options, IsTableOption option)

include each

/-- Of arranged options, trimming takes off the first blank and no more. -/
theorem trim_arrange
    {tokens : List Token}
    (parts : Clause.arrange options = Token.blank :: tokens) :
    Token.trim (Clause.arrange options) = tokens := by
  rw [parts]
  apply Token.trim_blank_cons
  obtain rfl | ⟨front, option, rfl⟩ := List.eq_nil_or_concat' options
  · cases parts
  · obtain ⟨inside, last, ends, solid⟩ :=
      (each option (by simp)).exists_last
    intro ending
    obtain ⟨before, rfl⟩ := List.getLast?_eq_some_iff.mp ending
    have whole :
        (Clause.arrange front ++ Token.blank :: inside) ++ [last] =
          (Token.blank :: before) ++ [Token.blank] := by
      rw [List.cons_append, ← parts]
      simp [Clause.arrange, ends]
    exact solid (List.cons.inj (List.append_inj' whole rfl).2).1

/-- A reserved word stands nowhere, or first in the first option of its own. -/
theorem arrange_cases
    (keyword : Token)
    (listed : keyword ∈ reservedWords) :
    (Clause.find? keyword options = none ∧
      keyword ∉ Token.trim (Clause.arrange options)) ∨
    ∃ option before behind,
      Clause.find? keyword options = some option ∧ IsTableOption option ∧
        option.keyword? = some keyword ∧
        Token.trim (Clause.arrange options) =
          before ++ (option.tokens ++ behind) ∧
        keyword ∉ before ∧ (Clause.Distinct options → keyword ∉ behind) := by
  rcases Clause.arrange_cases listed (by decide)
      (fun option member => (each option member).isKeyed) with
    ⟨absent, nowhere⟩ |
    ⟨option, before, behind, found, inside, own, parts, first, last⟩
  · exact Or.inl ⟨absent, fun member => nowhere ((Token.infix_trim _).subset member)⟩
  · exact Or.inr ⟨option, before, behind, found, each option inside, own,
      trim_arrange each parts, first, last⟩

theorem hasValue_arrange
    {keyword : Token} {rest : List Token}
    (listed : keyword :: rest ∈ valueKeys) :
    HasValue (keyword :: rest) (Token.trim (Clause.arrange options))
      (Clause.textOf keyword options) := by
  have reserved : ∀ key ∈ valueKeys, ∀ word ∈ key.head?, word ∈ reservedWords := by
    decide
  rcases arrange_cases each keyword (reserved _ listed keyword rfl) with
    ⟨absent, nowhere⟩ | ⟨option, before, behind, found, known, own, parts, first, -⟩
  · rw [Clause.textOf_eq_empty absent]
    exact .of_not_mem nowhere rest
  · obtain ⟨spelled, sign, signed, tokens⟩ := known.of_value listed own
    have whole :
        (keyword :: (rest ++ (sign ++ [option.text]))) ++ behind =
          keyword :: (rest ++ (sign ++ option.text :: behind)) := by
      simp
    rw [parts, tokens, Clause.textOf_eq found, whole]
    exact .of_append first signed spelled behind

theorem hasCharset_arrange :
    HasCharset (Token.trim (Clause.arrange options))
      (if Clause.has "CHARSET" options then Clause.textOf "CHARSET" options
        else Clause.textOf "CHARACTER" options) := by
  have listed : ["CHARSET"] ∈ valueKeys := by decide
  have also : ["CHARACTER", " ", "SET"] ∈ valueKeys := by decide
  have short := hasValue_arrange each listed
  have long := hasValue_arrange each also
  rcases arrange_cases each "CHARSET" (by decide) with
    ⟨absent, -⟩ | ⟨option, -, -, found, known, own, -, -, -⟩
  · rw [Clause.textOf_eq_empty absent] at short
    rw [Clause.has_eq_false absent]
    exact .long short long
  · rw [Clause.has_eq_true found, if_pos rfl]
    refine .short short ?_
    rw [Clause.textOf_eq found]
    obtain ⟨spelled, -⟩ := known.of_value listed own
    intro empty
    rw [empty] at spelled
    cases spelled

theorem hasComment_arrange
    (distinct : Clause.Distinct options) :
    HasComment (Token.trim (Clause.arrange options))
      (Clause.textOf "COMMENT" options) := by
  rcases arrange_cases each "COMMENT" (by decide) with
    ⟨absent, nowhere⟩ | ⟨option, before, behind, found, known, own, parts, -, last⟩
  · rw [Clause.textOf_eq_empty absent]
    exact .of_not_mem nowhere
  · obtain ⟨sign, signed, literal, quoted, tokens, text⟩ := known.of_comment own
    have whole :
        ("COMMENT" :: (sign ++ [literal])) ++ behind =
          "COMMENT" :: (sign ++ literal :: behind) := by
      simp
    rw [parts, tokens, Clause.textOf_eq found, text, whole]
    exact .of_append before signed quoted (last distinct)

/-- A definition with these options is read as the table that they declare. -/
theorem clauses_arrange
    {header body identifiers : List Token}
    (noOpen : "(" ∉ header)
    (balanced : Bracket.Balanced body)
    (identifies : Identifies header identifiers)
    (filled : "" ∉ identifiers.map Token.unquote)
    (distinct : Clause.Distinct options) :
    clauses (header ++ "(" :: (body ++ ")" :: Clause.arrange options)) =
      .ok (some
        { table := declared (joinedName identifiers) options
          body := Token.trim body }) := by
  have engine : ["ENGINE"] ∈ valueKeys := by decide
  have collation : ["COLLATE"] ∈ valueKeys := by decide
  exact Reads.clauses_eq
    (.definition ⟨rfl, noOpen, balanced⟩ identifies filled
      (hasComment_arrange each distinct) (hasValue_arrange each engine)
      (hasCharset_arrange each) (hasValue_arrange each collation))

end Lookups

/-- What options declare depends on their keywords alone. -/
theorem declared_congr
    {options others : List Clause}
    (same : ∀ keyword, Clause.find? keyword options = Clause.find? keyword others)
    (name : String) :
    declared name options = declared name others := by
  have texts (keyword : Token) :
      Clause.textOf keyword options = Clause.textOf keyword others :=
    Clause.textOf_congr (same keyword)
  have given (keyword : Token) :
      Clause.has keyword options = Clause.has keyword others :=
    Clause.has_congr (same keyword)
  rw [declared, declared]
  simp only [texts, given]

/--
The options of a table may come in any order, and those that are not known do
not matter: the table is what its name and the known options declare.
-/
theorem clauses_any_order
    {header body identifiers : List Token} {options permuted : List Clause}
    (noOpen : "(" ∉ header)
    (balanced : Bracket.Balanced body)
    (identifies : Identifies header identifiers)
    (filled : "" ∉ identifiers.map Token.unquote)
    (each : ∀ option ∈ options, IsTableOption option)
    (distinct : Clause.Distinct options)
    (same : permuted.Perm options) :
    clauses (header ++ "(" :: (body ++ ")" :: Clause.arrange permuted)) =
        .ok (some
          { table := declared (joinedName identifiers) options
            body := Token.trim body }) ∧
      declared (joinedName identifiers) options =
        declared (joinedName identifiers) (Clause.known options) := by
  constructor
  · have also : ∀ option ∈ permuted, IsTableOption option :=
      fun option member => each option (same.subset member)
    rw [clauses_arrange also noOpen balanced identifies filled
        (distinct.perm same),
      declared_congr (distinct.find?_perm same)]
  · apply declared_congr
    intro keyword
    exact (Clause.find?_known keyword options).symm

/--
Options in reverse order, in which the comment comes last in its shortest form
and one option that is not known holds words of the header.
-/
theorem clauses_any_order_reversed :
    let header := ["CREATE", " ", "TABLE", " ", "'d'", ".", "'t'", " "]
    let options : List Clause :=
      [⟨some "COMMENT", ["COMMENT", " ", "'x'"], Token.unquote "'x'"⟩,
        ⟨some "ENGINE", ["ENGINE", " ", "=", " ", "SET"], "SET"⟩,
        ⟨none, ["CREATE", " ", "TABLE", " ", "=", ")"], ""⟩,
        ⟨some "CHARACTER", ["CHARACTER", " ", "SET", "=", "U8"], "U8"⟩,
        ⟨none, ["DEFAULT"], ""⟩]
    clauses (header ++ "(" :: ([" "] ++ ")" :: Clause.arrange options.reverse)) =
      .ok (some
        { table :=
            { name := "d.t", comment := "x", engine := "SET", charset := "U8" }
          body := [] }) := by
  intro header options
  have listed : ["CREATE", " ", "TABLE", " "] ∈ headerStarts := by decide
  have identifies : Identifies header ["'d'", "'t'"] :=
    .qualified listed (by decide) (by decide)
  have balanced : Bracket.Balanced [" "] :=
    Bracket.balanced_of_not_mem (by decide) (by decide)
  have engine :
      IsTableOption
        ⟨some "ENGINE", ["ENGINE", " ", "=", " ", "SET"], "SET"⟩ := by
    have key : ["ENGINE"] ∈ valueKeys := by decide
    have sign : [" ", "=", " "] ∈ signs := by decide
    exact .value key sign (by decide) (by decide)
  have charset :
      IsTableOption
        ⟨some "CHARACTER", ["CHARACTER", " ", "SET", "=", "U8"], "U8"⟩ := by
    have key : ["CHARACTER", " ", "SET"] ∈ valueKeys := by decide
    have sign : ["="] ∈ signs := by decide
    exact .value key sign (by decide) (by decide)
  have comment :
      IsTableOption
        ⟨some "COMMENT", ["COMMENT", " ", "'x'"], Token.unquote "'x'"⟩ := by
    have sign : [" "] ∈ signs := by decide
    exact .comment sign (by decide)
  have each : ∀ option ∈ options, IsTableOption option := by
    simp only [options, List.forall_mem_cons]
    exact ⟨comment, engine, .other (by decide) (by decide) (by decide), charset,
      .other (by decide) (by decide) (by decide), by simp⟩
  have distinct : Clause.Distinct options := by
    simp only [options, Clause.Distinct]
    decide
  have read :=
    (clauses_any_order (by decide) balanced identifies (by decide +kernel) each
      distinct (List.reverse_perm options)).1
  rw [read]
  decide +kernel

end SqlCatalog.Statement
