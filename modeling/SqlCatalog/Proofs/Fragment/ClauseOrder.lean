import SqlCatalog.Proofs.Fragment.Pieces
import SqlCatalog.Proofs.Statement.Arrangement
import SqlCatalog.Proofs.Statement.Lookup

/-!
# Columns with clauses in any order

The clauses of a column are looked up one by one in a flat sequence of tokens.
A value could be taken for a keyword, and a pattern could reach from one clause
into the next.  Neither happens as long as the words that start the known
clauses are reserved for them: then every lookup ends in the clause that it is
meant for.  So the clauses may come in any order, and clauses that are not known
are passed over, whatever other tokens they hold.
-/

namespace SqlCatalog.Fragment

/-! ## The clauses of a column -/

/-- The words that clauses are looked up by. -/
def reservedWords : List Token :=
  ["DEFAULT", "COMMENT", "NOT", "AUTO_INCREMENT", "CHARACTER", "CHARSET",
    "COLLATE", "UNSIGNED"]

/-- The clauses that are what they say. -/
def flags : List (List Token) :=
  [["NOT", " ", "NULL"], ["AUTO_INCREMENT"]]

/-- The keys behind which any token is a value. -/
def valueKeys : List (List Token) :=
  [["CHARACTER", " ", "SET", " "], ["CHARSET", " "], ["COLLATE", " "]]

/-- The tokens of a default value and the text that they stand for. -/
inductive IsDefault : List Token → String → Prop
  /-- A literal stands for its value. -/
  | literal {literal : Token}
      (quoted : literal.isQuoted = true) :
      IsDefault [literal] literal.unquote
  /-- An expression stands for the text between its parentheses. -/
  | expression {inside : List Token}
      (balanced : Bracket.Balanced inside)
      (free : ∀ token ∈ inside, token ∉ reservedWords) :
      IsDefault ("(" :: (inside ++ [")"])) (String.join inside)
  /-- Another word stands for itself if it is a keyword, else for nothing. -/
  | word {word : Token}
      (bare : word.isQuoted = false) (unopened : word ≠ "(")
      (free : word ∉ reservedWords) :
      IsDefault [word] (if word ∈ defaultKeywords then word else "")

/-- The clauses that a column may have. -/
inductive IsColumnClause : Clause → Prop
  /-- A flag. -/
  | flag {keyword : Token} {rest : List Token}
      (listed : keyword :: rest ∈ flags) :
      IsColumnClause ⟨some keyword, keyword :: rest, ""⟩
  /-- A character set or a collation. -/
  | value {keyword : Token} {rest : List Token} {value : Token}
      (listed : keyword :: rest ∈ valueKeys)
      (filled : value ≠ "") (free : value ∉ reservedWords) :
      IsColumnClause ⟨some keyword, keyword :: (rest ++ [value]), value⟩
  /-- A comment. -/
  | comment {literal : Token}
      (quoted : literal.isQuoted = true) :
      IsColumnClause
        ⟨some "COMMENT", ["COMMENT", " ", literal], literal.unquote⟩
  /-- A default value. -/
  | default {value : List Token} {text : String}
      (given : IsDefault value text) :
      IsColumnClause ⟨some "DEFAULT", "DEFAULT" :: " " :: value, text⟩
  /-- Any tokens that are not reserved. -/
  | other {tokens : List Token}
      (free : ∀ token ∈ tokens, token ∉ reservedWords) :
      IsColumnClause ⟨none, tokens, ""⟩

/-- The tokens of a default value are not reserved. -/
theorem IsDefault.free
    {value : List Token} {text : String}
    (given : IsDefault value text) :
    ∀ token ∈ value, token ∉ reservedWords := by
  cases given with
  | literal quoted =>
      simpa using not_mem_of_isQuoted quoted (by decide)
  | expression _ free =>
      intro token member
      rw [List.mem_cons, List.mem_append, List.mem_singleton] at member
      rcases member with rfl | inside | rfl
      · decide
      · exact free token inside
      · decide
  | word _ _ free => simpa using free

theorem IsColumnClause.isKeyed
    {clause : Clause}
    (known : IsColumnClause clause) :
    clause.IsKeyed reservedWords := by
  have blank : " " ∉ reservedWords := by decide
  have each :
      ∀ key ∈ flags ++ valueKeys, ∀ token ∈ key.tail, token ∉ reservedWords := by
    decide
  cases known with
  | @flag keyword rest listed =>
      exact Clause.isKeyed_cons (each _ (List.mem_append_left _ listed)) _
  | @value keyword rest value listed _ free =>
      apply Clause.isKeyed_cons
      simp only [List.forall_mem_append, List.forall_mem_singleton]
      exact ⟨each _ (List.mem_append_right _ listed), free⟩
  | comment quoted =>
      apply Clause.isKeyed_cons
      rw [List.forall_mem_cons, List.forall_mem_singleton]
      exact ⟨blank, not_mem_of_isQuoted quoted (by decide)⟩
  | default given =>
      apply Clause.isKeyed_cons
      rw [List.forall_mem_cons]
      exact ⟨blank, given.free⟩
  | other free => exact Clause.isKeyed_of_free free _ _

/-! ## Clauses by their keywords -/

section Keywords

variable {clause : Clause} (known : IsColumnClause clause)

include known

theorem IsColumnClause.of_flag
    {keyword : Token} {rest : List Token}
    (listed : keyword :: rest ∈ flags)
    (own : clause.keyword? = some keyword) :
    clause.tokens = keyword :: rest := by
  have each :
      ∀ key ∈ flags, ∀ other ∈ flags, key.head? = other.head? → key = other := by
    decide
  have apart :
      ∀ key ∈ flags, ∀ other ∈ valueKeys ++ [["COMMENT"], ["DEFAULT"]],
        other.head? ≠ key.head? := by
    decide
  cases known with
  | flag also => exact each _ also _ listed own
  | value also => exact absurd own (apart _ listed _ (List.mem_append_left _ also))
  | comment => exact absurd own (apart _ listed ["COMMENT"] (by decide))
  | default => exact absurd own (apart _ listed ["DEFAULT"] (by decide))
  | other => cases own

theorem IsColumnClause.of_value
    {keyword : Token} {rest : List Token}
    (listed : keyword :: rest ∈ valueKeys)
    (own : clause.keyword? = some keyword) :
    clause.tokens = keyword :: (rest ++ [clause.text]) ∧ clause.text ≠ "" := by
  have each :
      ∀ key ∈ valueKeys, ∀ other ∈ valueKeys,
        key.head? = other.head? → key = other := by
    decide
  have apart :
      ∀ key ∈ valueKeys, ∀ other ∈ flags ++ [["COMMENT"], ["DEFAULT"]],
        other.head? ≠ key.head? := by
    decide
  cases known with
  | flag also => exact absurd own (apart _ listed _ (List.mem_append_left _ also))
  | value also filled =>
      have same := each _ also _ listed own
      injection same with first later
      subst first later
      exact ⟨rfl, filled⟩
  | comment => exact absurd own (apart _ listed ["COMMENT"] (by decide))
  | default => exact absurd own (apart _ listed ["DEFAULT"] (by decide))
  | other => cases own

theorem IsColumnClause.of_comment
    (own : clause.keyword? = some "COMMENT") :
    ∃ literal : Token, literal.isQuoted = true ∧
      clause.tokens = ["COMMENT", " ", literal] ∧
      clause.text = literal.unquote := by
  have apart :
      ∀ key ∈ flags ++ valueKeys, key.head? ≠ some "COMMENT" := by
    decide
  cases known with
  | flag listed => exact absurd own (apart _ (List.mem_append_left _ listed))
  | value listed => exact absurd own (apart _ (List.mem_append_right _ listed))
  | comment quoted => exact ⟨_, quoted, rfl, rfl⟩
  | default => simp at own
  | other => cases own

theorem IsColumnClause.of_default
    (own : clause.keyword? = some "DEFAULT") :
    ∃ value text, IsDefault value text ∧
      clause.tokens = "DEFAULT" :: " " :: value ∧ clause.text = text := by
  have apart :
      ∀ key ∈ flags ++ valueKeys, key.head? ≠ some "DEFAULT" := by
    decide
  cases known with
  | flag listed => exact absurd own (apart _ (List.mem_append_left _ listed))
  | value listed => exact absurd own (apart _ (List.mem_append_right _ listed))
  | comment => simp at own
  | default given => exact ⟨_, _, given, rfl, rfl⟩
  | other => cases own

theorem IsColumnClause.not_unsigned :
    clause.keyword? ≠ some "UNSIGNED" := by
  have apart :
      ∀ key ∈ flags ++ valueKeys, key.head? ≠ some "UNSIGNED" := by
    decide
  cases known with
  | flag listed => exact apart _ (List.mem_append_left _ listed)
  | value listed => exact apart _ (List.mem_append_right _ listed)
  | comment => simp
  | default => simp
  | other => simp

end Keywords

/-! ## Fragments made of clauses -/

/-- The text of an expression in the first default clause. -/
theorem defaultValue_append_expression
    {front inside : List Token}
    (absent : "DEFAULT" ∉ front)
    (balanced : Bracket.Balanced inside)
    (back : List Token) :
    defaultValue
        (front ++ "DEFAULT" :: Token.blank :: "(" :: (inside ++ ")" :: back)) =
      .ok (String.join inside) := by
  have clause :
      ("DEFAULT" :: Token.blank :: "(" :: (inside ++ ")" :: back)).dropWhile
          (· != "DEFAULT") =
        "DEFAULT" :: Token.blank :: "(" :: (inside ++ ")" :: back) := by
    simp
  have bare : Token.isQuoted "(" = false := by decide
  have closed :
      Bracket.closing
          ("DEFAULT" :: Token.blank :: "(" :: (inside ++ ")" :: back)) 2 =
        .ok (2 + inside.length + 1) :=
    Bracket.closing_of_balanced balanced ["DEFAULT", Token.blank] back
  have text :
      (("DEFAULT" :: Token.blank :: "(" :: (inside ++ ")" :: back)).take
        (2 + inside.length + 1)).drop 3 = inside := by
    rw [Nat.add_comm 2, Nat.add_assoc]
    simp
  rw [defaultValue, dropWhile_append_of_not_mem absent, clause]
  simp only [defaultClause, Pattern.fits_cons_cons, Pattern.fits_nil,
    Element.accepts, Element.blank, beq_self_eq_true, bare, closed, text,
    Bool.and_true, Bool.and_false, Bool.false_eq_true, if_false, if_true]

/-- What stands in front of the clauses: a name and a type. -/
structure IsHead (name : Token) (type : List Token) : Prop where
  /-- The name is a quoted token. -/
  quoted : name.isQuoted = true
  /-- The name is not empty. -/
  named : name.unquote ≠ ""
  /-- There is a type. -/
  filled : type ≠ []
  /-- No blank stands in the type. -/
  solid : Token.blank ∉ type
  /-- No token of the type is reserved. -/
  free : ∀ token ∈ type, token ∉ reservedWords

/-- The mark of numbers without a sign. -/
def signTokens (unsigned : Bool) : List Token :=
  if unsigned then [Token.blank, "UNSIGNED"] else []

/-- A fragment with the given clauses behind name and type. -/
def ofClauses (name : Token) (type : List Token) (unsigned : Bool)
    (clauses : List Clause) : List Token :=
  name :: Token.blank ::
    (type ++ (signTokens unsigned ++ Clause.arrange clauses))

/-- The column that name, type and clauses declare. -/
def declared (name : Token) (type : List Token) (unsigned : Bool)
    (clauses : List Clause) : Column where
  name := name.unquote
  dataType := String.join type ++ if unsigned then " UNSIGNED" else ""
  defaultValue := Clause.textOf "DEFAULT" clauses
  comment := Clause.textOf "COMMENT" clauses
  notNull := Clause.has "NOT" clauses
  autoIncrement := Clause.has "AUTO_INCREMENT" clauses
  charset :=
    if Clause.has "CHARACTER" clauses then Clause.textOf "CHARACTER" clauses
    else Clause.textOf "CHARSET" clauses
  collation := Clause.textOf "COLLATE" clauses

/-- Name, type and sign hold no reserved word but that of the sign. -/
theorem IsHead.not_mem
    {name keyword : Token} {type : List Token}
    (head : IsHead name type)
    (listed : keyword ∈ reservedWords) (other : keyword ≠ "UNSIGNED")
    (unsigned : Bool) :
    keyword ∉ name :: Token.blank :: (type ++ signTokens unsigned) := by
  have first : keyword ≠ name := by
    rintro rfl
    exact not_mem_of_isQuoted head.quoted (by decide) listed
  have gap : keyword ≠ Token.blank := by
    rintro rfl
    exact absurd listed (by decide)
  have inside : keyword ∉ type := fun member => head.free keyword member listed
  have sign : keyword ∉ signTokens unsigned := by
    cases unsigned with
    | true => simp [signTokens, gap, other]
    | false => simp [signTokens]
  simp [first, gap, inside, sign]

section Lookups

variable {name : Token} {type : List Token} (head : IsHead name type)
  (unsigned : Bool) {clauses : List Clause}
  (each : ∀ clause ∈ clauses, IsColumnClause clause)

include head each

/-- A reserved word stands nowhere, or first in the first clause of its own. -/
theorem ofClauses_cases
    (keyword : Token)
    (listed : keyword ∈ reservedWords) (other : keyword ≠ "UNSIGNED") :
    (Clause.find? keyword clauses = none ∧
      keyword ∉ ofClauses name type unsigned clauses) ∨
    ∃ clause before behind,
      Clause.find? keyword clauses = some clause ∧ IsColumnClause clause ∧
        clause.keyword? = some keyword ∧ keyword ∉ before ∧
        ofClauses name type unsigned clauses =
          before ++ (clause.tokens ++ behind) := by
  have solid : Token.blank ∉ reservedWords := by decide
  have gap : keyword ≠ Token.blank := by
    rintro rfl
    exact solid listed
  have front := head.not_mem listed other unsigned
  rcases Clause.arrange_cases listed solid
      (fun clause member => (each clause member).isKeyed) with
    ⟨absent, nowhere⟩ | ⟨clause, before, behind, found, inside, own, parts, first, -⟩
  · refine Or.inl ⟨absent, ?_⟩
    have whole :
        ofClauses name type unsigned clauses =
          (name :: Token.blank :: (type ++ signTokens unsigned)) ++
            Clause.arrange clauses := by
      simp [ofClauses]
    rw [whole, List.mem_append, not_or]
    exact ⟨front, nowhere⟩
  · refine Or.inr ⟨clause,
      (name :: Token.blank :: (type ++ signTokens unsigned)) ++
        Token.blank :: before, behind, found, each clause inside, own, ?_, ?_⟩
    · intro member
      rcases List.mem_append.mp member with inside | inside
      · exact front inside
      · exact (List.mem_cons.mp inside).elim gap first
    · simp [ofClauses, parts]

theorem defaultValue_ofClauses :
    defaultValue (ofClauses name type unsigned clauses) =
      .ok (Clause.textOf "DEFAULT" clauses) := by
  rcases ofClauses_cases head unsigned each "DEFAULT" (by decide) (by decide) with
    ⟨absent, nowhere⟩ | ⟨clause, before, behind, found, known, own, first, parts⟩
  · rw [defaultValue_of_not_mem nowhere, Clause.textOf_eq_empty absent]
  · obtain ⟨value, text, given, tokens, same⟩ := known.of_default own
    rw [parts, tokens, Clause.textOf_eq found, same]
    cases given with
    | literal quoted => exact defaultValue_append_literal first quoted behind
    | @expression inside balanced _ =>
        have whole :
            ("DEFAULT" :: " " :: "(" :: (inside ++ [")"])) ++ behind =
              "DEFAULT" :: Token.blank :: "(" :: (inside ++ ")" :: behind) := by
          simp [Token.blank]
        rw [whole]
        exact defaultValue_append_expression first balanced behind
    | word bare unopened _ =>
        exact defaultValue_append_word first bare unopened behind

theorem comment_ofClauses :
    comment (ofClauses name type unsigned clauses) =
      Clause.textOf "COMMENT" clauses := by
  rcases ofClauses_cases head unsigned each "COMMENT" (by decide) (by decide) with
    ⟨absent, nowhere⟩ | ⟨clause, before, behind, found, known, own, first, parts⟩
  · rw [comment_of_not_mem nowhere, Clause.textOf_eq_empty absent]
  · obtain ⟨literal, quoted, tokens, text⟩ := known.of_comment own
    rw [parts, tokens, Clause.textOf_eq found, text]
    exact comment_append_literal first quoted behind

theorem valueAfter_ofClauses
    {keyword : Token} {rest : List Token}
    (listed : keyword :: rest ∈ valueKeys) :
    valueAfter ((keyword :: rest).map Element.exactly)
        (ofClauses name type unsigned clauses) =
      Clause.textOf keyword clauses := by
  have reserved :
      ∀ key ∈ valueKeys, ∀ word ∈ key.head?,
        word ∈ reservedWords ∧ word ≠ "UNSIGNED" := by
    decide
  obtain ⟨member, other⟩ := reserved _ listed keyword rfl
  rcases ofClauses_cases head unsigned each keyword member other with
    ⟨absent, nowhere⟩ | ⟨clause, before, behind, found, known, own, first, parts⟩
  · rw [List.map_cons,
      valueAfter_eq_empty (Pattern.misses_of_not_mem nowhere _ _),
      Clause.textOf_eq_empty absent]
  · obtain ⟨tokens, -⟩ := known.of_value listed own
    have whole :
        (keyword :: (rest ++ [clause.text])) ++ behind =
          (keyword :: rest) ++ clause.text :: behind := by
      simp
    rw [parts, tokens, Clause.textOf_eq found, whole]
    apply valueAfter_append
    · exact Pattern.misses_of_not_mem first _ _
    · exact Pattern.fits_exactly (keyword :: rest) _
    · simp

theorem charset_ofClauses :
    charset (ofClauses name type unsigned clauses) =
      if Clause.has "CHARACTER" clauses then Clause.textOf "CHARACTER" clauses
      else Clause.textOf "CHARSET" clauses := by
  have listed : ["CHARACTER", " ", "SET", " "] ∈ valueKeys := by decide
  have also : ["CHARSET", " "] ∈ valueKeys := by decide
  have long :
      valueAfter [.exactly "CHARACTER", .blank, .exactly "SET", .blank]
        (ofClauses name type unsigned clauses) = Clause.textOf "CHARACTER" clauses :=
    valueAfter_ofClauses head unsigned each listed
  have short :
      valueAfter [.exactly "CHARSET", .blank]
        (ofClauses name type unsigned clauses) = Clause.textOf "CHARSET" clauses :=
    valueAfter_ofClauses head unsigned each also
  rw [charset, long, short]
  rcases ofClauses_cases head unsigned each "CHARACTER" (by decide) (by decide) with
    ⟨absent, -⟩ | ⟨clause, -, -, found, known, own, -, -⟩
  · rw [Clause.has_eq_false absent, Clause.textOf_eq_empty absent]
    rfl
  · have filled : clause.text ≠ "" := (known.of_value listed own).2
    rw [Clause.has_eq_true found, Clause.textOf_eq found]
    simp [filled]

theorem isNotNull_ofClauses :
    isNotNull (ofClauses name type unsigned clauses) =
      Clause.has "NOT" clauses := by
  rcases ofClauses_cases head unsigned each "NOT" (by decide) (by decide) with
    ⟨absent, nowhere⟩ | ⟨clause, before, behind, found, known, own, first, parts⟩
  · rw [isNotNull, Pattern.find?_eq_none (Pattern.misses_of_not_mem nowhere _ _),
      Clause.has_eq_false absent]
    rfl
  · have tokens : clause.tokens = ["NOT", " ", "NULL"] :=
      known.of_flag (by decide) own
    rw [isNotNull, parts, tokens, Clause.has_eq_true found]
    have fit := Pattern.fits_exactly ["NOT", " ", "NULL"] behind
    exact Pattern.isSome_find? fit before

theorem isAutoIncrement_ofClauses :
    isAutoIncrement (ofClauses name type unsigned clauses) =
      Clause.has "AUTO_INCREMENT" clauses := by
  rcases ofClauses_cases head unsigned each "AUTO_INCREMENT" (by decide)
      (by decide) with
    ⟨absent, nowhere⟩ | ⟨clause, before, behind, found, known, own, first, parts⟩
  · rw [Clause.has_eq_false absent]
    simpa [isAutoIncrement] using nowhere
  · have tokens : clause.tokens = ["AUTO_INCREMENT"] :=
      known.of_flag (by decide) own
    rw [isAutoIncrement, parts, tokens, Clause.has_eq_true found]
    simp

theorem dataType_ofClauses :
    dataType (ofClauses name type unsigned clauses) =
      String.join type ++ if unsigned then " UNSIGNED" else "" := by
  have opens :
      ∀ token ∈ (signTokens unsigned ++ Clause.arrange clauses).head?,
        token = Token.blank := by
    cases unsigned with
    | true => simp [signTokens]
    | false => exact Clause.head?_arrange clauses
  have absent : "UNSIGNED" ∉ Clause.arrange clauses := by
    have listed : "UNSIGNED" ∈ reservedWords := by decide
    apply Clause.not_mem_arrange listed (by decide)
    · exact fun clause member => (each clause member).isKeyed
    · intro clause member own
      exact (each clause member).not_unsigned own
  rw [ofClauses, dataType_append head.filled head.solid opens]
  cases unsigned with
  | true => simp [signTokens]
  | false =>
      have next : (Clause.arrange clauses)[1]? ≠ some "UNSIGNED" :=
        fun found => absent (List.mem_of_getElem? found)
      simp [signTokens, next]

theorem collation_ofClauses :
    collation (ofClauses name type unsigned clauses) =
      Clause.textOf "COLLATE" clauses := by
  have listed : ["COLLATE", " "] ∈ valueKeys := by decide
  exact valueAfter_ofClauses head unsigned each listed

/-- The column that a fragment with these clauses defines. -/
theorem column_ofClauses :
    column (ofClauses name type unsigned clauses) =
      .ok (some (declared name type unsigned clauses)) := by
  have value := defaultValue_ofClauses head unsigned each
  have fields :
      (⟨name.unquote, dataType (ofClauses name type unsigned clauses),
        Clause.textOf "DEFAULT" clauses,
        comment (ofClauses name type unsigned clauses),
        isNotNull (ofClauses name type unsigned clauses),
        isAutoIncrement (ofClauses name type unsigned clauses),
        charset (ofClauses name type unsigned clauses),
        collation (ofClauses name type unsigned clauses)⟩ : Column) =
      declared name type unsigned clauses := by
    rw [dataType_ofClauses head unsigned each, comment_ofClauses head unsigned each,
      isNotNull_ofClauses head unsigned each,
      isAutoIncrement_ofClauses head unsigned each,
      charset_ofClauses head unsigned each, collation_ofClauses head unsigned each,
      declared]
  have named : name.unquote.isEmpty = false := by
    simpa using head.named
  rw [ofClauses] at value fields ⊢
  simp [column, head.quoted, named, value, bind, Except.bind, pure, Except.pure,
    fields]

end Lookups

/-- What clauses declare depends on their keywords alone. -/
theorem declared_congr
    {clauses others : List Clause}
    (same : ∀ keyword, Clause.find? keyword clauses = Clause.find? keyword others)
    (name : Token) (type : List Token) (unsigned : Bool) :
    declared name type unsigned clauses = declared name type unsigned others := by
  have texts (keyword : Token) :
      Clause.textOf keyword clauses = Clause.textOf keyword others :=
    Clause.textOf_congr (same keyword)
  have given (keyword : Token) :
      Clause.has keyword clauses = Clause.has keyword others :=
    Clause.has_congr (same keyword)
  rw [declared, declared]
  simp only [texts, given]

/--
The clauses of a column may come in any order, and those that are not known do
not matter: the column is what name, type and known clauses declare.
-/
theorem column_any_order
    {name : Token} {type : List Token} {clauses permuted : List Clause}
    (head : IsHead name type)
    (each : ∀ clause ∈ clauses, IsColumnClause clause)
    (distinct : Clause.Distinct clauses)
    (same : permuted.Perm clauses)
    (unsigned : Bool) :
    column (ofClauses name type unsigned permuted) =
        .ok (some (declared name type unsigned clauses)) ∧
      declared name type unsigned clauses =
        declared name type unsigned (Clause.known clauses) := by
  constructor
  · have also : ∀ clause ∈ permuted, IsColumnClause clause :=
      fun clause member => each clause (same.subset member)
    rw [column_ofClauses head unsigned also,
      declared_congr (distinct.find?_perm same)]
  · apply declared_congr
    intro keyword
    exact (Clause.find?_known keyword clauses).symm

/--
Clauses in reverse order: the default value holds words of another clause, and
the unknown clause closes a parenthesis that it does not open.
-/
theorem column_any_order_reversed :
    let type := ["DECIMAL", "(", "1", ")"]
    let inside := ["F", "(", ")", " ", "NULL"]
    let clauses : List Clause :=
      [⟨some "DEFAULT", "DEFAULT" :: " " :: "(" :: (inside ++ [")"]),
          String.join inside⟩,
        ⟨none, ["ON", " ", "SET", ")"], ""⟩,
        ⟨some "COMMENT", ["COMMENT", " ", "'x'"], Token.unquote "'x'"⟩,
        ⟨some "CHARSET", ["CHARSET", " ", "'u'"], "'u'"⟩,
        ⟨some "NOT", ["NOT", " ", "NULL"], ""⟩]
    column (ofClauses "'a'" type true clauses.reverse) =
      .ok (some {
        name := "a"
        dataType := "DECIMAL(1) UNSIGNED"
        defaultValue := "F() NULL"
        comment := "x"
        notNull := true
        charset := "'u'" }) := by
  intro type inside clauses
  have head : IsHead "'a'" type := by
    constructor <;> decide +kernel
  have balanced : Bracket.Balanced inside := by
    have named : Bracket.Balanced ["F"] :=
      Bracket.balanced_of_not_mem (by decide) (by decide)
    have empty : Bracket.Balanced ("(" :: ([] ++ [")"])) :=
      Bracket.balanced_nil.wrap
    have rest : Bracket.Balanced [" ", "NULL"] :=
      Bracket.balanced_of_not_mem (by decide) (by decide)
    exact named.append (empty.append rest)
  have each : ∀ clause ∈ clauses, IsColumnClause clause := by
    simp only [clauses, List.forall_mem_cons]
    refine ⟨.default (.expression balanced (by decide)), .other (by decide),
      .comment (by decide), ?_, .flag (by decide), by simp⟩
    have listed : ["CHARSET", " "] ∈ valueKeys := by decide
    exact .value listed (by decide) (by decide)
  have distinct : Clause.Distinct clauses := by
    simp only [clauses, Clause.Distinct]
    decide
  have read :=
    (column_any_order head each distinct (List.reverse_perm clauses) true).1
  rw [read]
  decide +kernel

end SqlCatalog.Fragment
