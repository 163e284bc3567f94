import SqlCatalog.Proofs.Statement.Lookup

/-!
# What options say

A key and its value have a sign between them: an equality sign, which may have
blanks around it, or just a blank.  The first key that has a value counts, and
a key without one is passed over.  For the comment the last key counts that has
room for a literal, and there a literal has to stand.

This module states what options say without reference to the order in which
forms are tried, and shows that the lookups find it.
-/

namespace SqlCatalog.Statement

/-! ## Signs -/

/-- What may stand between a key and its value. -/
def signs : List (List Token) :=
  [["="], [" ", "="], [" ", "=", " "], ["=", " "], [" "]]

theorem takeWhile_sign
    {sign : List Token} {value : Token}
    (listed : sign ∈ signs) (apart : value ∉ ["=", " "])
    (rest : List Token) :
    (sign ++ value :: rest).takeWhile (· ∈ ["=", " "]) = sign := by
  have marks : ∀ sign ∈ signs, ∀ token ∈ sign, token ∈ ["=", " "] := by
    decide
  rw [List.takeWhile_append_of_pos,
    List.takeWhile_cons_of_neg (by simpa using apart), List.append_nil]
  intro token member
  exact decide_eq_true (marks sign listed token member)

/-- A value that is no part of a sign tells where the sign ends. -/
theorem sign_unique
    {sign other rest more : List Token} {value second : Token}
    (listed : sign ∈ signs) (also : other ∈ signs)
    (apart : value ∉ ["=", " "]) (secondApart : second ∉ ["=", " "])
    (same : sign ++ value :: rest = other ++ second :: more) :
    sign = other ∧ value = second := by
  have signs : sign = other := by
    rw [← takeWhile_sign listed apart rest, same,
      takeWhile_sign also secondApart more]
  rw [signs, List.append_cancel_left_eq] at same
  exact ⟨signs, (List.cons.inj same).1⟩

/-! ## Bare values -/

/-- A key at the index has a sign and a bare value behind it. -/
def GivesValue (key options : List Token) (index : Nat) (value : Token) :
    Prop :=
  Alphabet.optionValue.spells value = true ∧
    ∃ sign ∈ signs, ∃ rest,
      options.drop index = key ++ (sign ++ value :: rest)

/-- The value that the options give to a key. -/
inductive HasValue (key options : List Token) : String → Prop
  /-- No key has a value, so there is none. -/
  | absent
      (nowhere : ∀ index value, ¬GivesValue key options index value) :
      HasValue key options ""
  /-- The first key that has a value counts. -/
  | first {index : Nat} {value : Token}
      (given : GivesValue key options index value)
      (earliest : ∀ before < index, ∀ other,
        ¬GivesValue key options before other) :
      HasValue key options value

/-- The character set that the options give; its short key is preferred. -/
inductive HasCharset (options : List Token) : String → Prop
  /-- The short key has a value. -/
  | short {charset : String}
      (given : HasValue ["CHARSET"] options charset)
      (filled : charset ≠ "") :
      HasCharset options charset
  /-- The short key has no value. -/
  | long {charset : String}
      (absent : HasValue ["CHARSET"] options "")
      (given : HasValue ["CHARACTER", " ", "SET"] options charset) :
      HasCharset options charset

/-- The form of a value with the given sign in front of it. -/
def valueForm (sign : List Token) : Pattern :=
  sign.map Element.exactly ++ [.name .optionValue]

theorem mem_valueForms_iff (form : Pattern) :
    form ∈ valueForms ↔ ∃ sign ∈ signs, form = valueForm sign := by
  constructor
  · have each : ∀ form ∈ valueForms, ∃ sign ∈ signs, form = valueForm sign := by
      decide
    exact each form
  · rintro ⟨sign, listed, rfl⟩
    have each : ∀ sign ∈ signs, valueForm sign ∈ valueForms := by
      decide
    exact each sign listed

theorem fits_valueForm_iff (sign tokens : List Token) :
    (valueForm sign).fits tokens = true ↔
      ∃ value rest, tokens = sign ++ value :: rest ∧
        Alphabet.optionValue.spells value = true := by
  rw [valueForm, Pattern.fits_keys_append_iff]
  constructor
  · rintro ⟨rest, rfl, fit⟩
    cases rest with
    | nil => cases fit
    | cons value rest =>
        exact ⟨value, rest, rfl, by simpa [Element.accepts] using fit⟩
  · rintro ⟨value, rest, rfl, spelled⟩
    exact ⟨value :: rest, rfl, by simp [Element.accepts, spelled]⟩

theorem not_mem_sign_of_spells
    {value : Token}
    (spelled : Alphabet.optionValue.spells value = true) :
    value ∉ ["=", " "] := by
  have others : ∀ token ∈ ["=", " "], Alphabet.optionValue.spells token = false := by
    decide
  intro member
  rw [others value member] at spelled
  cases spelled

theorem leadingValue?_eq_some_iff (tokens : List Token) (value : Token) :
    leadingValue? tokens = some value ↔
      Alphabet.optionValue.spells value = true ∧
        ∃ sign ∈ signs, ∃ rest, tokens = sign ++ value :: rest := by
  rw [leadingValue?]
  cases found : valueForms.find? fun form => form.fits tokens with
  | none =>
      rw [List.find?_eq_none] at found
      constructor
      · intro given
        cases given
      · rintro ⟨spelled, sign, listed, rest, rfl⟩
        have known := (mem_valueForms_iff _).mpr ⟨sign, listed, rfl⟩
        have fit := (fits_valueForm_iff sign _).mpr ⟨value, rest, rfl, spelled⟩
        exact absurd fit (found _ known)
  | some form =>
      obtain ⟨sign, listed, rfl⟩ :=
        (mem_valueForms_iff form).mp (List.mem_of_find?_eq_some found)
      have fit := List.find?_some found
      obtain ⟨own, rest, rfl, spelled⟩ := (fits_valueForm_iff sign tokens).mp fit
      have place :
          (sign ++ own :: rest)[(valueForm sign).length - 1]? = some own := by
        simp [valueForm]
      simp only [place, Option.some.injEq]
      constructor
      · rintro rfl
        exact ⟨spelled, sign, listed, rest, rfl⟩
      · rintro ⟨also, other, known, more, parts⟩
        exact (sign_unique listed known (not_mem_sign_of_spells spelled)
          (not_mem_sign_of_spells also) parts).2

/-- What the search for a value tries at the start of a sequence. -/
theorem givesValue_zero_iff (key tokens : List Token) (value : Token) :
    (if Pattern.fits (key.map Element.exactly) tokens then
        leadingValue? (tokens.drop (key.map Element.exactly).length)
      else none) = some value ↔
      GivesValue key tokens 0 value := by
  rw [GivesValue, List.drop_zero, List.length_map]
  split
  case isTrue fit =>
    obtain ⟨behind, rfl⟩ := (Pattern.fits_keys_iff key).mp fit
    rw [List.drop_left, leadingValue?_eq_some_iff]
    simp only [List.append_cancel_left_eq]
  case isFalse misfit =>
    constructor
    · intro given
      cases given
    · rintro ⟨-, sign, -, rest, rfl⟩
      exact absurd (Pattern.fits_exactly key _) misfit

/-- Where the search for a value ends. -/
theorem optionValue?_cases (key options : List Token) :
    (optionValue? (key.map Element.exactly) options = none ∧
      ∀ index value, ¬GivesValue key options index value) ∨
    ∃ index value,
      optionValue? (key.map Element.exactly) options = some value ∧
        GivesValue key options index value ∧
        ∀ before < index, ∀ other, ¬GivesValue key options before other := by
  induction options with
  | nil =>
      refine Or.inl ⟨rfl, ?_⟩
      rintro index value ⟨-, sign, -, rest, parts⟩
      simp at parts
  | cons token rest hypothesis =>
      have here := givesValue_zero_iff key (token :: rest)
      rw [optionValue?]
      split
      case h_1 value found =>
        refine Or.inr ⟨0, value, rfl, (here value).mp found, ?_⟩
        intro before early
        exact absurd early (Nat.not_lt_zero before)
      case h_2 missed =>
        have first (other : Token) : ¬GivesValue key (token :: rest) 0 other := by
          intro given
          rw [(here other).mpr given] at missed
          cases missed
        rcases hypothesis with
          ⟨absent, nowhere⟩ | ⟨index, value, found, given, earliest⟩
        · refine Or.inl ⟨absent, ?_⟩
          rintro (- | index) value
          · exact first value
          · exact nowhere index value
        · refine Or.inr ⟨index + 1, value, found, given, ?_⟩
          rintro (- | before) early other
          · exact first other
          · exact earliest before (Nat.lt_of_succ_lt_succ early) other

theorem HasValue.optionValue_eq
    {key options : List Token} {value : String}
    (given : HasValue key options value) :
    optionValue (key.map Element.exactly) options = value := by
  rw [optionValue]
  rcases optionValue?_cases key options with
    ⟨absent, nowhere⟩ | ⟨index, found, search, here, before⟩
  · cases given with
    | absent _ => rw [absent, Option.getD_none]
    | first there _ => exact absurd there (nowhere _ _)
  · rw [search, Option.getD_some]
    cases given with
    | absent nowhere => exact absurd here (nowhere _ _)
    | @first other value there earliest =>
        -- Neither of two first keys stands in front of the other.
        have same : other = index := by
          rcases Nat.lt_trichotomy other index with early | same | late
          · exact absurd there (before other early value)
          · exact same
          · exact absurd here (earliest index late found)
        obtain ⟨spelled, sign, listed, rest, parts⟩ := here
        obtain ⟨also, second, known, more, others⟩ := there
        rw [same, parts, List.append_cancel_left_eq] at others
        exact (sign_unique listed known (not_mem_sign_of_spells spelled)
          (not_mem_sign_of_spells also) others).2

theorem GivesValue.getElem?_eq
    {keyword : Token} {rest options : List Token} {index : Nat} {value : Token}
    (given : GivesValue (keyword :: rest) options index value) :
    options[index]? = some keyword := by
  obtain ⟨-, sign, -, behind, parts⟩ := given
  have first : (options.drop index)[0]? = some keyword := by
    rw [parts]
    rfl
  simpa using first

/-- The first key has a value if the key stands nowhere in front of it. -/
theorem HasValue.of_append
    {keyword : Token} {before rest sign : List Token} {value : Token}
    (absent : keyword ∉ before)
    (listed : sign ∈ signs)
    (spelled : Alphabet.optionValue.spells value = true)
    (behind : List Token) :
    HasValue (keyword :: rest)
      (before ++ keyword :: (rest ++ (sign ++ value :: behind))) value := by
  have given :
      GivesValue (keyword :: rest)
        (before ++ keyword :: (rest ++ (sign ++ value :: behind)))
        before.length value :=
    ⟨spelled, sign, listed, behind, by simp⟩
  refine .first given ?_
  intro index early other earlier
  have key := earlier.getElem?_eq
  rw [List.getElem?_append_left early] at key
  exact absent (List.mem_of_getElem? key)

theorem HasValue.of_not_mem
    {keyword : Token} {options : List Token}
    (absent : keyword ∉ options)
    (rest : List Token) :
    HasValue (keyword :: rest) options "" := by
  refine .absent ?_
  intro index value given
  exact absent (List.mem_of_getElem? given.getElem?_eq)

theorem exists_hasValue (key options : List Token) :
    ∃ value, HasValue key options value := by
  rcases optionValue?_cases key options with
    ⟨-, nowhere⟩ | ⟨index, value, -, given, earliest⟩
  · exact ⟨"", .absent nowhere⟩
  · exact ⟨value, .first given earliest⟩

theorem HasCharset.tableCharset_eq
    {options : List Token} {charset : String}
    (given : HasCharset options charset) :
    tableCharset options = charset := by
  cases given with
  | short given filled =>
      have value := given.optionValue_eq
      simp only [List.map_cons, List.map_nil] at value
      rw [tableCharset, value]
      simp [filled]
  | long absent given =>
      have nothing := absent.optionValue_eq
      have value := given.optionValue_eq
      simp only [List.map_cons, List.map_nil] at nothing value
      rw [tableCharset, nothing]
      exact value

theorem exists_hasCharset (options : List Token) :
    ∃ charset, HasCharset options charset := by
  obtain ⟨charset, short⟩ := exists_hasValue ["CHARSET"] options
  by_cases filled : charset = ""
  · subst filled
    obtain ⟨charset, long⟩ := exists_hasValue ["CHARACTER", " ", "SET"] options
    exact ⟨charset, .long short long⟩
  · exact ⟨charset, .short short filled⟩

/-! ## The comment among the options -/

/-- A comment key at the index has at least two tokens behind it. -/
def HasRoom (options : List Token) (index : Nat) : Prop :=
  options[index]? = some "COMMENT" ∧ index + 3 ≤ options.length

/-- The last comment key with at least two tokens behind it. -/
structure IsLastComment (options : List Token) (index : Nat) : Prop where
  /-- The key at the index has that room. -/
  room : HasRoom options index
  /-- No later key has it. -/
  last : ∀ later, HasRoom options later → later ≤ index

/-- The comment that the options give to the table. -/
inductive HasComment (options : List Token) : String → Prop
  /-- No comment key has room for a literal, so there is no comment. -/
  | absent
      (nowhere : ∀ index, ¬HasRoom options index) :
      HasComment options ""
  /-- The last comment key with room for it has a literal behind it. -/
  | literal {index : Nat} {sign rest : List Token} {literal : Token}
      (last : IsLastComment options index)
      (listed : sign ∈ signs)
      (quoted : literal.isQuoted = true)
      (spelled : options.drop index = "COMMENT" :: (sign ++ literal :: rest)) :
      HasComment options literal.unquote

/-- The last comment key with room for a literal has none behind it. -/
def HasMalformedComment (options : List Token) : Prop :=
  ∃ index, IsLastComment options index ∧
    ∀ sign ∈ signs, ∀ (literal : Token) (rest : List Token),
      options.drop index = "COMMENT" :: (sign ++ literal :: rest) →
        literal.isQuoted = false

theorem hasRoom_zero_iff (token : Token) (rest : List Token) :
    HasRoom (token :: rest) 0 ↔ token = "COMMENT" ∧ 2 ≤ rest.length := by
  simp [HasRoom]

theorem hasRoom_succ_iff (token : Token) (rest : List Token) (index : Nat) :
    HasRoom (token :: rest) (index + 1) ↔ HasRoom rest index := by
  rw [HasRoom, HasRoom, List.getElem?_cons_succ, List.length_cons,
    Nat.add_right_comm, Nat.add_le_add_iff_right]

/-- Where the search for the last comment key ends. -/
theorem lastComment?_cases (options : List Token) :
    (lastComment? options = none ∧ ∀ index, ¬HasRoom options index) ∨
    ∃ index, IsLastComment options index ∧
      lastComment? options = some (options.drop index) := by
  induction options with
  | nil => exact Or.inl ⟨rfl, by simp [HasRoom]⟩
  | cons token rest hypothesis =>
      have first := hasRoom_zero_iff token rest
      have shift := hasRoom_succ_iff token rest
      rw [lastComment?]
      rcases hypothesis with ⟨absent, nowhere⟩ | ⟨index, last, found⟩
      · rw [absent]
        by_cases here : token = "COMMENT" ∧ 2 ≤ rest.length
        · refine Or.inr ⟨0, ⟨first.mpr here, ?_⟩, if_pos here⟩
          rintro (- | later) room
          · exact Nat.le_refl 0
          · exact absurd ((shift later).mp room) (nowhere later)
        · refine Or.inl ⟨if_neg here, ?_⟩
          rintro (- | index) room
          · exact here (first.mp room)
          · exact nowhere index ((shift index).mp room)
      · rw [found]
        refine Or.inr ⟨index + 1, ⟨(shift index).mpr last.room, ?_⟩, rfl⟩
        rintro (- | later) room
        · exact Nat.zero_le (index + 1)
        · exact Nat.succ_le_succ (last.last later ((shift later).mp room))

theorem IsLastComment.lastComment?_eq
    {options : List Token} {index : Nat}
    (last : IsLastComment options index) :
    lastComment? options = some (options.drop index) := by
  rcases lastComment?_cases options with ⟨-, nowhere⟩ | ⟨other, also, found⟩
  · exact absurd last.room (nowhere index)
  · have same : other = index :=
      Nat.le_antisymm (last.last other also.room) (also.last index last.room)
    rw [found, same]

/-- The form of a comment with the given sign in it. -/
def commentForm (sign : List Token) : CommentForm :=
  ⟨("COMMENT" :: sign).map Element.exactly ++ [.quoted], sign.length + 1⟩

theorem commentForms_eq : commentForms = signs.map commentForm := rfl

theorem fits_commentForm_iff (sign tokens : List Token) :
    (commentForm sign).pattern.fits tokens = true ↔
      ∃ literal rest, tokens = "COMMENT" :: (sign ++ literal :: rest) ∧
        literal.isQuoted = true := by
  rw [commentForm, Pattern.fits_keys_append_iff]
  constructor
  · rintro ⟨rest, rfl, fit⟩
    obtain ⟨literal, rest, rfl, quoted, -⟩ := Pattern.fits_quoted_cons_iff.mp fit
    exact ⟨literal, rest, rfl, quoted⟩
  · rintro ⟨literal, rest, rfl, quoted⟩
    exact ⟨literal :: rest, rfl, by simp [Element.accepts, quoted]⟩

theorem HasComment.tableComment_eq
    {options : List Token} {comment : String}
    (given : HasComment options comment) :
    tableComment options = .ok comment := by
  cases given with
  | absent nowhere =>
      rcases lastComment?_cases options with ⟨absent, -⟩ | ⟨index, last, -⟩
      · rw [tableComment, absent]
      · exact absurd last.room (nowhere index)
  | @literal index sign rest literal last listed quoted spelled =>
      rw [tableComment, last.lastComment?_eq, spelled]
      -- Some form fits, and any form that does has this sign in it.
      cases found : commentForms.find? fun form =>
          form.pattern.fits ("COMMENT" :: (sign ++ literal :: rest)) with
      | none =>
          rw [List.find?_eq_none] at found
          have fit := (fits_commentForm_iff sign _).mpr ⟨literal, rest, rfl, quoted⟩
          rw [commentForms_eq] at found
          exact absurd fit (found _ (List.mem_map_of_mem listed))
      | some form =>
          have known := List.mem_of_find?_eq_some found
          rw [commentForms_eq] at known
          obtain ⟨other, also, rfl⟩ := List.mem_map.mp known
          have fit := List.find?_some found
          obtain ⟨second, more, parts, otherQuoted⟩ :=
            (fits_commentForm_iff other _).mp (by simpa using fit)
          injection parts with _ parts
          obtain ⟨rfl, rfl⟩ := sign_unique listed also
            (not_mem_of_isQuoted quoted (by decide))
            (not_mem_of_isQuoted otherQuoted (by decide)) parts
          simp [found, commentForm]

/-- The last key counts if no other key stands behind its literal. -/
theorem HasComment.of_append
    {sign behind : List Token} {literal : Token}
    (before : List Token)
    (listed : sign ∈ signs)
    (quoted : literal.isQuoted = true)
    (absent : "COMMENT" ∉ behind) :
    HasComment (before ++ "COMMENT" :: (sign ++ literal :: behind))
      literal.unquote := by
  have shape : ∀ sign ∈ signs, sign ≠ [] ∧ "COMMENT" ∉ sign := by
    decide
  obtain ⟨filled, apart⟩ := shape sign listed
  have other : "COMMENT" ≠ literal := (ne_of_isQuoted quoted (by decide)).symm
  have last :
      IsLastComment (before ++ "COMMENT" :: (sign ++ literal :: behind))
        before.length := by
    have size := List.length_pos_iff.mpr filled
    refine ⟨⟨by simp, ?_⟩, ?_⟩
    · simp only [List.length_append, List.length_cons]
      omega
    · rintro later ⟨key, -⟩
      apply Nat.le_of_not_lt
      intro beyond
      rw [List.getElem?_append_right (Nat.le_of_lt beyond)] at key
      obtain ⟨count, far⟩ :
          ∃ count, later - before.length = count + 1 :=
        Nat.exists_eq_succ_of_ne_zero (by omega)
      rw [far, List.getElem?_cons_succ] at key
      have member := List.mem_of_getElem? key
      simp [apart, other, absent] at member
  exact .literal last listed quoted (List.drop_left)

theorem HasComment.of_not_mem
    {options : List Token}
    (absent : "COMMENT" ∉ options) :
    HasComment options "" := by
  refine .absent ?_
  rintro index ⟨key, -⟩
  exact absent (List.mem_of_getElem? key)

theorem HasMalformedComment.tableComment_eq
    {options : List Token}
    (malformed : HasMalformedComment options) :
    tableComment options = .error .malformedComment := by
  obtain ⟨index, last, unquoted⟩ := malformed
  have absent :
      (commentForms.find? fun form => form.pattern.fits (options.drop index)) =
        none := by
    rw [List.find?_eq_none, commentForms_eq, List.forall_mem_map]
    intro sign listed fit
    obtain ⟨literal, rest, spelled, quoted⟩ := (fits_commentForm_iff sign _).mp fit
    rw [unquoted sign listed literal rest spelled] at quoted
    cases quoted
  rw [tableComment, last.lastComment?_eq]
  simp only [absent]

/-- Options have a comment, which may be empty, or a malformed one. -/
theorem comment_cases (options : List Token) :
    (∃ comment, HasComment options comment) ∨ HasMalformedComment options := by
  rcases lastComment?_cases options with ⟨-, nowhere⟩ | ⟨index, last, -⟩
  · exact Or.inl ⟨"", .absent nowhere⟩
  · by_cases unquoted :
        ∀ sign ∈ signs, ∀ (literal : Token) (rest : List Token),
          options.drop index = "COMMENT" :: (sign ++ literal :: rest) →
            literal.isQuoted = false
    · exact Or.inr ⟨index, last, unquoted⟩
    · simp only [Classical.not_forall, Bool.not_eq_false] at unquoted
      obtain ⟨sign, listed, literal, rest, spelled, quoted⟩ := unquoted
      exact Or.inl ⟨_, .literal last listed quoted spelled⟩

end SqlCatalog.Statement
