import SqlCatalog.Fragment.Split
import SqlCatalog.Proofs.Indexing.Clauses
import SqlCatalog.Proofs.Statement.Lookup

/-!
# Fragments read by index

The fragments of a body are slices between its dividing commas.  In a fragment
the clauses are cut off at their keywords, and the values stand at fixed
indices behind these.  Read in this way, bodies and fragments give what the
library reads of them, whatever strings the tokens are.

Together with the reading of statements this says that no access by index ever
lies outside of the sequence that it is made to.
-/

namespace SqlCatalog.Indexed

/-! ## Clauses of a fragment -/

/-- Where a keyword is found, the sequence can be cut. -/
theorem suffix?_of_position?
    {keyword : Token} {tokens : List Token} {start : Nat}
    (found : position? keyword tokens = some start) :
    suffix? tokens start = some (tokens.dropWhile (· != keyword)) := by
  rw [position?, List.findIdx?_eq_some_iff_findIdx_eq] at found
  rw [suffix?_of_le (Nat.le_of_lt found.1),
    List.dropWhile_eq_drop_findIdx_not, ← found.2]
  simp [bne]

theorem not_mem_of_position?_eq_none
    {keyword : Token} {tokens : List Token}
    (absent : position? keyword tokens = none) :
    keyword ∉ tokens := by
  intro member
  rw [position?, List.findIdx?_eq_none_iff] at absent
  simpa using absent keyword member

/--
The tokens from an index on up to the next blank, one by one, and the keyword
for numbers without a sign if the token behind that blank is there and is it.
-/
def typeFrom (fragment : List Token) (index : Nat) : Nat → Option String
  | 0 => return ""
  | count + 1 => do
    let token ← token? fragment index
    if token = Token.blank then
      return if fragment[index + 1]? = some "UNSIGNED" then " UNSIGNED" else ""
    else
      let later ← typeFrom fragment (index + 1) count
      return token ++ later

/-- The declared type, read up to the end of the fragment at most. -/
def dataType (fragment : List Token) : Option String :=
  if fragment[2]? = some Token.blank then return ""
  else typeFrom fragment 2 (fragment.length - 2)

theorem typeFrom_append (front rest : List Token) :
    typeFrom (front ++ rest) front.length rest.length =
      some (String.join (rest.takeWhile (· != Token.blank)) ++
        if (rest.dropWhile (· != Token.blank))[1]? = some "UNSIGNED" then
          " UNSIGNED" else "") := by
  induction rest generalizing front with
  | nil => rfl
  | cons token rest hypothesis =>
      have here : token? (front ++ token :: rest) front.length = some token := by
        simp [token?]
      rw [List.length_cons, typeFrom, here, Option.bind_eq_bind,
        Option.bind_some]
      split
      case isTrue blank =>
        have next : (front ++ token :: rest)[front.length + 1]? = rest[0]? := by
          rw [List.getElem?_append_right (Nat.le_add_right _ _),
            Nat.add_sub_cancel_left, List.getElem?_cons_succ]
        rw [next, blank]
        simp
      case isFalse solid =>
        have later := hypothesis (front ++ [token])
        rw [List.append_assoc, List.singleton_append, List.length_append,
          List.length_singleton] at later
        simp [later, solid, String.join_cons, String.append_assoc]

theorem dataType_eq (fragment : List Token) :
    dataType fragment = some (Fragment.dataType fragment) := by
  rcases fragment with _ | ⟨name, _ | ⟨gap, rest⟩⟩
  · rfl
  · rfl
  · have read := typeFrom_append [name, gap] rest
    cases rest with
    | nil => rfl
    | cons token rest =>
        by_cases blank : token = Token.blank
        · simp [dataType, Fragment.dataType, blank]
        · have other : ¬(name :: gap :: token :: rest)[2]? = some Token.blank := by
            simpa using blank
          have filled :
              ((token :: rest).takeWhile (· != Token.blank)).isEmpty = false := by
            simp [blank]
          rw [dataType, if_neg other]
          refine read.trans ?_
          rw [Fragment.dataType]
          simp only [List.drop_succ_cons, List.drop_zero, filled]
          split <;> simp

/-- A clause of three tokens or more has a value. -/
theorem exists_value_of_fits
    {key gap value : Element} {tokens : List Token}
    (fit : Pattern.fits [key, gap, value] tokens = true) :
    ∃ token, tokens[2]? = some token ∧ value.accepts token = true := by
  have enough := Pattern.length_le_of_fits fit
  match tokens, enough with
  | first :: second :: third :: rest, _ =>
    refine ⟨third, rfl, ?_⟩
    simp only [Pattern.fits_cons_cons, Bool.and_eq_true] at fit
    exact fit.2.2.1

/-- The default value: the first default clause is cut off and read. -/
def defaultValue (fragment : List Token) : Access String := do
  match position? "DEFAULT" fragment with
  | none => return ""
  | some start =>
    let clause ← suffix? fragment start
    if (Fragment.defaultClause .quoted).fits clause then
      let literal ← token? clause 2
      return literal.unquote
    else if (Fragment.defaultClause (.exactly "(")).fits clause then
      let close ← Bracket.closing clause 2
      let inside ← slice? clause 3 close
      return String.join inside
    else
      return (Fragment.defaultKeywords.find? fun keyword =>
        (Fragment.defaultClause (.exactly keyword)).fits clause).getD ""

theorem defaultValue_eq (fragment : List Token) :
    (defaultValue fragment).run = some (Fragment.defaultValue fragment) := by
  rw [defaultValue]
  cases found : position? "DEFAULT" fragment with
  | none =>
      rw [Fragment.defaultValue_of_not_mem (not_mem_of_position?_eq_none found)]
      rfl
  | some start =>
      rw [Fragment.defaultValue]
      simp only [suffix?_of_position? found, lift_some_bind]
      generalize fragment.dropWhile (· != "DEFAULT") = clause
      split
      case isTrue fit =>
        obtain ⟨literal, there, -⟩ := exists_value_of_fits fit
        simp only [token?, there, lift_some_bind, Fragment.literalAt]
        rfl
      case isFalse =>
        split
        case isTrue fit =>
          obtain ⟨token, there, accepted⟩ := exists_value_of_fits fit
          rw [beq_iff_eq.mp accepted] at there
          cases closed : Bracket.closing clause 2 with
          | error fault => rfl
          | ok close =>
              have partner := (Bracket.closing_eq_ok_iff there).mp closed
              have within := (Bracket.closing_bounds closed).2
              simp only [lift_ok_bind, lift_some_bind,
                slice?_of_le partner.behind (Nat.le_of_lt within)]
              rfl
        case isFalse => rfl

/-- The comment: the first comment clause is cut off and read. -/
def comment (fragment : List Token) : Option String := do
  match position? "COMMENT" fragment with
  | none => return ""
  | some start =>
    let clause ← suffix? fragment start
    if Pattern.fits [.exactly "COMMENT", .blank, .quoted] clause then
      let literal ← token? clause 2
      return literal.unquote
    else return ""

theorem comment_eq (fragment : List Token) :
    comment fragment = some (Fragment.comment fragment) := by
  rw [comment]
  cases found : position? "COMMENT" fragment with
  | none =>
      rw [Fragment.comment_of_not_mem (not_mem_of_position?_eq_none found)]
      rfl
  | some start =>
      rw [Fragment.comment]
      simp only [suffix?_of_position? found, Option.bind_eq_bind,
        Option.bind_some]
      split
      case isTrue fit =>
        obtain ⟨literal, there, -⟩ := exists_value_of_fits fit
        simp [token?, there, Fragment.literalAt]
      case isFalse => rfl

/--
The token right behind the first place where a pattern fits.  The fragment may
end there, so this is a lookup and not an access.
-/
def valueAfter (pattern : Pattern) (fragment : List Token) : Option String := do
  let found ← find pattern fragment
  match found with
  | none => return ""
  | some start => return (fragment[start + pattern.length]?).getD ""

theorem valueAfter_eq (pattern : Pattern) (fragment : List Token) :
    valueAfter pattern fragment =
      some (Fragment.valueAfter pattern fragment) := by
  rw [valueAfter, find_eq, Option.bind_eq_bind, Option.bind_some,
    Fragment.valueAfter]
  cases pattern.find? fragment <;> rfl

/-- The character set; its long key is tried first. -/
def charset (fragment : List Token) : Option String := do
  let long ←
    valueAfter [.exactly "CHARACTER", .blank, .exactly "SET", .blank] fragment
  if long.isEmpty then valueAfter [.exactly "CHARSET", .blank] fragment
  else return long

theorem charset_eq (fragment : List Token) :
    charset fragment = some (Fragment.charset fragment) := by
  rw [charset, valueAfter_eq, Option.bind_eq_bind, Option.bind_some,
    Fragment.charset]
  split
  case isTrue => exact valueAfter_eq _ fragment
  case isFalse => rfl

/-! ## Columns -/

/-- The column that a fragment defines, none if it defines no column. -/
def column (fragment : List Token) : Access (Option Column) := do
  match fragment[0]? with
  | none => return none
  | some first =>
    if !first.isQuoted then return none
    else if fragment.length < 2 then throw (.bareColumnName fragment.length)
    else if first.unquote.isEmpty then throw .emptyColumnName
    else
      let type ← dataType fragment
      let value ← defaultValue fragment
      let comment ← comment fragment
      let notNull ← find [.exactly "NOT", .blank, .exactly "NULL"] fragment
      let charset ← charset fragment
      let collation ← valueAfter [.exactly "COLLATE", .blank] fragment
      return some {
        name := first.unquote
        dataType := type
        defaultValue := value
        comment
        notNull := notNull.isSome
        autoIncrement := (position? "AUTO_INCREMENT" fragment).isSome
        charset
        collation }

theorem isSome_position? (keyword : Token) (tokens : List Token) :
    (position? keyword tokens).isSome = tokens.contains keyword := by
  rw [position?, List.findIdx?_isSome, List.any_beq']

theorem column_eq (fragment : List Token) :
    (column fragment).run = some (Fragment.column fragment) := by
  cases fragment with
  | nil => rfl
  | cons first rest =>
      rw [column, Fragment.column]
      simp only [List.getElem?_cons_zero]
      split
      case isTrue => rfl
      case isFalse =>
        have short : (first :: rest).length < 2 ↔ rest.isEmpty = true := by
          cases rest <;> simp
        simp only [short]
        split
        case isTrue => rfl
        case isFalse =>
          split
          case isTrue => rfl
          case isFalse =>
            simp only [dataType_eq, lift_some_bind]
            refine run_bind_of_run (defaultValue_eq _) fun value => ?_
            simp only [comment_eq, find_eq, charset_eq, valueAfter_eq,
              lift_some_bind, isSome_position?]
            rfl

/-! ## Fragments of a body -/

/-- The fragments of a body, each of them a slice between dividing commas. -/
def fragments (body : List Token) : Option (List (List Token)) := do
  let pieces ←
    slices (fun depth token => token == "," && depth == 0)
      (fun depth token => depth + Bracket.weight token) body 0 0 (0 : Int) body
  return Fragment.dropEmptyLast (pieces.map Token.trim)

theorem fragments_eq (body : List Token) :
    fragments body = some (Fragment.split body) := by
  have cuts :
      slices (fun depth token => token == "," && depth == 0)
          (fun depth token => depth + Bracket.weight token) body 0 0 (0 : Int)
          body =
        some (Fragment.pieces body) :=
    slices_eq Fragment.cut (fun _ => rfl)
      (fun _ token rest => by simp [Fragment.cut]) [] [] body 0
  rw [fragments, cuts]
  rfl

/-! ## Every reading -/

/--
However a sequence is read, the accesses lie inside of it: the reading by index
has a result, which is that of the library.
-/
structure StaysInside (tokens : List Token) : Prop where
  /-- The sequence as a statement. -/
  clauses : (Indexed.clauses tokens).run = some (Statement.clauses tokens)
  /-- The sequence as the header of a table definition. -/
  tableName : (Indexed.tableName tokens).run = some (Statement.tableName tokens)
  /-- The sequence as the options of a table definition, for their comment. -/
  tableComment :
    (Indexed.tableComment tokens).run = some (Statement.tableComment tokens)
  /-- The sequence as options, for the value of any key. -/
  optionValue : ∀ key,
    Indexed.optionValue key tokens = some (Statement.optionValue key tokens)
  /-- The sequence as a body. -/
  fragments : Indexed.fragments tokens = some (Fragment.split tokens)
  /-- The sequence as a fragment. -/
  column : (Indexed.column tokens).run = some (Fragment.column tokens)
  /-- The sequence as a fragment, for its type. -/
  dataType : Indexed.dataType tokens = some (Fragment.dataType tokens)
  /-- The sequence as a fragment, for its default value. -/
  defaultValue :
    (Indexed.defaultValue tokens).run = some (Fragment.defaultValue tokens)
  /-- The sequence as a fragment, for its comment. -/
  comment : Indexed.comment tokens = some (Fragment.comment tokens)
  /-- The sequence as a fragment, for the value behind any pattern. -/
  valueAfter : ∀ pattern,
    Indexed.valueAfter pattern tokens =
      some (Fragment.valueAfter pattern tokens)
  /-- The sequence as a text of statements. -/
  statements : Indexed.statements tokens = some (Statement.split tokens)
  /-- The sequence as a text of statements, for the number of the last one. -/
  lastStatement :
    Indexed.lastStatement tokens = some (Extractor.lastStatement? tokens)
  /-- One can be taken off the number of statements if the last one counts. -/
  counted : (Token.trim (Statement.tail tokens)).isEmpty = false →
    1 ≤ (Statement.split tokens).length

/-- No sequence of tokens is ever left by an access. -/
theorem reading_stays_inside (tokens : List Token) : StaysInside tokens where
  clauses := clauses_eq tokens
  tableName := tableName_eq tokens
  tableComment := tableComment_eq tokens
  optionValue key := optionValue_eq key tokens
  fragments := fragments_eq tokens
  column := column_eq tokens
  dataType := dataType_eq tokens
  defaultValue := defaultValue_eq tokens
  comment := comment_eq tokens
  valueAfter pattern := valueAfter_eq pattern tokens
  statements := statements_eq tokens
  lastStatement := lastStatement_eq tokens
  counted held :=
    List.length_pos_iff.mpr (Statement.split_ne_nil_of_tail held)

end SqlCatalog.Indexed
