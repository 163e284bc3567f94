import SqlCatalog.Extraction.Extractor
import SqlCatalog.Proofs.Bracket.Partner
import SqlCatalog.Proofs.Indexing.Access
import SqlCatalog.Proofs.Statement.Cutting

/-!
# Statements read by index

A table definition is cut at the indices of its outermost parentheses; the
identifiers of its header and the literal of its comment stand at indices that
are listed beside the forms.  Read in this way, statements give what the
library reads of them, so all of these indices lie inside.

Nothing is supposed of the tokens: they may be any strings in any order.
-/

namespace SqlCatalog.Indexed

open Statement (nameForms commentForms valueForms)

/-! ## Header -/

/-- The identifiers in a header, accessed at the indices of a form. -/
def identifiers (form : Statement.NameForm) (header : List Token) :
    Option (List Token) :=
  form.positions.mapM (token? header)

theorem parts?_eq (form : Statement.NameForm) (header : List Token) :
    form.parts? header =
      (identifiers form header).map (List.map Token.unquote) := by
  rw [Statement.NameForm.parts?, identifiers]
  induction form.positions with
  | nil => rfl
  | cons position positions hypothesis =>
      rw [List.mapM_cons, List.mapM_cons, hypothesis, token?]
      cases header[position]? with
      | none => rfl
      | some identifier =>
          cases positions.mapM (token? header) <;> rfl

/-- The name in a header: its identifiers, joined by a point. -/
def tableName (header : List Token) : Access String := do
  match nameForms.find? fun form => form.pattern.fits header with
  | none => throw .unrecognizedName
  | some form =>
    let found ← identifiers form header
    let parts := found.map Token.unquote
    if parts.any String.isEmpty then throw .unrecognizedName
    else return ".".intercalate parts

theorem tableName_eq (header : List Token) :
    (tableName header).run = some (Statement.tableName header) := by
  rw [tableName, Statement.tableName]
  cases search : nameForms.find? fun form => form.pattern.fits header with
  | none => rfl
  | some form =>
      have fit : form.pattern.fits header = true := by
        simpa using List.find?_some search
      have present :=
        Statement.NameForm.parts?_isSome (List.mem_of_find?_eq_some search) fit
      rw [parts?_eq, Option.isSome_map] at present
      obtain ⟨found, accessed⟩ := Option.isSome_iff_exists.mp present
      simp only [parts?_eq, accessed, lift_some_bind, Option.map_some]
      split <;> rfl

/-! ## Options -/

/-- The index if the key of the comment stands there. -/
def keyAt? (options : List Token) (index : Nat) : Option Nat :=
  if options[index]? = some "COMMENT" then some index else none

/--
The last index at which the key of the comment stands and leaves room for the
shortest form, looked for backwards.
-/
def lastKey (options : List Token) : Option (Option Nat) :=
  match difference? options.length 3 with
  | none => return none
  | some last =>
    (List.range (last + 1)).reverse.findSomeM? fun index => do
      let token ← token? options index
      return if token = "COMMENT" then some index else none

theorem keyAt?_cons_succ (token : Token) (rest : List Token) (index : Nat) :
    keyAt? (token :: rest) (index + 1) = (keyAt? rest index).map (· + 1) := by
  rw [keyAt?, keyAt?, List.getElem?_cons_succ]
  split <;> rfl

theorem lastKey_eq (options : List Token) :
    lastKey options =
      some ((List.range (options.length - 2)).reverse.findSome?
        (keyAt? options)) := by
  by_cases room : 3 ≤ options.length
  · have count : options.length - 3 + 1 = options.length - 2 := by omega
    simp only [lastKey, difference?_of_le room, count]
    apply findSomeM?_of_inside
    intro index member
    have within : index < options.length := by
      rw [List.mem_reverse, List.mem_range] at member
      omega
    simp [token?, keyAt?, within]
  · have few : options.length - 2 = 0 := by omega
    rw [lastKey, difference?, if_neg room, few]
    rfl

/-- The library finds the tokens from that index on. -/
theorem lastComment?_eq (options : List Token) :
    Statement.lastComment? options =
      ((List.range (options.length - 2)).reverse.findSome?
        (keyAt? options)).map options.drop := by
  induction options with
  | nil => rfl
  | cons token rest hypothesis =>
      rw [Statement.lastComment?, hypothesis]
      by_cases room : 2 ≤ rest.length
      · have count : (token :: rest).length - 2 = rest.length - 2 + 1 := by
          rw [List.length_cons]
          omega
        have shifted :
            (List.range (rest.length - 2)).reverse.findSome?
                (keyAt? (token :: rest) ∘ Nat.succ) =
              ((List.range (rest.length - 2)).reverse.findSome?
                (keyAt? rest)).map (· + 1) := by
          rw [List.map_findSome?]
          exact congrArg (List.findSome? · _)
            (funext (keyAt?_cons_succ token rest))
        rw [count, List.range_succ_eq_map, List.reverse_cons,
          List.findSome?_append, ← List.map_reverse, List.findSome?_map,
          shifted]
        cases (List.range (rest.length - 2)).reverse.findSome?
            (keyAt? rest) with
        | some index => rfl
        | none => simp [keyAt?, room]
      · have few : rest.length - 2 = 0 ∧ (token :: rest).length - 2 = 0 := by
          rw [List.length_cons]
          omega
        rw [few.1, few.2]
        simp [room]

/-- The comment among the options: the literal of the form at the last key. -/
def tableComment (options : List Token) : Access String := do
  let key ← lastKey options
  match key with
  | none => return ""
  | some start =>
    let tokens ← suffix? options start
    match commentForms.find? fun form => form.pattern.fits tokens with
    | none => throw .malformedComment
    | some form =>
      let literal ← token? tokens form.position
      return literal.unquote

/-- The index of the literal is that of an element of its form. -/
theorem literal_lt_length :
    ∀ form ∈ commentForms, form.position < form.pattern.length := by
  decide

theorem tableComment_eq (options : List Token) :
    (tableComment options).run = some (Statement.tableComment options) := by
  rw [tableComment, Statement.tableComment, lastKey_eq, lastComment?_eq,
    lift_some_bind]
  cases search : (List.range (options.length - 2)).reverse.findSome?
      (keyAt? options) with
  | none => rfl
  | some start =>
      have within : start ≤ options.length := by
        obtain ⟨index, listed, here⟩ := List.exists_of_findSome?_eq_some search
        rw [List.mem_reverse, List.mem_range] at listed
        obtain ⟨-, same⟩ := Option.ite_none_right_eq_some.mp here
        cases same
        omega
      simp only [suffix?_of_le within, lift_some_bind, Option.map_some]
      cases trial : commentForms.find? fun form =>
          form.pattern.fits (options.drop start) with
      | none => rfl
      | some form =>
          have fit : form.pattern.fits (options.drop start) = true := by
            simpa using List.find?_some trial
          have present : form.position < (options.drop start).length :=
            Nat.lt_of_lt_of_le
              (literal_lt_length form (List.mem_of_find?_eq_some trial))
              (Pattern.length_le_of_fits fit)
          simp only [token?, List.getElem?_eq_getElem present, lift_some_bind]
          rfl

/-- The value right behind a key: the last token of the form that fits. -/
def leadingValue (tokens : List Token) : Option (Option Token) :=
  match valueForms.find? fun form => form.fits tokens with
  | none => return none
  | some form => do
    let last ← difference? form.length 1
    let value ← token? tokens last
    return some value

theorem leadingValue_eq (tokens : List Token) :
    leadingValue tokens = some (Statement.leadingValue? tokens) := by
  rw [leadingValue, Statement.leadingValue?]
  cases found : valueForms.find? fun form => form.fits tokens with
  | none => rfl
  | some form =>
      have filled : ∀ form ∈ valueForms, 1 ≤ form.length := by decide
      have one := filled form (List.mem_of_find?_eq_some found)
      have fit : form.fits tokens = true := by
        simpa using List.find?_some found
      have enough := Pattern.length_le_of_fits fit
      have inside : form.length - 1 < tokens.length := by omega
      simp [difference?_of_le one, token?, inside]

/-- The value of an option, looked for behind each place of its key. -/
def optionValue? (key : Pattern) (options : List Token) :
    Option (Option Token) :=
  (List.range options.length).findSomeM? fun index => do
    let found ← suffix? options index
    if key.fits found then
      let behind ← suffix? options (index + key.length)
      leadingValue behind
    else return none

/-- The library looks for the value behind the same places of the key. -/
theorem findSome?_leadingValue? (key : Pattern) (options : List Token) :
    ((List.range options.length).findSome? fun index =>
        if key.fits (options.drop index) then
          Statement.leadingValue? ((options.drop index).drop key.length)
        else none) =
      Statement.optionValue? key options := by
  induction options with
  | nil => rfl
  | cons token rest hypothesis =>
      rw [List.length_cons, findSome?_range_succ, Statement.optionValue?,
        ← hypothesis]
      simp only [List.drop_zero, List.drop_succ_cons]
      by_cases fit : key.fits (token :: rest) = true
      · rw [if_pos fit]
        cases Statement.leadingValue? ((token :: rest).drop key.length) <;> rfl
      · rw [if_neg fit]
        rfl

theorem optionValue?_eq (key : Pattern) (options : List Token) :
    optionValue? key options = some (Statement.optionValue? key options) := by
  rw [← findSome?_leadingValue?]
  apply findSomeM?_of_inside
  intro index member
  have within := Nat.le_of_lt (List.mem_range.mp member)
  rw [suffix?_of_le within, Option.bind_eq_bind, Option.bind_some]
  split
  case isTrue fit =>
    have enough := Pattern.length_le_of_fits fit
    rw [List.length_drop] at enough
    rw [suffix?_of_le (by omega), Option.bind_some, leadingValue_eq,
      List.drop_drop]
  case isFalse => rfl

/-- The value of an option, empty if there is none. -/
def optionValue (key : Pattern) (options : List Token) : Option String := do
  let value ← optionValue? key options
  return value.getD ""

theorem optionValue_eq (key : Pattern) (options : List Token) :
    optionValue key options = some (Statement.optionValue key options) := by
  rw [optionValue, optionValue?_eq, Statement.optionValue]
  rfl

/-- The character set among the options; its short key is tried first. -/
def tableCharset (options : List Token) : Option String := do
  let short ← optionValue [.exactly "CHARSET"] options
  if short.isEmpty then
    optionValue [.exactly "CHARACTER", .blank, .exactly "SET"] options
  else return short

theorem tableCharset_eq (options : List Token) :
    tableCharset options = some (Statement.tableCharset options) := by
  rw [tableCharset, optionValue_eq, Option.bind_eq_bind, Option.bind_some,
    Statement.tableCharset]
  split
  case isTrue => exact optionValue_eq _ options
  case isFalse => rfl

/-! ## Table definitions -/

/-- Cuts a statement at its first parenthesis and the close of that. -/
def spans (statement : List Token) : Access Statement.Spans := do
  match position? "(" statement with
  | none => throw .missingBody
  | some start =>
    let close ← Bracket.closing statement start
    let header ← slice? statement 0 start
    let body ← slice? statement (start + 1) close
    let options ← suffix? statement (close + 1)
    return {
      header := Token.trim header
      body := Token.trim body
      options := Token.trim options }

theorem getElem?_of_position?
    {keyword : Token} {tokens : List Token} {start : Nat}
    (found : position? keyword tokens = some start) :
    tokens[start]? = some keyword := by
  obtain ⟨inside, here, -⟩ := List.findIdx?_eq_some_iff_getElem.mp found
  rw [List.getElem?_eq_getElem inside, beq_iff_eq.mp here]

theorem spans_eq (statement : List Token) :
    (spans statement).run = some (Statement.spans statement) := by
  rw [spans, Statement.spans]
  cases found : position? "(" statement with
  | none => rfl
  | some start =>
      dsimp only
      cases closed : Bracket.closing statement start with
      | error fault => rfl
      | ok close =>
          have opening := getElem?_of_position? found
          have partner := (Bracket.closing_eq_ok_iff opening).mp closed
          have within := (Bracket.closing_bounds closed).2
          have before : start ≤ statement.length :=
            Nat.le_of_lt (Nat.lt_trans partner.behind within)
          simp only [lift_ok_bind, lift_some_bind,
            slice?_of_le (Nat.zero_le start) before,
            slice?_of_le partner.behind (Nat.le_of_lt within),
            suffix?_of_le within, List.drop_zero]
          rfl

/-- Reads header and options; the body is kept as it is. -/
def spansClauses (parts : Statement.Spans) : Access Statement.Clauses := do
  let name ← tableName parts.header
  let comment ← tableComment parts.options
  let engine ← optionValue [.exactly "ENGINE"] parts.options
  let charset ← tableCharset parts.options
  let collation ← optionValue [.exactly "COLLATE"] parts.options
  return { table := { name, comment, engine, charset, collation }, body := parts.body }

theorem spansClauses_eq (parts : Statement.Spans) :
    (spansClauses parts).run = some parts.clauses := by
  refine run_bind_of_run (tableName_eq parts.header) fun name => ?_
  refine run_bind_of_run (tableComment_eq parts.options) fun comment => ?_
  simp only [optionValue_eq, tableCharset_eq, lift_some_bind]
  rfl

/-- The clauses of a table definition, none for any other statement. -/
def clauses (statement : List Token) : Access (Option Statement.Clauses) := do
  if Statement.isCreateTable statement then
    let parts ← spans statement
    let read ← spansClauses parts
    return some read
  else return none

theorem clauses_eq (statement : List Token) :
    (clauses statement).run = some (Statement.clauses statement) := by
  rw [clauses, Statement.clauses]
  split
  case isTrue =>
    refine run_bind_of_run (spans_eq statement) fun parts => ?_
    exact run_bind_of_run (spansClauses_eq parts) fun read => rfl
  case isFalse => rfl

/-! ## Sequences of statements -/

/-- The statements of a sequence, each of them a slice between semicolons. -/
def statements (tokens : List Token) : Option (List (List Token)) := do
  let chunks ←
    slices (fun _ token => token == ";") (fun _ _ => ()) tokens 0 0 () tokens
  return (chunks.map Token.trim).filter fun statement => !statement.isEmpty

theorem statements_eq (tokens : List Token) :
    statements tokens = some (Statement.split tokens) := by
  have cuts :
      slices (fun _ token => token == ";") (fun _ _ => ()) tokens 0 0 ()
          tokens =
        some (Statement.chunks tokens) :=
    slices_eq (fun _ => Statement.cut) (fun _ => rfl)
      (fun _ token rest => by simp [Statement.cut]) [] [] tokens ()
  rw [statements, cuts]
  rfl

/--
The number of the statement that holds the last token: one less than there are
statements.
-/
def lastStatement (tokens : List Token) : Option (Option Nat) :=
  if (Token.trim (Statement.tail tokens)).isEmpty then return none
  else do
    let found ← statements tokens
    let last ← difference? found.length 1
    return some last

theorem lastStatement_eq (tokens : List Token) :
    lastStatement tokens = some (Extractor.lastStatement? tokens) := by
  rw [lastStatement, Extractor.lastStatement?, statements_eq]
  split
  case isTrue => rfl
  case isFalse held =>
    have filled :=
      Statement.split_ne_nil_of_tail (Bool.eq_false_iff.mpr held)
    obtain ⟨first, others, parts⟩ := List.exists_cons_of_ne_nil filled
    rw [parts]
    rfl

end SqlCatalog.Indexed
