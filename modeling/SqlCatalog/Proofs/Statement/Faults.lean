import SqlCatalog.Proofs.Statement.Lookup
import SqlCatalog.Statement.Reading

/-!
# Which faults reading can find

Reading a statement looks at its tokens only, so it never finds an open
literal or comment.  The lemmas below list for each reader the faults that it
can return; callers need no more than the list.
-/

namespace SqlCatalog

theorem bind_error_cases
    {Problem Value Result : Type}
    {first : Except Problem Value} {next : Value → Except Problem Result}
    {problem : Problem}
    (failed : (first >>= next) = .error problem) :
    first = .error problem ∨
      ∃ value, first = .ok value ∧ next value = .error problem := by
  cases first with
  | error found =>
      cases failed
      exact Or.inl rfl
  | ok value => exact Or.inr ⟨value, rfl, failed⟩

theorem bind_ok_cases
    {Problem Value Result : Type}
    {first : Except Problem Value} {next : Value → Except Problem Result}
    {result : Result}
    (read : (first >>= next) = .ok result) :
    ∃ value, first = .ok value ∧ next value = .ok result := by
  cases first with
  | error found => cases read
  | ok value => exact ⟨value, rfl, read⟩

theorem Bracket.closing_error
    {tokens : List Token} {start : Nat} {fault : Fault}
    (failed : closing tokens start = .error fault) :
    fault = .unclosedParenthesis start := by
  unfold closing at failed
  split at failed
  · cases failed
  · cases failed
    rfl

namespace Statement

theorem spans_error
    {statement : List Token} {fault : Fault}
    (failed : spans statement = .error fault) :
    fault = .missingBody ∨ ∃ index, fault = .unclosedParenthesis index := by
  unfold spans at failed
  split at failed
  case h_1 =>
    cases failed
    exact Or.inl rfl
  case h_2 start _ =>
    split at failed
    case h_1 closing =>
      cases failed
      exact Or.inr ⟨start, Bracket.closing_error closing⟩
    case h_2 => cases failed

theorem tableName_error
    {header : List Token} {fault : Fault}
    (failed : tableName header = .error fault) :
    fault = .unrecognizedName := by
  unfold tableName at failed
  split at failed
  case h_1 =>
    cases failed
    rfl
  case h_2 =>
    split at failed
    case h_1 =>
      cases failed
      rfl
    case h_2 =>
      split at failed
      · cases failed
        rfl
      · cases failed

theorem tableComment_error
    {options : List Token} {fault : Fault}
    (failed : tableComment options = .error fault) :
    fault = .malformedComment := by
  unfold tableComment at failed
  split at failed
  case h_1 => cases failed
  case h_2 =>
    split at failed
    case h_1 =>
      cases failed
      rfl
    case h_2 =>
      split at failed
      · cases failed
        rfl
      · cases failed

/-- A table definition is cut first; what is left to fail are two clauses. -/
theorem clauses_error_cases
    {statement : List Token} {fault : Fault}
    (failed : clauses statement = .error fault) :
    (isCreateTable statement = true ∧ spans statement = .error fault) ∨
      fault = .unrecognizedName ∨ fault = .malformedComment := by
  unfold clauses at failed
  split at failed
  case isFalse => cases failed
  case isTrue create =>
    rcases bind_error_cases failed with cutting | ⟨parts, -, failed⟩
    · exact Or.inl ⟨create, cutting⟩
    · rcases bind_error_cases failed with reading | ⟨read, -, failed⟩
      · rcases bind_error_cases reading with naming | ⟨name, -, reading⟩
        · exact Or.inr (Or.inl (tableName_error naming))
        · rcases bind_error_cases reading with
            commenting | ⟨comment, -, reading⟩
          · exact Or.inr (Or.inr (tableComment_error commenting))
          · cases reading
      · cases failed

/-- The faults of a statement as a whole. -/
theorem clauses_error
    {statement : List Token} {fault : Fault}
    (failed : clauses statement = .error fault) :
    (fault = .missingBody ∨ ∃ index, fault = .unclosedParenthesis index) ∨
      fault = .unrecognizedName ∨ fault = .malformedComment := by
  rcases clauses_error_cases failed with ⟨-, cutting⟩ | reading
  · exact Or.inl (spans_error cutting)
  · exact Or.inr reading

/-- The clauses of a table definition are read from its three spans. -/
theorem of_clauses_eq_some
    {statement : List Token} {found : Clauses}
    (read : clauses statement = .ok (some found)) :
    ∃ parts name comment,
      spans statement = .ok parts ∧ tableName parts.header = .ok name ∧
      tableComment parts.options = .ok comment ∧
      found = {
        table := {
          name
          comment
          engine := tableEngine parts.options
          charset := tableCharset parts.options
          collation := tableCollation parts.options }
        body := parts.body } := by
  unfold clauses at read
  split at read
  case isFalse => cases read
  case isTrue =>
    obtain ⟨parts, cutting, read⟩ := bind_ok_cases read
    obtain ⟨inner, reading, read⟩ := bind_ok_cases read
    obtain ⟨name, naming, reading⟩ := bind_ok_cases reading
    obtain ⟨comment, commenting, reading⟩ := bind_ok_cases reading
    cases reading
    cases read
    exact ⟨parts, name, comment, cutting, naming, commenting, rfl⟩

/-- The body among the clauses is the one at which the statement was cut. -/
theorem spans_of_clauses
    {statement : List Token} {found : Clauses}
    (read : clauses statement = .ok (some found)) :
    ∃ parts, spans statement = .ok parts ∧ found.body = parts.body := by
  obtain ⟨parts, _, _, cutting, -, -, rfl⟩ := of_clauses_eq_some read
  exact ⟨parts, cutting, rfl⟩

end Statement

namespace Fragment

/-- A default value fails at a parenthesis that is never closed. -/
theorem defaultValue_error_cases
    {fragment : List Token} {fault : Fault}
    (failed : defaultValue fragment = .error fault) :
    ∃ front rest,
      fragment = front ++ "DEFAULT" :: Token.blank :: "(" :: rest ∧
        Bracket.closing ("DEFAULT" :: Token.blank :: "(" :: rest) 2 =
          .error fault := by
  have parts := List.takeWhile_append_dropWhile (p := (· != "DEFAULT"))
    (l := fragment)
  simp only [defaultValue] at failed
  generalize fragment.dropWhile (· != "DEFAULT") = clause at failed parts
  split at failed
  case isTrue => cases failed
  case isFalse =>
    split at failed
    case isFalse => cases failed
    case isTrue fit =>
      obtain ⟨rest, rfl⟩ :=
        (Pattern.fits_keys_iff ["DEFAULT", Token.blank, "("]).mp fit
      refine ⟨_, rest, parts.symm, ?_⟩
      split at failed
      case h_1 closing =>
        cases failed
        exact closing
      case h_2 => cases failed

theorem defaultValue_error
    {fragment : List Token} {fault : Fault}
    (failed : defaultValue fragment = .error fault) :
    fault = .unclosedParenthesis 2 := by
  obtain ⟨_, _, -, unclosed⟩ := defaultValue_error_cases failed
  exact Bracket.closing_error unclosed

/-- A fragment is at fault for its name or for its default value. -/
theorem column_error_cases
    {fragment : List Token} {fault : Fault}
    (failed : column fragment = .error fault) :
    fault = .bareColumnName 1 ∨ fault = .emptyColumnName ∨
      defaultValue fragment = .error fault := by
  cases fragment with
  | nil => cases failed
  | cons first rest =>
      simp only [column] at failed
      split at failed
      · cases failed
      · split at failed
        case isTrue bare =>
          cases failed
          have nothing : rest = [] := List.isEmpty_iff.mp bare
          exact Or.inl (by simp [nothing])
        case isFalse =>
          split at failed
          · cases failed
            exact Or.inr (Or.inl rfl)
          · rcases bind_error_cases failed with value | ⟨_, -, failed⟩
            · exact Or.inr (Or.inr value)
            · cases failed

/-- The faults of a fragment. -/
theorem column_error
    {fragment : List Token} {fault : Fault}
    (failed : column fragment = .error fault) :
    fault = .bareColumnName 1 ∨ fault = .emptyColumnName ∨
      fault = .unclosedParenthesis 2 :=
  (column_error_cases failed).imp_right (.imp_right defaultValue_error)

end Fragment

end SqlCatalog
