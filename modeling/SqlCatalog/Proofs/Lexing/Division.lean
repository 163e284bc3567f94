import SqlCatalog.Proofs.Lexing.Seam

/-!
# Reading a text in parts

A text can be cut between any two of its tokens: both parts are read as the
tokens that they consist of, and so is each token.  What stands behind a token
can only end it, so nothing changes when it is taken away; what stands in front
of a token does not matter at all.

A complaint concerns the last token.  So it is made of the part that holds that
token, at an offset that counts from the start of the part.
-/

namespace SqlCatalog

/-- Whatever a lexeme stands before, it stands at the end of a text, too. -/
theorem Lexeme.StandsBefore.at_end
    {lexeme : Lexeme} {rest : List Char}
    (stands : lexeme.StandsBefore rest) :
    lexeme.StandsBefore [] := by
  cases stands with
  | literal allowed _ => exact .literal allowed (by simp)
  | openLiteral unclosed => exact .openLiteral unclosed
  | lineComment opening line _ => exact .lineComment opening line (by simp)
  | blockComment inside => exact .blockComment inside
  | openComment inside => exact .openComment inside
  | blank run _ => exact .blank run (by simp)
  | word run _ _ => exact .word run (by simp) fun _ => rfl
  | decimal start run fraction numeric _ =>
      exact .decimal start run fraction numeric (by simp)
  | symbol start _ => exact .symbol start (by simp)
  | longSymbol listed => exact .longSymbol listed

/-- Lexemes that are read in front of a text are read on their own. -/
theorem Reads.alone
    {front : List Lexeme} {rest : List Char}
    (reads : Reads front rest) :
    Reads front [] := by
  apply reads.swap (by simp)
  intro lexeme last
  exact (reads.standsBefore_of_getLast? last).at_end

/-! ## The two parts of a text -/

section Parts

variable {sql : String} {front back : List Token}

/-- Two parts of the tokens are two parts of the lexemes. -/
theorem exists_reads_of_tokens_eq
    (parts : (tokenize sql).tokens = front ++ back) :
    ∃ before behind, before.map Lexeme.token = front ∧
      behind.map Lexeme.token = back ∧
      lexemes sql.toList = before ++ behind ∧
      Reads before (spelling behind) ∧ Reads behind [] := by
  rw [tokenize_tokens] at parts
  obtain ⟨before, behind, cut, rfl, rfl⟩ := List.map_eq_append_iff.mp parts
  have reads := reads_lexemes sql.toList
  rw [cut, reads_append, List.append_nil] at reads
  exact ⟨before, behind, rfl, rfl, cut, reads⟩

theorem spelling_ne_nil
    {sequence : List Lexeme} {rest : List Char}
    (reads : Reads sequence rest)
    (filled : sequence ≠ []) :
    spelling sequence ≠ [] := by
  obtain ⟨lexeme, later, rfl⟩ := List.exists_cons_of_ne_nil filled
  simp [reads.1.text_ne_nil]

/-- The first part is complained of only if it is the whole text. -/
theorem tokenize_join_front
    (parts : (tokenize sql).tokens = front ++ back) :
    tokenize (String.join front) =
      ⟨front, if back = [] then (tokenize sql).fault else none⟩ := by
  obtain ⟨before, behind, rfl, rfl, cut, reads, others⟩ :=
    exists_reads_of_tokens_eq parts
  rw [tokenize_join_of_reads reads.alone]
  by_cases whole : behind = []
  · simp [whole, cut]
  · have closed := reads.isOpen_eq_false (spelling_ne_nil others whole)
    rw [(lastFault?_eq_none_iff 0 before).mpr closed]
    simp [whole]

/-- The second part has the complaint about the text, if it holds a token. -/
theorem tokenize_join_back
    (parts : (tokenize sql).tokens = front ++ back) :
    tokenize (String.join back) =
      ⟨back, if back = [] then none
        else (tokenize sql).fault.map
          (Unterminated.moved (-byteLength (String.join front).toList))⟩ := by
  obtain ⟨before, behind, rfl, rfl, cut, reads, others⟩ :=
    exists_reads_of_tokens_eq parts
  rw [tokenize_join_of_reads others]
  by_cases nothing : behind = []
  · simp [nothing, Lexeme.lastFault?]
  · have closed := reads.isOpen_eq_false (spelling_ne_nil others nothing)
    have moved := lastFault?_moved (byteLength (spelling before)) 0 behind
    rw [toList_join_tokens, tokenize_fault, cut,
      lastFault?_append_closed closed, Nat.zero_add, moved]
    simp [nothing]

/-- What is complained of stands in the second part, if that holds a token. -/
theorem le_position_of_fault
    (parts : (tokenize sql).tokens = front ++ back)
    (more : back ≠ []) :
    ∀ token ∈ (tokenize sql).fault,
      byteLength (String.join front).toList ≤ token.position := by
  obtain ⟨before, behind, rfl, rfl, cut, reads, others⟩ :=
    exists_reads_of_tokens_eq parts
  have closed :=
    reads.isOpen_eq_false (spelling_ne_nil others (by simpa using more))
  rw [toList_join_tokens, tokenize_fault, cut, lastFault?_append_closed closed,
    Nat.zero_add]
  exact fun token found => le_position_of_lastFault? found

end Parts

/-! ## Cursors -/

namespace Cursor

/-- The tokens that a number of steps takes, and the cursor behind them. -/
def advance : Nat → Cursor → List Token × Cursor
  | 0, cursor => ([], cursor)
  | count + 1, cursor =>
    match cursor.next? with
    | none => ([], cursor)
    | some (token, later) =>
      (token :: (advance count later).1, (advance count later).2)

/-- Steps take the first tokens, and what is left are the others. -/
theorem advance_eq (count : Nat) (cursor : Cursor) :
    (advance count cursor).1 = cursor.drain.tokens.take count ∧
      (advance count cursor).2.drain =
        ⟨cursor.drain.tokens.drop count, cursor.drain.fault⟩ := by
  induction count generalizing cursor with
  | zero => simp [advance]
  | succ count hypothesis =>
      cases step : cursor.next? with
      | none =>
          have finished := drain_of_next?_none step
          simp [advance, step, finished]
      | some entry =>
          obtain ⟨token, later⟩ := entry
          have taken := drain_of_next?_some step
          obtain ⟨first, rest⟩ := hypothesis later
          simp [advance, step, taken, first, rest]

end Cursor

/-! ## Whole texts -/

/-- A text is read in two parts as it is read in one. -/
structure FallsApart (sql : String) (front back : List Token) : Prop where
  /-- The first part has no complaint unless it is the whole text. -/
  first : tokenize (String.join front) =
    ⟨front, if back = [] then (tokenize sql).fault else none⟩
  /-- The second part has the complaint about the text, from its own start. -/
  second : tokenize (String.join back) =
    ⟨back, if back = [] then none
      else (tokenize sql).fault.map
        (Unterminated.moved (-byteLength (String.join front).toList))⟩
  /-- What is complained of does not stand in the first part. -/
  behind : back ≠ [] → ∀ token ∈ (tokenize sql).fault,
    byteLength (String.join front).toList ≤ token.position
  /-- A cursor that has taken the first part has the second one left. -/
  steps : ∃ cursor,
    (Cursor.start sql).advance front.length = (front, cursor) ∧
      cursor.drain = ⟨back, (tokenize sql).fault⟩

/--
A text falls apart wherever its tokens are divided, and every token but the
last one is read alone as itself.
-/
theorem tokenize_falls_apart
    {sql : String} {front back : List Token}
    (parts : (tokenize sql).tokens = front ++ back) :
    FallsApart sql front back ∧
      ∀ before token behind, (tokenize sql).tokens = before ++ token :: behind →
        behind ≠ [] → tokenize token = ⟨[token], none⟩ := by
  constructor
  · refine ⟨tokenize_join_front parts, tokenize_join_back parts,
      le_position_of_fault parts, ?_⟩
    obtain ⟨taken, left⟩ := (Cursor.start sql).advance_eq front.length
    have whole : (Cursor.start sql).drain = tokenize sql := rfl
    rw [whole, parts, List.take_left] at taken
    rw [whole, parts, List.drop_left] at left
    exact ⟨_, Prod.ext taken rfl, left⟩
  · intro before token behind divided more
    -- A token is the first part of what starts with it.
    have later :
        (tokenize (String.join (token :: behind))).tokens =
          [token] ++ behind :=
      congrArg Lexed.tokens (tokenize_join_back divided)
    simpa [more] using tokenize_join_front later

/--
A number with a point behind it, a doubled mark and an open literal: each of
them looks at what follows.
-/
theorem tokenize_falls_apart_at_point :
    let sql := "1.5.é'a''b'\x22c"
    let front := ["1.5", "."]
    let back := ["é", "'a''b'", "\x22c"]
    (tokenize sql).tokens = front ++ back ∧
      tokenize (String.join front) = ⟨front, none⟩ ∧
      tokenize (String.join back) = ⟨back, some (.literal 8)⟩ ∧
      tokenize "'a''b'" = ⟨["'a''b'"], none⟩ := by
  intro sql front back
  have parts : (tokenize sql).tokens = front ++ back := by decide +kernel
  obtain ⟨apart, alone⟩ := tokenize_falls_apart parts
  have complaint : (tokenize sql).fault = some (.literal 12) := by
    decide +kernel
  refine ⟨parts, apart.first, ?_, ?_⟩
  · rw [apart.second, complaint]
    decide +kernel
  · exact alone ["1.5", ".", "é"] "'a''b'" ["\x22c"] parts (by simp)

end SqlCatalog
