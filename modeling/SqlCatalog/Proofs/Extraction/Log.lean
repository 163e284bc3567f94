import Mathlib.Data.List.Forall2
import SqlCatalog.Extraction.Event
import SqlCatalog.Proofs.Extraction.Accounting

/-!
# The log and the extraction

The log of an extraction tells what the extraction shows.  Its warnings are
the diagnostics, its reports of tables are the tables, each in the same order
and with the same details, and each statement leaves exactly one event besides
the warnings about its columns.  Those warnings stand right in front of the
event that reports the table, whose name they carry.

Both are made statement by statement, so each result is a fact about one
outcome, lifted to all statements of a text.
-/

namespace SqlCatalog

open Extractor

/-! ## Details of events -/

/-- The number of the statement that an event is about. -/
def Event.statement? : Event → Option Nat
  | normalized .. => none
  | unterminatedStatement statement _ => some statement
  | unterminatedInput _ => none
  | unrelatedStatement statement => some statement
  | invalidStatement statement _ => some statement
  | invalidColumn statement .. => some statement
  | parsedTable statement .. => some statement

/-- The details by which an event tells a place. -/
def Location.fields : Location → List (String × Json)
  | input => []
  | statement number => [("statement", .integer number)]
  | column number fragment =>
    [("statement", .integer number), ("fragment", .integer fragment)]

/-- The wording of a fault in the log, which leaves out that it is lexical. -/
def Fault.logged : Fault → String
  | unterminated token => token.message
  | fault => fault.message

/-- The wording of the warning about a diagnostic. -/
def Diagnostic.warning (diagnostic : Diagnostic) : String :=
  match diagnostic.location with
  | .input => "unterminated token after the last statement"
  | .statement _ =>
    if diagnostic.fault.isUnterminated then "skipping unterminated statement"
    else "skipping invalid statement"
  | .column _ _ => "skipping invalid column"

/-- What an event adds to a place: for a column, the table in the log. -/
inductive Location.TableFields (log : List Event) :
    Location → List (String × Json) → Prop
  | input : TableFields log .input []
  | statement (number : Nat) : TableFields log (.statement number) []
  | column {number columns : Nat} {name : String}
      (parsed : .parsedTable number name columns ∈ log)
      (fragment : Nat) :
      TableFields log (.column number fragment) [("table", .string name)]

/-- An event of a log is the warning about a diagnostic. -/
structure Event.WarnsOf (log : List Event) (event : Event)
    (diagnostic : Diagnostic) : Prop where
  /-- The event is a warning. -/
  level : event.level = .warn
  /-- The kind of the diagnostic decides the wording. -/
  message : event.message = diagnostic.warning
  /-- The place and the fault are told, and the table of a column. -/
  fields : ∃ table, diagnostic.location.TableFields log table ∧
    event.fields = diagnostic.location.fields ++ table ++
      [("error", .string diagnostic.fault.logged)]

/-- An event of the log of a text reports a table of the extraction. -/
inductive Event.Presents (extractor : Extractor) (sql : String) (event : Event)
    (table : Table) : Prop
  | intro {number : Nat} {statement : List Token}
      (listed : (Statement.split (extractor.canonical sql))[number]? =
        some statement)
      (defined : Statement.Defines (extractor.extract sql) number statement
        table)
      (parsed : event = .parsedTable number table.name table.columns.length)

/-- Whether an event is a warning. -/
def Event.isWarning (event : Event) : Bool :=
  event.level = .warn

/-- Whether an event reports a table. -/
def Event.isTable (event : Event) : Bool :=
  event.level = .debug && event.message = "parsed table"

/-- The wordings of which each statement has one event. -/
def settlingMessages : List String :=
  ["skipping unterminated statement",
    "skipping statement that is not CREATE TABLE",
    "skipping invalid statement", "parsed table"]

/-- Whether an event settles the statement with the given number. -/
def Event.settles (number : Nat) (event : Event) : Bool :=
  event.message ∈ settlingMessages && event.statement? = some number

/-! ## The events of one statement -/

theorem Event.WarnsOf.mono
    {log more : List Event} {event : Event} {diagnostic : Diagnostic}
    (warns : event.WarnsOf log diagnostic)
    (subset : log ⊆ more) :
    event.WarnsOf more diagnostic := by
  refine ⟨warns.level, warns.message, ?_⟩
  obtain ⟨table, named, fields⟩ := warns.fields
  refine ⟨table, ?_, fields⟩
  rcases diagnostic with ⟨place, fault⟩
  cases named with
  | input => exact .input
  | statement number => exact .statement number
  | column parsed fragment => exact .column (subset parsed) fragment

/-- The warnings about the columns of a table. -/
def columnWarnings (number : Nat) (name : String)
    (fragments : List (List Token)) : List Event :=
  (Fragment.faults fragments).map fun (fragment, fault) =>
    .invalidColumn number fragment name fault

theorem of_mem_columnWarnings
    {number : Nat} {name : String} {fragments : List (List Token)}
    {event : Event}
    (member : event ∈ columnWarnings number name fragments) :
    ∃ fragment fault, event = .invalidColumn number fragment name fault := by
  obtain ⟨⟨fragment, fault⟩, -, rfl⟩ := List.mem_map.mp member
  exact ⟨fragment, fault, rfl⟩

/-- Whoever is not interested in warnings about columns looks past them. -/
theorem filter_columnWarnings
    {keep : Event → Bool} {number : Nat} {name : String}
    (quiet : ∀ fragment fault,
      keep (.invalidColumn number fragment name fault) = false)
    (fragments : List (List Token)) :
    (columnWarnings number name fragments).filter keep = [] := by
  rw [List.filter_eq_nil_iff]
  intro event member
  obtain ⟨fragment, fault, rfl⟩ := of_mem_columnWarnings member
  simp [quiet fragment fault]

namespace Outcome

/-- A diagnostic of a statement that was read is about no open token. -/
def IsClosed (outcome : Outcome) : Prop :=
  ∀ reading, outcome = .read reading → ∀ number,
    ∀ diagnostic ∈ outcome.diagnostics number,
      diagnostic.fault.isUnterminated = false

/-- The report of a table comes last. -/
theorem events_definition
    (header : Table) (fragments : List (List Token)) (number : Nat) :
    (Outcome.read (.definition header fragments)).events number =
      columnWarnings number header.name fragments ++
        [.parsedTable number header.name
          (Fragment.columns fragments).length] :=
  rfl

theorem of_mem_events
    {outcome : Outcome} {number : Nat} {event : Event}
    (member : event ∈ outcome.events number) :
    event.statement? = some number ∧ event.level ≠ .trace := by
  match outcome with
  | .unterminated token =>
      obtain rfl := List.mem_singleton.mp member
      exact ⟨rfl, Level.noConfusion⟩
  | .read .unrelated =>
      obtain rfl := List.mem_singleton.mp member
      exact ⟨rfl, Level.noConfusion⟩
  | .read (.invalid fault) =>
      obtain rfl := List.mem_singleton.mp member
      exact ⟨rfl, Level.noConfusion⟩
  | .read (.definition header fragments) =>
      rw [events_definition, List.mem_append] at member
      rcases member with warning | last
      · obtain ⟨fragment, fault, rfl⟩ := of_mem_columnWarnings warning
        exact ⟨rfl, Level.noConfusion⟩
      · obtain rfl := List.mem_singleton.mp last
        exact ⟨rfl, Level.noConfusion⟩

/-- The warnings of a statement are about what was left out of it. -/
theorem warnings_events
    {outcome : Outcome}
    (closed : outcome.IsClosed)
    (number : Nat) :
    List.Forall₂ (Event.WarnsOf (outcome.events number))
      ((outcome.events number).filter Event.isWarning)
      (outcome.diagnostics number) := by
  match outcome with
  | .unterminated token =>
      exact .cons ⟨rfl, rfl, [], .statement number, rfl⟩ .nil
  | .read .unrelated => exact .nil
  | .read (.invalid fault) =>
      have read := closed _ rfl number _ List.mem_cons_self
      refine .cons ⟨rfl, ?_, [], .statement number, ?_⟩ .nil
      · simp [Event.message, Diagnostic.warning, read]
      · cases fault with
        | unterminated token => cases read
        | _ => rfl
  | .read (.definition header fragments) =>
      have kept :
          (columnWarnings number header.name fragments).filter
              Event.isWarning =
            columnWarnings number header.name fragments := by
        rw [List.filter_eq_self]
        intro event member
        obtain ⟨fragment, fault, rfl⟩ := of_mem_columnWarnings member
        rfl
      have last :
          [Event.parsedTable number header.name
            (Fragment.columns fragments).length].filter Event.isWarning = [] :=
        rfl
      rw [events_definition, List.filter_append, kept, last, List.append_nil,
        columnWarnings, diagnostics, List.forall₂_map_left_iff,
        List.forall₂_map_right_iff, List.forall₂_same]
      rintro ⟨fragment, fault⟩ listed
      have read := closed _ rfl number _ (List.mem_map_of_mem listed)
      refine ⟨rfl, rfl, _, .column (List.mem_append_right _
        List.mem_cons_self) fragment, ?_⟩
      cases fault with
      | unterminated token => cases read
      | _ => rfl

/-- The statement's reports of tables. -/
theorem filter_isTable_events (outcome : Outcome) (number : Nat) :
    (outcome.events number).filter Event.isTable =
      (outcome.table?.map fun table =>
        Event.parsedTable number table.name table.columns.length).toList := by
  match outcome with
  | .unterminated token => rfl
  | .read .unrelated => rfl
  | .read (.invalid fault) => rfl
  | .read (.definition header fragments) =>
      rw [events_definition, List.filter_append,
        filter_columnWarnings fun _ _ => rfl, List.nil_append]
      rfl

/-- Besides the warnings about its columns a statement has one event. -/
theorem filter_settles_events (outcome : Outcome) (number : Nat) :
    ∃ event,
      (outcome.events number).filter (Event.settles number) = [event] := by
  have own :
      ∀ {event : Event}, event.message ∈ settlingMessages →
        event.statement? = some number →
          [event].filter (Event.settles number) = [event] := by
    intro event wording about
    simp [Event.settles, wording, about]
  match outcome with
  | .unterminated token =>
      exact ⟨_, own (by simp [settlingMessages, Event.message]) rfl⟩
  | .read .unrelated =>
      exact ⟨_, own (by simp [settlingMessages, Event.message]) rfl⟩
  | .read (.invalid fault) =>
      exact ⟨_, own (by simp [settlingMessages, Event.message]) rfl⟩
  | .read (.definition header fragments) =>
      have quiet :
          ∀ fragment fault,
            Event.settles number
              (.invalidColumn number fragment header.name fault) = false := by
        simp [Event.settles, settlingMessages, Event.message]
      rw [events_definition, List.filter_append, filter_columnWarnings quiet,
        List.nil_append]
      exact ⟨_, own (by simp [settlingMessages, Event.message]) rfl⟩

/-- In front of the report of a table stand warnings with its name. -/
theorem events_eq_of_mem_parsedTable
    {outcome : Outcome} {number place columns : Nat} {name : String}
    (member : .parsedTable place name columns ∈ outcome.events number) :
    place = number ∧
    ∃ warnings,
      outcome.events number = warnings ++ [.parsedTable number name columns] ∧
      ∀ event ∈ warnings, ∃ fragment fault,
        event = .invalidColumn number fragment name fault := by
  match outcome with
  | .unterminated token => cases List.mem_singleton.mp member
  | .read .unrelated => cases List.mem_singleton.mp member
  | .read (.invalid fault) => cases List.mem_singleton.mp member
  | .read (.definition header fragments) =>
      rw [events_definition, List.mem_append] at member
      rcases member with warning | last
      · obtain ⟨fragment, fault, other⟩ := of_mem_columnWarnings warning
        cases other
      · cases List.mem_singleton.mp last
        exact ⟨rfl, _, events_definition _ _ _,
          fun event listed => of_mem_columnWarnings listed⟩

end Outcome

/-! ## The events of a text -/

section Whole

variable (extractor : Extractor) (sql : String)

/-- What the log says first, if the text has tokens enough. -/
def Extractor.preamble : List Event :=
  if extractor.minTokens ≤ (tokenize sql).tokens.length then
    [.normalized (tokenize sql).tokens.length
      (extractor.canonical sql).length]
  else []

/-- What the log says last, if no statement holds the open token. -/
def Extractor.epilogue : List Event :=
  ((dangling? (extractor.canonical sql) (tokenize sql).fault).map
    Event.unterminatedInput).toList

/-- The log is made statement by statement. -/
theorem events_report :
    (extractor.report sql).events =
      extractor.preamble sql ++
        ((Statement.split (extractor.canonical sql)).zipIdx.flatMap
          fun entry => (extractor.outcomeOf sql entry).events entry.2) ++
        extractor.epilogue sql := by
  have first :
      ((extractor.report sql).canonicalCount.map fun canonical =>
        Event.normalized (extractor.report sql).tokenCount
          canonical).toList = extractor.preamble sql := by
    simp only [report, preamble, ← Nat.not_lt]
    split <;> simp_all [Extractor.canonical]
  rw [Report.events, first]
  simp only [report, zipIdx_map_zipIdx, List.flatMap_map]
  rfl

/-- Events of one kind are found statement by statement, and at the end. -/
theorem filter_report
    {keep : Event → Bool}
    (quiet : ∀ tokens canonical, keep (.normalized tokens canonical) = false) :
    (extractor.report sql).events.filter keep =
      ((Statement.split (extractor.canonical sql)).zipIdx.flatMap
        fun entry =>
          ((extractor.outcomeOf sql entry).events entry.2).filter keep) ++
        (extractor.epilogue sql).filter keep := by
  have first : (extractor.preamble sql).filter keep = [] := by
    unfold preamble
    split
    · simp [quiet]
    · rfl
  rw [events_report, List.filter_append, List.filter_append,
    List.filter_flatMap, first, List.nil_append]

theorem isClosed_outcomeOf (entry : List Token × Nat) :
    (extractor.outcomeOf sql entry).IsClosed := by
  rcases entry with ⟨statement, number⟩
  intro reading read place diagnostic member
  rcases outcomeOf_cases extractor sql statement number with
    ⟨token, -, outcome⟩ | ⟨-, outcome⟩
  · rw [outcome] at read
    cases read
  · rw [outcome] at member
    exact isUnterminated_of_mem_read member

theorem warnings_report :
    List.Forall₂ (Event.WarnsOf (extractor.report sql).events)
      ((extractor.report sql).events.filter Event.isWarning)
      (extractor.extract sql).diagnostics := by
  have each :
      ∀ entry ∈ (Statement.split (extractor.canonical sql)).zipIdx,
        List.Forall₂ (Event.WarnsOf (extractor.report sql).events)
          (((extractor.outcomeOf sql entry).events entry.2).filter
            Event.isWarning)
          ((extractor.outcomeOf sql entry).diagnostics entry.2) := by
    intro entry listed
    have own := Outcome.warnings_events
      (isClosed_outcomeOf extractor sql entry) entry.2
    refine own.imp fun event diagnostic warns => warns.mono ?_
    intro other member
    rw [events_report]
    exact List.mem_append_left _ (List.mem_append_right _
      (List.mem_flatMap_of_mem listed member))
  have last :
      List.Forall₂ (Event.WarnsOf (extractor.report sql).events)
        ((extractor.epilogue sql).filter Event.isWarning)
        ((dangling? (extractor.canonical sql) (tokenize sql).fault).map
          fun token => Diagnostic.mk .input (.unterminated token)).toList := by
    rw [epilogue]
    cases dangling? (extractor.canonical sql) (tokenize sql).fault with
    | none => exact .nil
    | some token => exact .cons ⟨rfl, rfl, [], .input, rfl⟩ .nil
  rw [filter_report extractor sql fun _ _ => rfl, extract_eq_ofTokens,
    Extraction.ofTokens]
  exact List.rel_append
    (List.rel_flatMap (List.forall₂_same.mpr each) fun _ _ related => related)
    last

theorem tables_report :
    List.Forall₂ (Event.Presents extractor sql)
      ((extractor.report sql).events.filter Event.isTable)
      (extractor.extract sql).tables := by
  have last : (extractor.epilogue sql).filter Event.isTable = [] := by
    rw [epilogue]
    cases dangling? (extractor.canonical sql) (tokenize sql).fault <;> rfl
  have each :
      ∀ entry ∈ (Statement.split (extractor.canonical sql)).zipIdx,
        List.Forall₂ (Event.Presents extractor sql)
          (((extractor.outcomeOf sql entry).events entry.2).filter
            Event.isTable)
          (extractor.outcomeOf sql entry).table?.toList := by
    intro entry member
    have listed := List.mem_zipIdx_iff_getElem?.mp member
    rw [Outcome.filter_isTable_events]
    cases found : (extractor.outcomeOf sql entry).table? with
    | none => exact .nil
    | some table =>
        exact .cons (.intro listed (defines_of_table? listed found) rfl) .nil
  rw [filter_report extractor sql fun _ _ => rfl, last, List.append_nil,
    extract_eq_ofTokens, Extraction.ofTokens,
    List.filterMap_eq_flatMap_toList]
  exact List.rel_flatMap (List.forall₂_same.mpr each)
    fun _ _ related => related

variable {extractor sql}

theorem statement?_of_mem_preamble
    {event : Event}
    (member : event ∈ extractor.preamble sql) :
    event.statement? = none := by
  unfold preamble at member
  split at member
  · cases List.mem_singleton.mp member
    rfl
  · cases member

theorem of_mem_epilogue
    {event : Event}
    (member : event ∈ extractor.epilogue sql) :
    event.statement? = none ∧ event.level = .warn := by
  rw [epilogue, Option.mem_toList] at member
  obtain ⟨token, -, rfl⟩ := Option.map_eq_some_iff.mp member
  exact ⟨rfl, rfl⟩

/-- The events about one statement stand together in the log. -/
theorem exists_parts_report
    {number : Nat} {statement : List Token}
    (listed : (Statement.split (extractor.canonical sql))[number]? =
      some statement) :
    ∃ before after,
      (extractor.report sql).events =
        before ++ (extractor.outcomeOf sql (statement, number)).events number ++
          after ∧
      ∀ event ∈ before ++ after, event.statement? ≠ some number := by
  obtain ⟨front, back, parts, others⟩ := exists_zipIdx_parts listed
  have apart :
      ∀ entries ⊆ front ++ back,
        ∀ event ∈ entries.flatMap fun entry =>
            (extractor.outcomeOf sql entry).events entry.2,
          event.statement? ≠ some number := by
    intro entries subset event reported same
    obtain ⟨entry, inside, own⟩ := List.mem_flatMap.mp reported
    rw [(Outcome.of_mem_events own).1] at same
    cases same
    exact others entry (subset inside) rfl
  refine ⟨extractor.preamble sql ++ front.flatMap fun entry =>
      (extractor.outcomeOf sql entry).events entry.2,
    (back.flatMap fun entry =>
      (extractor.outcomeOf sql entry).events entry.2) ++
        extractor.epilogue sql, ?_, ?_⟩
  · rw [events_report, parts, List.flatMap_append, List.flatMap_cons]
    simp only [List.append_assoc]
  · intro event member
    simp only [List.mem_append] at member
    rcases member with (first | early) | late | last
    · simp [statement?_of_mem_preamble first]
    · exact apart front (List.subset_append_left _ _) event early
    · exact apart back (List.subset_append_right _ _) event late
    · simp [(of_mem_epilogue last).1]

/-- No event of another statement settles the statement. -/
theorem filter_settles_report
    {number : Nat} {statement : List Token}
    (listed : (Statement.split (extractor.canonical sql))[number]? =
      some statement) :
    ∃ event,
      (extractor.report sql).events.filter (Event.settles number) = [event] := by
  obtain ⟨before, after, parts, others⟩ := exists_parts_report listed
  have quiet :
      ∀ events ⊆ before ++ after, events.filter (Event.settles number) = [] := by
    intro events subset
    rw [List.filter_eq_nil_iff]
    intro event member
    simp [Event.settles, others event (subset member)]
  rw [parts, List.filter_append, List.filter_append,
    quiet before (List.subset_append_left _ _),
    quiet after (List.subset_append_right _ _), List.nil_append, List.append_nil]
  exact Outcome.filter_settles_events _ number

/-- An event about a statement is among those of the statement. -/
theorem exists_listed_of_mem_report
    {number : Nat} {event : Event}
    (member : event ∈ (extractor.report sql).events)
    (about : event.statement? = some number) :
    ∃ statement,
      (Statement.split (extractor.canonical sql))[number]? = some statement ∧
      event ∈ (extractor.outcomeOf sql (statement, number)).events number := by
  rw [events_report] at member
  rcases List.mem_append.mp member with early | late
  · rcases List.mem_append.mp early with first | inner
    · cases (statement?_of_mem_preamble first).symm.trans about
    · obtain ⟨⟨statement, place⟩, listed, own⟩ := List.mem_flatMap.mp inner
      cases (Outcome.of_mem_events own).1.symm.trans about
      exact ⟨statement, List.mk_mem_zipIdx_iff_getElem?.mp listed, own⟩
  · cases (of_mem_epilogue late).1.symm.trans about

/-- The warnings about the columns of a table stand before its report. -/
theorem events_eq_of_mem_report
    {number columns : Nat} {name : String}
    (member : .parsedTable number name columns ∈
      (extractor.report sql).events) :
    ∃ before warnings after,
      (extractor.report sql).events =
        before ++ (warnings ++ [.parsedTable number name columns]) ++ after ∧
      (∀ event ∈ warnings, ∃ fragment fault,
        event = .invalidColumn number fragment name fault) ∧
      ∀ event ∈ before ++ after, event.statement? ≠ some number := by
  obtain ⟨statement, listed, own⟩ := exists_listed_of_mem_report member rfl
  obtain ⟨before, after, parts, others⟩ := exists_parts_report listed
  obtain ⟨-, warnings, events, named⟩ :=
    Outcome.events_eq_of_mem_parsedTable own
  rw [events] at parts
  exact ⟨before, warnings, after, parts, named, others⟩

end Whole

/--
The log of an extraction agrees with it.  It starts with the numbers of tokens
if the text is long enough, and never mentions them again.  Its warnings are
the diagnostics and its reports of tables are the tables, in order and one by
one.  Each statement is settled by one event, and right in front of a table's
report stand all other events about its statement, which are warnings with the
name of the table.
-/
theorem events_agree (extractor : Extractor) (sql : String) :
    (∃ later, (extractor.report sql).events =
        (if extractor.minTokens ≤ (tokenize sql).tokens.length then
          [.normalized (tokenize sql).tokens.length
            (extractor.canonical sql).length]
        else []) ++ later ∧
      ∀ event ∈ later, event.level ≠ .trace) ∧
    List.Forall₂ (Event.WarnsOf (extractor.report sql).events)
      ((extractor.report sql).events.filter Event.isWarning)
      (extractor.extract sql).diagnostics ∧
    List.Forall₂ (Event.Presents extractor sql)
      ((extractor.report sql).events.filter Event.isTable)
      (extractor.extract sql).tables ∧
    (∀ number < (Statement.split (extractor.canonical sql)).length,
      ∃ event, (extractor.report sql).events.filter (Event.settles number) =
        [event]) ∧
    ∀ number name columns,
      .parsedTable number name columns ∈ (extractor.report sql).events →
        ∃ before warnings after,
          (extractor.report sql).events =
            before ++ (warnings ++ [.parsedTable number name columns]) ++
              after ∧
          (∀ event ∈ warnings, ∃ fragment fault,
            event = .invalidColumn number fragment name fault) ∧
          ∀ event ∈ before ++ after, event.statement? ≠ some number := by
  refine ⟨?_, warnings_report extractor sql, tables_report extractor sql,
    ?_, ?_⟩
  · refine ⟨_, (events_report extractor sql).trans
      (List.append_assoc _ _ _), ?_⟩
    intro event member
    rcases List.mem_append.mp member with inner | last
    · obtain ⟨entry, -, own⟩ := List.mem_flatMap.mp inner
      exact (Outcome.of_mem_events own).2
    · rw [(of_mem_epilogue last).2]
      exact Level.noConfusion
  · intro number inside
    exact filter_settles_report (List.getElem?_eq_getElem inside)
  · intro number name columns member
    exact events_eq_of_mem_report member

/--
A statement of another kind, a table with a column that has no type, and an
open literal in the last statement.
-/
theorem events_agree_mixed :
    let sql := "SELECT 1; CREATE TABLE 'a' /* t */ ('b' INT, 'c'); DROP 'd"
    let log := ((Extractor.mk 3).report sql).events
    log =
        [.normalized 26 24, .unrelatedStatement 0,
          .invalidColumn 1 1 "a" (.bareColumnName 1), .parsedTable 1 "a" 1,
          .unterminatedStatement 2 (.literal 56)] ∧
      List.Forall₂ (Event.WarnsOf log)
        [.invalidColumn 1 1 "a" (.bareColumnName 1),
          .unterminatedStatement 2 (.literal 56)]
        ((Extractor.mk 3).extract sql).diagnostics ∧
      (∃ event, log.filter (Event.settles 1) = [event]) ∧
      ∃ before warnings after,
        log = before ++ (warnings ++ [.parsedTable 1 "a" 1]) ++ after ∧
        (∀ event ∈ warnings, ∃ fragment fault,
          event = .invalidColumn 1 fragment "a" fault) ∧
        ∀ event ∈ before ++ after, event.statement? ≠ some 1 := by
  intro sql log
  have events :
      log =
        [.normalized 26 24, .unrelatedStatement 0,
          .invalidColumn 1 1 "a" (.bareColumnName 1), .parsedTable 1 "a" 1,
          .unterminatedStatement 2 (.literal 56)] := by
    decide +kernel
  have inside :
      1 < (Statement.split ((Extractor.mk 3).canonical sql)).length := by
    decide +kernel
  have warnings :
      log.filter Event.isWarning =
        [.invalidColumn 1 1 "a" (.bareColumnName 1),
          .unterminatedStatement 2 (.literal 56)] := by
    rw [events]
    decide
  have reported : .parsedTable 1 "a" 1 ∈ log := by
    rw [events]
    decide
  obtain ⟨-, warned, -, settled, together⟩ := events_agree ⟨3⟩ sql
  rw [warnings] at warned
  exact ⟨events, warned, settled 1 inside, together 1 "a" 1 reported⟩

end SqlCatalog
