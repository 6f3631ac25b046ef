import Mathlib.Algebra.Ring.Int.Defs
import TableQuery.Proofs.Engine.Accounting
import TableQuery.Proofs.Engine.Logging
import TableQuery.Proofs.Log.Lines

/-! The log and the counters.

What a stage counts it also writes into a line, as decimal text. Read back and summed up, the lines
of any calls are what the counters have gained by them, also where a call failed between stages.
-/

set_option autoImplicit false

namespace TableQuery

namespace LogLine

/-- The whole number that a line shows under a key, and 0 where it shows none. -/
def number (line : LogLine) (key : String) : Nat :=
  match line.shown? key with
  | some digits => Nat.ofDigitChars 10 digits.toList 0
  | none => 0

/-- A number summed up over the lines of one event, modulo 2⁶⁴. -/
def total (lines : List LogLine) (event : String) (value : LogLine → Int) : UInt64 :=
  .ofInt ((lines.filter (·.shown? "event" == some event)).map value).sum

def accounts (lines : List LogLine) : Metrics where
  queriesExecuted := total lines "QUERY_COMPLETE" fun _ => 1
  queriesFailed := total lines "QUERY_FAILED" fun _ => 1
  rowsLoaded := total lines "TABLE_LOADED" fun line => line.number "rows"
  rowsJoined := total lines "JOIN_APPLIED" fun line => line.number "rows"
  rowsFilteredOut :=
    total lines "FILTER_APPLIED" fun line => line.number "rows_in" - line.number "rows_out"
  rowsReturned := total lines "QUERY_COMPLETE" fun line => line.number "rows"

theorem total_append (first second : List LogLine) (event : String) (value : LogLine → Int) :
    total (first ++ second) event value = total first event value + total second event value := by
  unfold total
  rw [List.filter_append, List.map_append, List.sum_append_int, UInt64.ofInt_add]

theorem total_singleton (line : LogLine) (event : String) (value : LogLine → Int) :
    total [line] event value = if line.event = event then .ofInt (value line) else 0 := by
  unfold total
  rw [List.filter_singleton, shown?_event, Option.some_beq_some]
  by_cases same : line.event = event
  · simp [same]
  · simp only [beq_false_of_ne same, same, cond_false, if_false]
    rfl

theorem accounts_append (first second : List LogLine) :
    accounts (first ++ second) = accounts first + accounts second := by
  ext1 <;> exact total_append first second _ _

theorem accounts_singleton (line : LogLine) :
    accounts [line] =
      { queriesExecuted := if line.event = "QUERY_COMPLETE" then 1 else 0
        queriesFailed := if line.event = "QUERY_FAILED" then 1 else 0
        rowsLoaded := if line.event = "TABLE_LOADED" then .ofInt (line.number "rows") else 0
        rowsJoined := if line.event = "JOIN_APPLIED" then .ofInt (line.number "rows") else 0
        rowsFilteredOut := if line.event = "FILTER_APPLIED" then
          .ofInt (line.number "rows_in" - line.number "rows_out") else 0
        rowsReturned :=
          if line.event = "QUERY_COMPLETE" then .ofInt (line.number "rows") else 0 } := by
  ext1 <;> exact total_singleton line _ _

theorem number_eq {α : Type} {severity : Severity} {event key : String} {fields : Fields}
    {items : List α} (plain : isReserved key = false)
    (shown : fields.reverse.lookup key = some (Engine.sizeText items)) :
    (LogLine.mk severity event fields).number key = items.length := by
  rw [number, shown?_of_not_reserved _ plain, shown]
  show Nat.ofDigitChars 10 (String.ofList _).toList 0 = _
  rw [String.toList_ofList, Nat.ofDigitChars_ten_toDigits]

end LogLine

theorem ofInt_natCast (n : Nat) : UInt64.ofInt n = n.toUInt64 := by
  have reduced : ((n : Int) % 2 ^ 64).toNat = n % 2 ^ 64 := by omega
  rw [UInt64.ofInt, reduced, UInt64.ofNat_mod_size]

namespace Run

variable {α β : Type}

/-- What a run counts is what its lines say, also if it fails. -/
def Balanced (run : Run α) : Prop :=
  LogLine.accounts run.log = run.metrics

theorem balanced_pure (value : α) : (pure value : Run α).Balanced := rfl

theorem balanced_ofExcept (result : Except QueryError α) : (ofExcept result).Balanced := rfl

theorem balanced_bind {first : Run α} {next : α → Run β} (here : first.Balanced)
    (later : ∀ value, first.result = .ok value → (next value).Balanced) :
    (first >>= next).Balanced := by
  rw [Balanced, log_bind, metrics_bind, LogLine.accounts_append, here]
  congr 1
  cases result : first.result with
  | error error => rfl
  | ok value => exact later value result

end Run

namespace Engine

section
variable {engine : Engine} {stamp : Stamp} (logged : engine.config.logEvents = true)
include logged

theorem balanced_note {event : Event} {fields : Fields}
    (uncounted : event ≠ .tableLoaded ∧ event ≠ .joinApplied ∧ event ≠ .filterApplied) :
    (engine.note stamp event fields).Balanced := by
  obtain ⟨noTable, noJoin, noFilter⟩ := uncounted
  rw [Run.Balanced, log_note logged, LogLine.accounts_singleton]
  cases event with
  | tableLoaded => exact absurd rfl noTable
  | joinApplied => exact absurd rfl noJoin
  | filterApplied => exact absurd rfl noFilter
  | _ => rfl

theorem balanced_count_note {α : Type} {counted : Count} {event : Event} {fields : Fields}
    {next : Run α}
    (reported : LogLine.accounts [.ofEvent event (("query_id", stamp.id) :: fields)] =
      counted.metrics)
    (later : next.Balanced) :
    (do Run.count counted; engine.note stamp event fields; next).Balanced := by
  simp only [Run.Balanced, Run.log_bind, Run.metrics_bind, Run.result_count, Run.log_count,
    Run.metrics_count, result_note, metrics_note, log_note logged, List.nil_append,
    LogLine.accounts_append, reported, Metrics.zero_add]
  rw [later]

theorem balanced_load (table : String) : (engine.load stamp table).Balanced := by
  unfold load
  refine Run.balanced_bind (Run.balanced_ofExcept _) fun rows _ => ?_
  refine balanced_count_note logged ?_ (Run.balanced_pure _)
  rw [LogLine.accounts_singleton, LogLine.ofEvent, LogLine.number_eq (by rfl) (by rfl),
    ofInt_natCast]
  rfl

theorem balanced_workingRows (request : Request) :
    (engine.workingRows stamp request).Balanced := by
  unfold workingRows
  refine Run.balanced_bind (balanced_load logged _) fun main _ => ?_
  cases request.join with
  | none => exact Run.balanced_pure _
  | some join =>
    refine Run.balanced_bind (balanced_load logged _) fun joined _ => ?_
    refine balanced_count_note logged ?_ (Run.balanced_pure _)
    rw [LogLine.accounts_singleton, LogLine.ofEvent, LogLine.number_eq (by rfl) (by rfl),
      ofInt_natCast]
    rfl

theorem balanced_filterRows (request : Request) (rows : Table) :
    (engine.filterRows stamp request rows).Balanced := by
  unfold filterRows
  split
  · exact Run.balanced_pure _
  · refine Run.balanced_bind (Run.balanced_ofExcept _) fun kept satisfied => ?_
    refine balanced_count_note logged ?_ (Run.balanced_pure _)
    -- No filter adds rows, so the difference that the line shows is the number that is counted.
    have fewer : kept.length ≤ rows.length := by
      cases satisfies : rows.satisfying engine.config.likeMatching request.conditions with
      | error error => simp [satisfies, mapError_error] at satisfied
      | ok others =>
        rw [satisfies] at satisfied
        cases satisfied
        exact (Table.satisfying_sublist satisfies).length_le
    rw [LogLine.accounts_singleton, LogLine.ofEvent, @LogLine.number_eq _ _ _ "rows_in" _ rows,
      @LogLine.number_eq _ _ _ "rows_out" _ kept, ← Int.ofNat_sub fewer,
      ofInt_natCast (rows.length - kept.length)]
    all_goals rfl

theorem balanced_sortRows (request : Request) (rows : Table) :
    (engine.sortRows stamp request rows).Balanced := by
  unfold sortRows
  cases request.orderBy with
  | none => exact Run.balanced_pure _
  | some keys =>
    cases engine.config.applyOrderBy with
    | false => exact Run.balanced_pure _
    | true =>
      refine Run.balanced_bind (balanced_note logged (by decide)) fun _ _ => ?_
      exact Run.balanced_pure _

theorem balanced_answerRequest (request : Request) :
    (engine.answerRequest stamp request).Balanced := by
  unfold answerRequest
  refine Run.balanced_bind (balanced_workingRows logged request) fun working _ => ?_
  refine Run.balanced_bind (balanced_filterRows logged request _) fun kept _ => ?_
  refine Run.balanced_bind (balanced_sortRows logged request _) fun sorted _ => ?_
  exact Run.balanced_pure _

theorem balanced_checkAggregate (text : String) (request : Request) :
    (engine.checkAggregate stamp text request).Balanced := by
  unfold checkAggregate
  split
  · refine Run.balanced_bind (balanced_note logged (by decide)) fun _ _ => ?_
    split
    · refine Run.balanced_bind (balanced_note logged (by decide)) fun _ _ => ?_
      exact Run.balanced_ofExcept _
    · exact Run.balanced_pure _
  · exact Run.balanced_pure _

theorem balanced_answer (call : Call) : (engine.answer stamp call).Balanced := by
  cases call with
  | request request => exact balanced_answerRequest logged request
  | query text =>
    unfold answer answerQuery
    refine Run.balanced_bind (Run.balanced_ofExcept _) fun request _ => ?_
    refine Run.balanced_bind (balanced_note logged (by decide)) fun _ _ => ?_
    refine Run.balanced_bind (balanced_checkAggregate logged text request) fun _ _ => ?_
    exact balanced_answerRequest logged request

end

theorem accounts_closingLine (stamp : Stamp) (result : Except QueryError Table) :
    LogLine.accounts [closingLine stamp result] = closingMetrics result := by
  rw [LogLine.accounts_singleton]
  cases result with
  | error error => rfl
  | ok rows =>
    rw [closingLine, LogLine.number_eq (by rfl) (by rfl), ofInt_natCast]
    simp only [closingMetrics, Count.metrics, Metrics.add_eq, UInt64.add_zero, UInt64.zero_add]
    rfl

theorem balanced_run {engine : Engine} (logged : engine.config.logEvents = true) (stamp : Stamp)
    (call : Call) : (engine.run stamp call).Balanced := by
  have opening : LogLine.accounts [⟨.info, "QUERY_BEGIN", [("query_id", stamp.id)]⟩] = 0 :=
    LogLine.accounts_singleton _
  have body : LogLine.accounts (engine.answer stamp call).log =
      (engine.answer stamp call).metrics := balanced_answer logged call
  rw [Run.Balanced, log_run logged, ← List.singleton_append, LogLine.accounts_append,
    LogLine.accounts_append, opening, body, accounts_closingLine, Metrics.zero_add]
  rfl

def logOf (engine : Engine) (start : Metrics) (calls : List (Stamp × Call)) : List LogLine :=
  (engine.runAll start calls).flatMap (·.run.log)

/-- The counters gain what the lines of the calls say. -/
theorem finalCounters_eq_add_accounts {engine : Engine} (logged : engine.config.logEvents = true)
    (start : Metrics) (calls : List (Stamp × Call)) :
    engine.finalCounters start calls = start + LogLine.accounts (engine.logOf start calls) := by
  induction calls generalizing start with
  | nil => exact (Metrics.add_zero start).symm
  | cons call rest ih =>
    have balanced : LogLine.accounts (engine.run call.1 call.2).log = engine.counted call.2 :=
      (balanced_run logged call.1 call.2).trans (engine.metrics_run call.1 call.2)
    rw [finalCounters_cons, ih, logOf, logOf, runAll_cons, List.flatMap_cons,
      LogLine.accounts_append, balanced, Metrics.add_assoc]

/-- The rows of a table that was loaded before its call failed are in the log as in the counters. -/
theorem finalCounters_eq_add_accounts_of_missing_table :
    let calls := [(⟨"1", "0"⟩, .request staffedRooms),
      (⟨"2", "0"⟩, .request { staffedRooms with join := none })]
    let accounts := LogLine.accounts (loneTable.logOf 0 calls)
    accounts.rowsLoaded = 4 ∧ accounts.rowsReturned = 2 ∧
      accounts.queriesExecuted = 1 ∧ accounts.queriesFailed = 1 := by
  intro calls accounts
  have balanced : loneTable.finalCounters 0 calls = 0 + accounts :=
    finalCounters_eq_add_accounts rfl 0 calls
  rw [Metrics.zero_add] at balanced
  rw [← balanced]
  decide +kernel

end Engine

end TableQuery
