import TableQuery.Proofs.Engine.Accounting
import TableQuery.Proofs.Engine.Logging

/-! Engines that do not log.

To switch the log off changes nothing else: the same calls get the same answers and leave the same
counters, whatever the stamps by which the calls are known.
-/

set_option autoImplicit false

namespace TableQuery.Engine

def quiet (engine : Engine) : Engine :=
  { engine with config := engine.config.quiet }

variable (engine : Engine)

theorem answerTo_quiet (call : Call) : engine.quiet.answerTo call = engine.answerTo call := by
  have same : engine.quiet.admitted call = engine.admitted call := admitted_congr rfl call
  rw [answerTo, answerTo, same]
  rfl

theorem counted_quiet (call : Call) : engine.quiet.counted call = engine.counted call := by
  have same : engine.quiet.admitted call = engine.admitted call := admitted_congr rfl call
  unfold counted loadedRows countFor
  rw [same, answerTo_quiet]
  rfl

/-- What the caller sees of the answer to a call, without the log. -/
def Reply.outcome (reply : Reply) : Except QueryError Table × Metrics :=
  (reply.run.result, reply.metrics)

theorem outcomes_cons (start : Metrics) (call : Stamp × Call) (rest : List (Stamp × Call)) :
    (engine.runAll start (call :: rest)).map Reply.outcome =
      (engine.answerTo call.2, start + engine.counted call.2) ::
        (engine.runAll (start + engine.counted call.2) rest).map Reply.outcome := by
  rw [runAll_cons, List.map_cons, Reply.outcome, result_run]

theorem outcomes_quiet {calls others : List (Stamp × Call)}
    (same : others.map Prod.snd = calls.map Prod.snd) (start : Metrics) :
    (engine.quiet.runAll start others).map Reply.outcome =
      (engine.runAll start calls).map Reply.outcome := by
  induction calls generalizing start others with
  | nil =>
    rw [List.map_eq_nil_iff.1 same]
    rfl
  | cons call rest ih =>
    obtain ⟨other, following, rfl, heads, tails⟩ := List.map_eq_cons_iff.1 same
    rw [outcomes_cons, outcomes_cons, heads, answerTo_quiet, counted_quiet, ih tails]

theorem log_of_mem_runAll_quiet {start : Metrics} {calls : List (Stamp × Call)} {reply : Reply}
    (member : reply ∈ engine.quiet.runAll start calls) : reply.run.log = [] := by
  induction calls generalizing start with
  | nil => cases member
  | cons call rest ih =>
    rw [runAll_cons] at member
    rcases List.mem_cons.1 member with rfl | later
    · exact log_run_of_quiet rfl call.1 call.2
    · exact ih later

/-- Logging does not interfere: without it the same calls have the same outcomes, and nothing is
written. -/
theorem runAll_quiet {calls others : List (Stamp × Call)}
    (same : others.map Prod.snd = calls.map Prod.snd) (start : Metrics) :
    (engine.quiet.runAll start others).map Reply.outcome =
        (engine.runAll start calls).map Reply.outcome ∧
      ∀ reply ∈ engine.quiet.runAll start others,
        LogLine.outputTexts reply.run.log = [] ∧ LogLine.errorTexts reply.run.log = [] := by
  refine ⟨outcomes_quiet engine same start, ?_⟩
  intro reply member
  rw [log_of_mem_runAll_quiet engine member]
  exact ⟨rfl, rfl⟩

/-- A call that fails between two tables leaves the same counters, with its lines and without. -/
theorem runAll_quiet_of_missing_table :
    let calls (id : String) := [((⟨id, "0"⟩ : Stamp), Call.request staffedRooms)]
    (loneTable.quiet.runAll 0 (calls "2")).map Reply.outcome =
        [(.error (.source (.tableNotFound "rooms")), { queriesFailed := 1, rowsLoaded := 2 })] ∧
      (loneTable.runAll 0 (calls "1")).flatMap (LogLine.outputTexts ·.run.log) ≠ [] ∧
      (loneTable.quiet.runAll 0 (calls "2")).flatMap (LogLine.outputTexts ·.run.log) = [] := by
  intro calls
  have same : (calls "2").map Prod.snd = (calls "1").map Prod.snd := rfl
  obtain ⟨outcomes, silent⟩ := loneTable.runAll_quiet same 0
  refine ⟨outcomes.trans rfl, ?_, ?_⟩
  · exact List.cons_ne_nil _ _
  · rw [List.flatMap_eq_nil_iff]
    exact fun reply member => (silent reply member).1

end TableQuery.Engine
