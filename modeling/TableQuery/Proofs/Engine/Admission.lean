import TableQuery.Proofs.Engine.Accounting
import TableQuery.Proofs.Engine.Logging

/-! Calls that are refused before a table is loaded.

A query text is read and held against the settings first. A call that fails here fails whatever
the tables hold, and no other call does.
-/

set_option autoImplicit false

namespace TableQuery.Engine

/-- A call fails with an error and counts nothing else, and it loads no table: none that a source
may hold matters to it, and none is logged as loaded. -/
structure Refuses (engine : Engine) (stamp : Stamp) (call : Call) (error : QueryError) : Prop where
  fails : (engine.run stamp call).result = .error error
  counts : (engine.run stamp call).metrics = Count.queryFailed.metrics
  anySource : ∀ source, { engine with source }.run stamp call = engine.run stamp call
  unlogged : (engine.run stamp call).Logs fun line => line.event ≠ Event.tableLoaded.name

variable {engine : Engine} {stamp : Stamp} {call : Call} {error : QueryError}

section
variable {text : String} {request : Request}

theorem admitted_of_rejected {rejection : Rejection}
    (rejected : Request.ofText text = .error rejection) (engine : Engine) :
    engine.admitted (.query text) = .error (.rejected rejection) := by
  simp only [admitted, rejected]

theorem admitted_of_read (read : Request.ofText text = .ok request)
    (allowed : ¬(request.ungroupedAggregate = true ∧
      engine.config.rejectUngroupedAggregate = true)) :
    engine.admitted (.query text) = engine.admitted (.request request) := by
  simp only [admitted, read]
  exact if_neg (by rwa [Bool.and_eq_true])

theorem admitted_of_ungrouped (read : Request.ofText text = .ok request)
    (ungrouped : request.ungroupedAggregate = true)
    (refusing : engine.config.rejectUngroupedAggregate = true) :
    engine.admitted (.query text) =
      .error (.ungroupedAggregate (String.ofList (Text.trim text.toList))) := by
  simp only [admitted, read]
  exact if_pos (by rw [ungrouped, refusing]; rfl)

end

theorem admission_source (engine : Engine) (source : Source) (stamp : Stamp) (call : Call) :
    { engine with source }.admission stamp call = engine.admission stamp call := by
  cases call <;> rfl

theorem answer_of_refused (refused : engine.admitted call = .error error) (stamp : Stamp) :
    engine.answer stamp call = ⟨.error error, 0, (engine.admission stamp call).log⟩ := by
  rw [answer_eq_bind, Run.bind_error ((engine.result_admission stamp call).trans refused),
    metrics_admission]

theorem answerTo_of_refused (refused : engine.admitted call = .error error) :
    engine.answerTo call = .error error := by
  unfold answerTo
  rw [refused]

theorem answerTo_of_admitted {request : Request} (admitted : engine.admitted call = .ok request) :
    engine.answerTo call = request.answered engine.source engine.config := by
  unfold answerTo
  rw [admitted]

theorem counted_of_refused (refused : engine.admitted call = .error error) :
    engine.counted call = Count.queryFailed.metrics := by
  unfold counted loadedRows countFor
  rw [answerTo_of_refused refused, refused]
  rfl

/-- Calls that come to the same request are answered and counted alike. -/
theorem run_eq_of_admitted_eq {other : Call} (same : engine.admitted call = engine.admitted other)
    (stamp stampOther : Stamp) :
    (engine.run stamp call).result = (engine.run stampOther other).result ∧
      (engine.run stamp call).metrics = (engine.run stampOther other).metrics := by
  have answers : engine.answerTo call = engine.answerTo other := by
    unfold answerTo
    rw [same]
  simp only [result_run, metrics_run]
  refine ⟨answers, ?_⟩
  unfold counted loadedRows countFor
  rw [answers, same]

theorem scope_event_ne (phase : String) : "QUERY_" ++ phase ≠ Event.tableLoaded.name := by
  intro same
  have letters := congrArg String.toList same
  rw [String.toList_append] at letters
  cases letters

theorem refuses_of_refused (refused : engine.admitted call = .error error) (stamp : Stamp) :
    engine.Refuses stamp call error where
  fails := by rw [result_run, answerTo_of_refused refused]
  counts := by rw [metrics_run, counted_of_refused refused]
  anySource source := by
    have refusedToo : { engine with source }.admitted call = .error error :=
      (admitted_congr rfl call).trans refused
    unfold run
    rw [answer_of_refused refused, answer_of_refused refusedToo, admission_source]
    rfl
  unlogged := by
    apply logs_run
    · exact fun _ _ phase _ => scope_event_ne phase
    · rw [answer_of_refused refused]
      exact logs_admission (fun _ _ other _ same => other (Event.name_inj.1 same)) call

/-- No other call is refused: it fails with whatever error its source may give. -/
theorem refuses_iff : engine.Refuses stamp call error ↔ engine.admitted call = .error error := by
  refine ⟨fun refuses => ?_, fun refused => refuses_of_refused refused stamp⟩
  cases admitted : engine.admitted call with
  | error cause =>
    have fails := refuses.fails
    rw [result_run, answerTo_of_refused admitted] at fails
    cases fails
    rfl
  | ok request =>
    have fails (cause : SourceError) : (engine.run stamp call).result = .error (.source cause) := by
      have reached : (Engine.mk (fun _ => .error cause) engine.config).admitted call =
          .ok request := (admitted_congr rfl call).trans admitted
      rw [← refuses.anySource fun _ => .error cause, result_run, answerTo_of_admitted reached]
      rfl
    have same := (fails .invalidDocument).symm.trans (fails .documentNotObject)
    cases same

end TableQuery.Engine
