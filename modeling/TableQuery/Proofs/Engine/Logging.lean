import TableQuery.Proofs.Engine.Stages

/-! What calls log.

Each stage of a call logs lines of its own events, under the stamp of the call, and only if the
settings ask for it. So what holds of every such line holds of all that a call logs.
-/

set_option autoImplicit false

namespace TableQuery

theorem Event.name_inj {first second : Event} : first.name = second.name ↔ first = second := by
  cases first <;> cases second <;> decide

namespace Run

variable {α β : Type} {kind : LogLine → Prop}

def Logs (kind : LogLine → Prop) (run : Run α) : Prop :=
  ∀ line ∈ run.log, kind line

theorem logs_pure (value : α) : (pure value : Run α).Logs kind := by
  simp [Logs]

theorem logs_ofExcept (result : Except QueryError α) : (ofExcept result).Logs kind := by
  simp [Logs]

theorem logs_count (counted : Count) : (count counted).Logs kind := by
  simp [Logs]

theorem logs_bind {first : Run α} {next : α → Run β} (here : first.Logs kind)
    (later : ∀ value, (next value).Logs kind) : (first >>= next).Logs kind := by
  intro line member
  rw [log_bind, List.mem_append] at member
  rcases member with member | member
  · exact here line member
  · cases result : first.result with
    | error error => simp [result] at member
    | ok value =>
      rw [result] at member
      exact later value line member

end Run

namespace Scope

variable {scope : Scope} {kind : LogLine → Prop}

def Logs (scope : Scope) (kind : LogLine → Prop) : Prop :=
  scope.enabled = true → ∀ severity phase extra,
    kind ⟨severity, scope.name ++ "_" ++ phase, scope.fields ++ extra⟩

theorem releaseLines_closed (scope : Scope) : scope.closed.releaseLines = [] := rfl

theorem Logs.lines (logs : scope.Logs kind) (severity : Severity) (phase : String)
    (extra : Fields) : ∀ line ∈ scope.lines severity phase extra, kind line := by
  unfold Scope.lines
  split
  · rename_i enabled
    intro line member
    cases List.mem_singleton.1 member
    exact logs enabled severity phase extra
  · exact List.forall_mem_nil _

theorem Logs.startLines (logs : scope.Logs kind) : ∀ line ∈ scope.startLines, kind line :=
  logs.lines .info "BEGIN" []

theorem Logs.endLines (logs : scope.Logs kind) (ending : Ending) :
    ∀ line ∈ scope.endLines ending, kind line := by
  unfold Scope.endLines
  cases ending with
  | complete extra elapsed =>
    simp only [releaseLines_closed, List.append_nil]
    exact logs.lines .info "COMPLETE" _
  | fail reason =>
    simp only [releaseLines_closed, List.append_nil]
    exact logs.lines .error "FAILED" _
  | drop =>
    simp only [releaseLines]
    split
    · exact logs.lines .warn "INCOMPLETE" _
    · exact List.forall_mem_nil _

end Scope

namespace Engine

section
variable {engine : Engine} {stamp : Stamp} {kind : LogLine → Prop}

theorem logs_note {event : Event} {fields : Fields} (line : engine.config.logEvents = true →
    kind (.ofEvent event (("query_id", stamp.id) :: fields))) :
    (engine.note stamp event fields).Logs kind := by
  unfold note
  split
  · rename_i logged
    intro other member
    cases List.mem_singleton.1 member
    exact line logged
  · exact List.forall_mem_nil _

section
variable (lines : engine.config.logEvents = true → ∀ event ≠ Event.tableLoaded, ∀ fields,
  kind (.ofEvent event (("query_id", stamp.id) :: fields)))
include lines

theorem logs_checkAggregate (query : String) (request : Request) :
    (engine.checkAggregate stamp query request).Logs kind := by
  unfold checkAggregate
  split
  · refine Run.logs_bind (logs_note fun logged => lines logged _ (by decide) _) fun _ => ?_
    split
    · refine Run.logs_bind (logs_note fun logged => lines logged _ (by decide) _) fun _ => ?_
      exact Run.logs_ofExcept _
    · exact Run.logs_pure _
  · exact Run.logs_pure _

theorem logs_admission (call : Call) : (engine.admission stamp call).Logs kind := by
  cases call with
  | request request => exact Run.logs_pure _
  | query text =>
    show Run.Logs kind (_ >>= _)
    refine Run.logs_bind (Run.logs_ofExcept _) fun request => ?_
    refine Run.logs_bind (logs_note fun logged => lines logged _ (by decide) _) fun _ => ?_
    refine Run.logs_bind (logs_checkAggregate lines text request) fun _ => ?_
    exact Run.logs_pure _

end

section
variable (lines : engine.config.logEvents = true → ∀ event fields,
  kind (.ofEvent event (("query_id", stamp.id) :: fields)))
include lines

theorem logs_load (table : String) : (engine.load stamp table).Logs kind := by
  unfold load
  refine Run.logs_bind (Run.logs_ofExcept _) fun rows => ?_
  refine Run.logs_bind (Run.logs_count _) fun _ => ?_
  refine Run.logs_bind (logs_note fun logged => lines logged _ _) fun _ => ?_
  exact Run.logs_pure _

theorem logs_workingRows (request : Request) : (engine.workingRows stamp request).Logs kind := by
  unfold workingRows
  refine Run.logs_bind (logs_load lines _) fun main => ?_
  cases request.join with
  | none => exact Run.logs_pure _
  | some join =>
    refine Run.logs_bind (logs_load lines _) fun joined => ?_
    refine Run.logs_bind (Run.logs_count _) fun _ => ?_
    refine Run.logs_bind (logs_note fun logged => lines logged _ _) fun _ => ?_
    exact Run.logs_pure _

theorem logs_filterRows (request : Request) (rows : Table) :
    (engine.filterRows stamp request rows).Logs kind := by
  unfold filterRows
  split
  · exact Run.logs_pure _
  · refine Run.logs_bind (Run.logs_ofExcept _) fun kept => ?_
    refine Run.logs_bind (Run.logs_count _) fun _ => ?_
    refine Run.logs_bind (logs_note fun logged => lines logged _ _) fun _ => ?_
    exact Run.logs_pure _

theorem logs_sortRows (request : Request) (rows : Table) :
    (engine.sortRows stamp request rows).Logs kind := by
  unfold sortRows
  split
  · split
    · refine Run.logs_bind (logs_note fun logged => lines logged _ _) fun _ => ?_
      exact Run.logs_pure _
    · exact Run.logs_pure _
  · exact Run.logs_pure _

theorem logs_answerRequest (request : Request) :
    (engine.answerRequest stamp request).Logs kind := by
  unfold answerRequest
  refine Run.logs_bind (logs_workingRows lines request) fun working => ?_
  refine Run.logs_bind (logs_filterRows lines request _) fun kept => ?_
  refine Run.logs_bind (logs_sortRows lines request _) fun sorted => ?_
  exact Run.logs_pure _

/-- A call logs lines under its own stamp, and only if the settings ask for them. -/
theorem logs_answer (call : Call) : (engine.answer stamp call).Logs kind := by
  rw [answer_eq_bind]
  exact Run.logs_bind (logs_admission (fun logged event _ => lines logged event) call)
    (logs_answerRequest lines)

end

theorem logs_run {call : Call}
    (own : engine.config.logEvents = true → ∀ severity phase extra,
      kind ⟨severity, "QUERY_" ++ phase, ("query_id", stamp.id) :: extra⟩)
    (stages : (engine.answer stamp call).Logs kind) : (engine.run stamp call).Logs kind := by
  have ofScope : (engine.scope stamp).Logs kind := own
  intro line member
  rcases List.mem_append.1 member with earlier | last
  · rcases List.mem_append.1 earlier with first | stage
    · exact ofScope.startLines line first
    · exact stages line stage
  · exact ofScope.endLines _ line last

theorem log_run_of_quiet (quiet : engine.config.logEvents = false) (stamp : Stamp) (call : Call) :
    (engine.run stamp call).log = [] := by
  have asked : (engine.run stamp call).Logs fun _ => engine.config.logEvents = true :=
    logs_run (fun logged _ _ _ => logged) (logs_answer (fun logged _ _ => logged) call)
  rw [List.eq_nil_iff_forall_not_mem]
  intro line member
  exact Bool.false_ne_true (quiet.symm.trans (asked line member))

end

def closingLine (stamp : Stamp) : Except QueryError Table → LogLine
  | .ok rows => ⟨.info, "QUERY_COMPLETE",
      [("query_id", stamp.id), ("rows", sizeText rows), ("duration_ms", stamp.elapsed)]⟩
  | .error error => ⟨.error, "QUERY_FAILED",
      [("query_id", stamp.id), ("reason", error.code ++ ": " ++ error.text)]⟩

section
variable {engine : Engine} (logged : engine.config.logEvents = true) (stamp : Stamp)
include logged

theorem log_note (event : Event) (fields : Fields) : (engine.note stamp event fields).log =
    [.ofEvent event (("query_id", stamp.id) :: fields)] := by
  unfold note
  rw [if_pos logged]
  rfl

/-- The scope of a call is closed once, by its outcome. -/
theorem log_run (call : Call) : (engine.run stamp call).log =
    ⟨.info, "QUERY_BEGIN", [("query_id", stamp.id)]⟩ ::
      ((engine.answer stamp call).log ++ [closingLine stamp (engine.answer stamp call).result]) := by
  have opened (severity : Severity) (phase : String) (extra : Fields) :
      (engine.scope stamp).lines severity phase extra =
        [⟨severity, "QUERY_" ++ phase, ("query_id", stamp.id) :: extra⟩] := if_pos logged
  simp only [run, Scope.startLines, opened]
  cases (engine.answer stamp call).result with
  | ok rows =>
    simp only [ending, Scope.endLines, Scope.completionLines, Scope.releaseLines_closed, opened]
    rfl
  | error error =>
    simp only [ending, Scope.endLines, Scope.failureLines, Scope.releaseLines_closed, opened]
    rfl

end

end Engine

end TableQuery
