import TableQuery.Proofs.Engine.Admission
import TableQuery.Proofs.Log.Lines

/-! The log of a call, line by line.

A call has its steps before it is run: they follow from the text or the request and from the
settings. What it logs on the standard output is a beginning of these steps, and all of them if it
succeeds; the error stream has nothing but the failure, and the refusal before it.
-/

set_option autoImplicit false

namespace TableQuery

namespace LogLine

structure Heading where
  event : Option String
  table : Option String
  deriving DecidableEq, Repr

def heading (line : LogLine) : Heading :=
  ⟨line.shown? "event", line.shown? "table"⟩

namespace Heading

def ofEvent (event : Event) (table : Option String) : Heading :=
  ⟨some event.name, table⟩

def ofPhase (phase : String) : Heading :=
  ⟨some ("QUERY_" ++ phase), none⟩

end Heading

def IsOf (id : String) (line : LogLine) : Prop :=
  line.shown? "query_id" = some id

section
variable {severity : Severity} {event id : String} {fields : Fields}

theorem isOf_of_notMem (own : "query_id" ∉ fields.map Prod.fst) :
    (LogLine.mk severity event (("query_id", id) :: fields)).IsOf id := by
  have absent : fields.reverse.lookup "query_id" = none := by
    rw [List.lookup_eq_none_iff]
    intro field member
    rw [bne_iff_ne]
    rintro same
    exact own (same ▸ List.mem_map_of_mem (List.mem_reverse.1 member))
  rw [IsOf, shown?_of_not_reserved _ (by decide), List.reverse_cons, List.lookup_append, absent]
  rfl

theorem heading_eq : (LogLine.mk severity event (("query_id", id) :: fields)).heading =
    ⟨some event, fields.reverse.lookup "table"⟩ := by
  rw [heading, shown?_event, shown?_of_not_reserved _ (by decide), List.reverse_cons,
    List.lookup_append]
  simp

end

end LogLine

open LogLine (Heading)

namespace Run

variable {α β : Type} {id : String}

/-- A run of this query logs a beginning of these lines, and all of them if it succeeds. None goes
to the error stream. -/
structure Tells (id : String) (headings : List Heading) (run : Run α) : Prop where
  begun : run.log.map LogLine.heading <+: headings
  whole : ∀ value, run.result = .ok value → run.log.map LogLine.heading = headings
  lines : ∀ line ∈ run.log, line.IsOf id ∧ line.severity.toErrorStream = false

theorem Tells.onOutput_eq {headings : List Heading} {run : Run α} (tells : run.Tells id headings) :
    LogLine.onOutput run.log = run.log := by
  rw [LogLine.onOutput, List.filter_eq_self]
  intro line member
  rw [(tells.lines line member).2]
  rfl

theorem Tells.onErrors_eq {headings : List Heading} {run : Run α} (tells : run.Tells id headings) :
    LogLine.onErrors run.log = [] := by
  rw [LogLine.onErrors, List.filter_eq_nil_iff]
  intro line member
  rw [(tells.lines line member).2]
  exact Bool.false_ne_true

theorem tells_nil {run : Run α} (silent : run.log = []) : run.Tells id [] where
  begun := by rw [silent]; exact List.nil_prefix
  whole _ _ := by rw [silent]; rfl
  lines := by rw [silent]; exact List.forall_mem_nil _

theorem tells_pure (value : α) : (pure value : Run α).Tells id [] :=
  tells_nil rfl

theorem tells_ofExcept (result : Except QueryError α) : (ofExcept result).Tells id [] :=
  tells_nil rfl

theorem tells_count (counted : Count) : (count counted).Tells id [] :=
  tells_nil rfl

theorem tells_bind {first : Run α} {next : α → Run β} {headings others : List Heading}
    (here : first.Tells id headings)
    (later : ∀ value, first.result = .ok value → (next value).Tells id others) :
    (first >>= next).Tells id (headings ++ others) := by
  cases result : first.result with
  | error error =>
    rw [bind_error result]
    exact ⟨here.begun.trans (List.prefix_append _ _), nofun, here.lines⟩
  | ok value =>
    rw [bind_ok result]
    have rest := later value result
    constructor
    · rw [List.map_append, here.whole value result]
      exact (List.prefix_append_right_inj _).2 rest.begun
    · intro final succeeded
      rw [List.map_append, here.whole value result, rest.whole final succeeded]
    · exact List.forall_mem_append.2 ⟨here.lines, rest.lines⟩

end Run

namespace Request

def steps (config : Config) (request : Request) : List Heading :=
  .ofEvent .tableLoaded (some request.table) ::
    (match request.join with
      | none => []
      | some join => [.ofEvent .tableLoaded (some join.table), .ofEvent .joinApplied none]) ++
    (if request.conditions.isEmpty then [] else [.ofEvent .filterApplied none]) ++
    if config.applyOrderBy && request.orderBy.isSome then [.ofEvent .sortApplied none] else []

end Request

namespace Engine

/-- The steps of a call. A text that cannot be read has none. -/
def steps (engine : Engine) : Call → List Heading
  | .request request => request.steps engine.config
  | .query text =>
    match Request.ofText text with
    | .error _ => []
    | .ok request =>
      .ofEvent .queryParsed (some request.table) ::
        (if request.ungroupedAggregate then [.ofEvent .ungroupedAggregate (some request.table)]
          else []) ++
        request.steps engine.config

/-- Whether the settings forbid a call: a text with an ungrouped aggregate, if they refuse these. -/
def forbids (engine : Engine) : Call → Bool
  | .request _ => false
  | .query text =>
    match Request.ofText text with
    | .error _ => false
    | .ok request => request.ungroupedAggregate && engine.config.rejectUngroupedAggregate

theorem exists_of_forbids {engine : Engine} {call : Call} (forbidden : engine.forbids call = true) :
    ∃ text request, call = .query text ∧ Request.ofText text = .ok request ∧
      request.ungroupedAggregate = true ∧ engine.config.rejectUngroupedAggregate = true := by
  cases call with
  | request request => cases forbidden
  | query text =>
    simp only [forbids] at forbidden
    cases read : Request.ofText text with
    | error rejection => simp [read] at forbidden
    | ok request =>
      rw [read, Bool.and_eq_true] at forbidden
      exact ⟨text, request, rfl, read, forbidden⟩

section
variable {engine : Engine} {stamp : Stamp} (logged : engine.config.logEvents = true)
include logged

theorem tells_note {event : Event} {fields : Fields} {table : Option String}
    (own : "query_id" ∉ fields.map Prod.fst) (plain : event.severity.toErrorStream = false)
    (named : fields.reverse.lookup "table" = table) :
    (engine.note stamp event fields).Tells stamp.id [.ofEvent event table] := by
  have headed : (engine.note stamp event fields).log.map LogLine.heading =
      [.ofEvent event table] := by
    rw [log_note logged, List.map_singleton, LogLine.ofEvent, LogLine.heading_eq, named]
    rfl
  refine ⟨headed ▸ List.prefix_rfl, fun _ _ => headed, ?_⟩
  rw [log_note logged, List.forall_mem_singleton]
  exact ⟨LogLine.isOf_of_notMem own, plain⟩

theorem tells_load (table : String) : (engine.load stamp table).Tells stamp.id
    [.ofEvent .tableLoaded (some table)] := by
  unfold load
  refine Run.tells_bind (Run.tells_ofExcept _) fun rows _ => ?_
  refine Run.tells_bind (Run.tells_count _) fun _ _ => ?_
  refine Run.tells_bind (tells_note logged (by simp) (by rfl) (by rfl)) fun _ _ => ?_
  exact Run.tells_pure _

theorem tells_workingRows (request : Request) : (engine.workingRows stamp request).Tells stamp.id
    (.ofEvent .tableLoaded (some request.table) ::
      match request.join with
      | none => []
      | some join =>
        [.ofEvent .tableLoaded (some join.table), .ofEvent .joinApplied none]) := by
  unfold workingRows
  refine Run.tells_bind (tells_load logged _) fun main _ => ?_
  cases request.join with
  | none => exact Run.tells_pure _
  | some join =>
    refine Run.tells_bind (tells_load logged _) fun joined _ => ?_
    refine Run.tells_bind (Run.tells_count _) fun _ _ => ?_
    refine Run.tells_bind (tells_note logged (by simp) (by rfl) (by rfl)) fun _ _ => ?_
    exact Run.tells_pure _

theorem tells_filterRows (request : Request) (rows : Table) :
    (engine.filterRows stamp request rows).Tells stamp.id
      (if request.conditions.isEmpty then [] else [.ofEvent .filterApplied none]) := by
  unfold filterRows
  cases request.conditions.isEmpty with
  | true => exact Run.tells_pure _
  | false =>
    refine Run.tells_bind (Run.tells_ofExcept _) fun kept _ => ?_
    refine Run.tells_bind (Run.tells_count _) fun _ _ => ?_
    refine Run.tells_bind (tells_note logged (by simp) (by rfl) (by rfl)) fun _ _ => ?_
    exact Run.tells_pure _

theorem tells_sortRows (request : Request) (rows : Table) :
    (engine.sortRows stamp request rows).Tells stamp.id
      (if engine.config.applyOrderBy && request.orderBy.isSome then [.ofEvent .sortApplied none]
        else []) := by
  unfold sortRows
  cases request.orderBy with
  | none =>
    rw [Option.isSome_none, Bool.and_false]
    exact Run.tells_pure _
  | some keys =>
    cases engine.config.applyOrderBy with
    | false => exact Run.tells_pure _
    | true =>
      refine Run.tells_bind (tells_note logged (by simp) (by rfl) (by rfl)) fun _ _ => ?_
      exact Run.tells_pure _

theorem tells_answerRequest (request : Request) :
    (engine.answerRequest stamp request).Tells stamp.id (request.steps engine.config) := by
  unfold answerRequest
  rw [Request.steps, List.append_assoc]
  refine Run.tells_bind (tells_workingRows logged request) fun working _ => ?_
  refine Run.tells_bind (tells_filterRows logged request _) fun kept _ => ?_
  rw [← List.append_nil (ite _ _ _)]
  refine Run.tells_bind (tells_sortRows logged request _) fun sorted _ => ?_
  exact Run.tells_pure _

theorem tells_checkAggregate (text : String) {request : Request}
    (allowed : (request.ungroupedAggregate && engine.config.rejectUngroupedAggregate) = false) :
    (engine.checkAggregate stamp text request).Tells stamp.id
      (if request.ungroupedAggregate then [.ofEvent .ungroupedAggregate (some request.table)]
        else []) := by
  unfold checkAggregate
  cases flagged : request.ungroupedAggregate with
  | false => exact Run.tells_pure _
  | true =>
    rw [flagged, Bool.true_and] at allowed
    refine Run.tells_bind (tells_note logged (by simp) (by rfl) (by rfl)) fun _ _ => ?_
    rw [allowed]
    exact Run.tells_pure _

theorem tells_answer {call : Call} (allowed : engine.forbids call = false) :
    (engine.answer stamp call).Tells stamp.id (engine.steps call) := by
  cases call with
  | request request => exact tells_answerRequest logged request
  | query text =>
    simp only [forbids] at allowed
    simp only [answer, answerQuery, steps, List.cons_append]
    cases read : Request.ofText text with
    | error rejection => exact Run.tells_nil rfl
    | ok request =>
      rw [read] at allowed
      refine Run.tells_bind (Run.tells_ofExcept _) fun parsed found => ?_
      cases found
      refine Run.tells_bind (tells_note logged (by simp) (by rfl) (by rfl)) fun _ _ => ?_
      refine Run.tells_bind (tells_checkAggregate logged text allowed) fun _ _ => ?_
      exact tells_answerRequest logged request

theorem log_answer_of_forbidden {text : String} {request : Request}
    (read : Request.ofText text = .ok request) (flagged : request.ungroupedAggregate = true)
    (refusing : engine.config.rejectUngroupedAggregate = true) :
    (engine.answer stamp (.query text)).log =
      [.ofEvent .queryParsed [("query_id", stamp.id), ("table", request.table),
          ("join", (request.join.map Join.table).getD "none"),
          ("conditions", sizeText request.conditions)],
        .ofEvent .ungroupedAggregate [("query_id", stamp.id), ("table", request.table)],
        .ofEvent .queryRejected [("query_id", stamp.id), ("reason", "ungrouped aggregate")]] := by
  unfold answer answerQuery checkAggregate
  simp only [read, mapError_ok, Run.log_bind, Run.log_ofExcept, Run.result_ofExcept,
    Run.result_bind, result_note, log_note logged, flagged, refusing, if_true]
  rfl

end

section
variable {engine : Engine} (logged : engine.config.logEvents = true) (stamp : Stamp)
include logged

theorem exists_done_of_answer (call : Call) :
    let body := engine.answer stamp call
    ∃ done, done <+: engine.steps call ∧
      (LogLine.onOutput body.log).map LogLine.heading = done ∧
      (LogLine.onErrors body.log).map LogLine.heading =
        (if engine.forbids call then [.ofEvent .queryRejected none] else []) ∧
      (∀ line ∈ body.log, line.IsOf stamp.id) ∧
      ∀ rows, body.result = .ok rows →
        done = engine.steps call ∧ engine.forbids call = false := by
  intro body
  -- A call that is forbidden logs a fixed refusal, any other one a beginning of its steps.
  cases forbidden : engine.forbids call with
  | false =>
    have tells : body.Tells stamp.id (engine.steps call) := tells_answer logged forbidden
    refine ⟨_, tells.begun, ?_, ?_, fun line member => (tells.lines line member).1, ?_⟩
    · rw [tells.onOutput_eq]
    · rw [tells.onErrors_eq]
      rfl
    · intro rows succeeded
      exact ⟨tells.whole rows succeeded, rfl⟩
  | true =>
    obtain ⟨text, request, rfl, read, flagged, refusing⟩ := exists_of_forbids forbidden
    have log : body.log = _ := log_answer_of_forbidden logged read flagged refusing
    refine ⟨[.ofEvent .queryParsed (some request.table),
      .ofEvent .ungroupedAggregate (some request.table)], ?_, ?_, ?_, ?_, ?_⟩
    · simp only [steps, read, flagged, if_true]
      exact List.prefix_append _ _
    · rw [log]
      show [LogLine.heading _, LogLine.heading _] = _
      simp only [LogLine.ofEvent, LogLine.heading_eq]
      rfl
    · rw [log]
      show [LogLine.heading _] = _
      simp only [LogLine.ofEvent, LogLine.heading_eq]
      rfl
    · rw [log]
      intro line member
      simp only [List.mem_cons, List.not_mem_nil, or_false] at member
      rcases member with rfl | rfl | rfl <;> exact LogLine.isOf_of_notMem (by simp)
    · intro rows succeeded
      have refused := answer_of_refused (admitted_of_ungrouped read flagged refusing) stamp
      cases (congrArg Run.result refused).symm.trans succeeded

theorem onOutput_run (call : Call) :
    (LogLine.onOutput (engine.run stamp call).log).map LogLine.heading =
      .ofPhase "BEGIN" :: ((LogLine.onOutput (engine.answer stamp call).log).map LogLine.heading ++
        match (engine.answer stamp call).result with
        | .ok _ => [.ofPhase "COMPLETE"]
        | .error _ => []) := by
  have opening : LogLine.heading ⟨.info, "QUERY_BEGIN", [("query_id", stamp.id)]⟩ =
    .ofPhase "BEGIN" := LogLine.heading_eq
  rw [log_run logged, LogLine.onOutput, List.filter_cons_of_pos rfl, List.filter_append,
    List.map_cons, List.map_append, opening]
  congr 2
  cases (engine.answer stamp call).result with
  | ok rows => exact congrArg (fun heading => [heading]) LogLine.heading_eq
  | error error => rfl

theorem onErrors_run (call : Call) :
    (LogLine.onErrors (engine.run stamp call).log).map LogLine.heading =
      (LogLine.onErrors (engine.answer stamp call).log).map LogLine.heading ++
        match (engine.answer stamp call).result with
        | .ok _ => []
        | .error _ => [.ofPhase "FAILED"] := by
  rw [log_run logged, LogLine.onErrors, List.filter_cons_of_neg Bool.false_ne_true,
    List.filter_append, List.map_append]
  congr 1
  cases (engine.answer stamp call).result with
  | ok rows => rfl
  | error error => exact congrArg (fun heading => [heading]) LogLine.heading_eq

end

theorem closingLine_isOf (stamp : Stamp) (result : Except QueryError Table) :
    (closingLine stamp result).IsOf stamp.id := by
  cases result <;> apply LogLine.isOf_of_notMem <;> simp

theorem mem_log_run {engine : Engine} (logged : engine.config.logEvents = true) {stamp : Stamp}
    {call : Call} {line : LogLine} : line ∈ (engine.run stamp call).log ↔
      line = ⟨.info, "QUERY_BEGIN", [("query_id", stamp.id)]⟩ ∨
        line ∈ (engine.answer stamp call).log ∨
          line = closingLine stamp (engine.answer stamp call).result := by
  rw [log_run logged, List.mem_cons, List.mem_append, List.mem_singleton]

/-- Only the last line of a call has the event of an ending. -/
theorem event_of_mem_log_run {engine : Engine} (logged : engine.config.logEvents = true)
    {stamp : Stamp} {call : Call} {line : LogLine} (inside : line ∈ (engine.run stamp call).log) :
    line.event = (closingLine stamp (engine.run stamp call).result).event ∨
      line.event ≠ "QUERY_COMPLETE" ∧ line.event ≠ "QUERY_INCOMPLETE" := by
  have stages : (engine.answer stamp call).Logs fun line =>
      ∃ event : Event, line.event = event.name :=
    logs_answer (fun _ event _ => ⟨event, rfl⟩) call
  rcases (mem_log_run logged).1 inside with rfl | inside | rfl
  · have opening : "QUERY_BEGIN" ≠ "QUERY_COMPLETE" ∧ "QUERY_BEGIN" ≠ "QUERY_INCOMPLETE" := by decide
    exact .inr opening
  · obtain ⟨event, same⟩ := stages line inside
    rw [same]
    right
    cases event <;> decide
  · exact .inl rfl

structure Narrates (engine : Engine) (stamp : Stamp) (call : Call) : Prop where
  /-- Every line names the query. -/
  named : ∀ line ∈ (engine.run stamp call).log, line.IsOf stamp.id
  /-- A call that succeeds logs its begin, all its steps and its completion. -/
  succeeds : ∀ rows, (engine.run stamp call).result = .ok rows →
    (LogLine.onOutput (engine.run stamp call).log).map LogLine.heading =
        .ofPhase "BEGIN" :: (engine.steps call ++ [.ofPhase "COMPLETE"]) ∧
      LogLine.onErrors (engine.run stamp call).log = []
  /-- A call that fails logs its begin and some of its steps, and on the error stream the refusal,
  if the settings forbid it, and the failure. -/
  fails : ∀ error, (engine.run stamp call).result = .error error →
    (∃ done, done <+: engine.steps call ∧
      (LogLine.onOutput (engine.run stamp call).log).map LogLine.heading =
        .ofPhase "BEGIN" :: done) ∧
    (LogLine.onErrors (engine.run stamp call).log).map LogLine.heading =
      (if engine.forbids call then [.ofEvent .queryRejected none] else []) ++ [.ofPhase "FAILED"]
  /-- Only a call that succeeds is completed. -/
  completes : ∀ line ∈ (engine.run stamp call).log,
    line.shown? "event" = some "QUERY_COMPLETE" →
      ∃ rows, (engine.run stamp call).result = .ok rows
  /-- No call is left open. -/
  closes : ∀ line ∈ (engine.run stamp call).log, line.shown? "event" ≠ some "QUERY_INCOMPLETE"

def innkeeper : Engine where
  source _ := .ok [.ofEntries [("name", .string "Ann")]]
  config := { applyOrderBy := true, rejectUngroupedAggregate := true }

def staysOfAnn : Request where
  fields := ["*"]
  table := "guests"
  conditions := [⟨"guests.name", .equal, "Ann"⟩]
  join := some ⟨.inner, "stays", ⟨"guests.name", "stays.name"⟩⟩
  groupBy := none
  orderBy := some [⟨"stays.name", .descending⟩]
  ungroupedAggregate := false

def countOfGuests : Request where
  fields := ["COUNT(*)"]
  table := "guests"
  conditions := []
  join := none
  groupBy := none
  orderBy := none
  ungroupedAggregate := true

end Engine

end TableQuery
