import TableQuery.Engine

/-! What the stages of a query give and count.

Neither depends on the stamp of the query: that one shows in the log only.
-/

set_option autoImplicit false

namespace TableQuery

namespace Count

theorem rowsLoaded_zero : (rowsLoaded 0).metrics = 0 := rfl

theorem rowsJoined_zero : (rowsJoined 0).metrics = 0 := rfl

theorem rowsFilteredOut_zero : (rowsFilteredOut 0).metrics = 0 := rfl

theorem rowsLoaded_add (first second : Nat) :
    (rowsLoaded (first + second)).metrics =
      (rowsLoaded first).metrics + (rowsLoaded second).metrics := by
  ext1
  case rowsLoaded => exact UInt64.ofNat_add first second
  all_goals rfl

end Count

section
variable {ε δ α : Type} (change : ε → δ)

theorem mapError_ok (value : α) : (Except.ok value).mapError change = .ok value := rfl

theorem mapError_error (error : ε) :
    (Except.error error : Except ε α).mapError change = .error (change error) := rfl

end

namespace Run

variable {α β : Type}

@[simp] theorem result_pure (value : α) : (pure value : Run α).result = .ok value := rfl

@[simp] theorem metrics_pure (value : α) : (pure value : Run α).metrics = 0 := rfl

@[simp] theorem result_ofExcept (result : Except QueryError α) :
    (ofExcept result).result = result := rfl

@[simp] theorem metrics_ofExcept (result : Except QueryError α) :
    (ofExcept result).metrics = 0 := rfl

@[simp] theorem result_count (counted : Count) : (count counted).result = .ok () := rfl

@[simp] theorem metrics_count (counted : Count) : (count counted).metrics = counted.metrics := rfl

@[simp] theorem log_pure (value : α) : (pure value : Run α).log = [] := rfl

@[simp] theorem log_ofExcept (result : Except QueryError α) : (ofExcept result).log = [] := rfl

@[simp] theorem log_count (counted : Count) : (count counted).log = [] := rfl

theorem result_bind (first : Run α) (next : α → Run β) :
    (first >>= next).result =
      match first.result with
      | .error error => .error error
      | .ok value => (next value).result := by
  cases result : first.result with
  | error error => rw [bind_error result]
  | ok value => rw [bind_ok result]

theorem metrics_bind (first : Run α) (next : α → Run β) :
    (first >>= next).metrics =
      first.metrics +
        match first.result with
        | .error _ => 0
        | .ok value => (next value).metrics := by
  cases result : first.result with
  | error error => rw [bind_error result, Metrics.add_zero]
  | ok value => rw [bind_ok result]

theorem log_bind (first : Run α) (next : α → Run β) :
    (first >>= next).log =
      first.log ++
        match first.result with
        | .error _ => []
        | .ok value => (next value).log := by
  cases result : first.result with
  | error error => rw [bind_error result, List.append_nil]
  | ok value => rw [bind_ok result]

end Run

namespace Request

variable (source : Source) (request : Request)

def working : Except SourceError (Table × List String) := do
  let main ← source request.table
  match request.join with
  | none => return (main, request.fields)
  | some join =>
    let joined ← source join.table
    let shown := expandWildcard request.fields request.table main join.table joined
    return (join.kind.records join.keys request.table (Engine.recordFields request shown) main
      joined, shown)

/-- The rows of the tables that are loaded. After a failure no other table is. -/
def loadedRows : Nat :=
  match source request.table, request.join with
  | .error _, _ => 0
  | .ok main, none => main.length
  | .ok main, some join =>
    match source join.table with
    | .error _ => main.length
    | .ok joined => main.length + joined.length

def joinedRows : Nat :=
  match request.join with
  | none => 0
  | some join =>
    match source request.table, source join.table with
    | .ok main, .ok joined => (join.kind.pairs join.keys main joined).length
    | _, _ => 0

def droppedRows (likeMatching : Bool) : Nat :=
  match request.working source with
  | .error _ => 0
  | .ok (rows, _) =>
    match rows.satisfying likeMatching request.conditions with
    | .error _ => 0
    | .ok kept => rows.length - kept.length

def arranged (config : Config) (kept : Table) : Table :=
  match request.orderBy with
  | some keys => if config.applyOrderBy then kept.sort keys else kept
  | none => kept

def answered (config : Config) : Except QueryError Table :=
  match request.working source with
  | .error error => .error (.source error)
  | .ok (rows, shown) =>
    match rows.satisfying config.likeMatching request.conditions with
    | .error error => .error (.evaluation error)
    | .ok kept => .ok ((request.arranged config kept).map (·.project shown))

end Request

theorem Table.satisfying_nil (likeMatching : Bool) (rows : Table) :
    rows.satisfying likeMatching [] = .ok rows := by
  induction rows with
  | nil => rfl
  | cons row rest ih => rw [Table.satisfying, ih]; rfl

namespace Engine

variable (engine : Engine) (stamp : Stamp)

@[simp] theorem result_note (event : Event) (fields : Fields) :
    (engine.note stamp event fields).result = .ok () := rfl

@[simp] theorem metrics_note (event : Event) (fields : Fields) :
    (engine.note stamp event fields).metrics = 0 := rfl

theorem result_load (table : String) :
    (engine.load stamp table).result = (engine.source table).mapError .source := by
  unfold load
  simp only [Run.result_bind, Run.result_ofExcept, Run.result_count, result_note, Run.result_pure]
  cases engine.source table <;> rfl

theorem metrics_load (table : String) :
    (engine.load stamp table).metrics =
      match engine.source table with
      | .error _ => 0
      | .ok rows => (Count.rowsLoaded rows.length).metrics := by
  unfold load
  simp only [Run.metrics_bind, Run.result_ofExcept, Run.metrics_ofExcept, Run.result_count,
    Run.metrics_count, result_note, metrics_note, Run.metrics_pure, Metrics.zero_add,
    Metrics.add_zero]
  cases engine.source table <;> rfl

theorem result_workingRows (request : Request) :
    (engine.workingRows stamp request).result =
      (request.working engine.source).mapError .source := by
  unfold workingRows Request.working
  rw [Run.result_bind, result_load]
  cases engine.source request.table with
  | error error => rfl
  | ok main =>
    cases request.join with
    | none => rfl
    | some join =>
      simp only [mapError_ok, Run.result_bind, result_load, Run.result_count, result_note,
        Run.result_pure]
      cases engine.source join.table <;> rfl

theorem metrics_workingRows (request : Request) :
    (engine.workingRows stamp request).metrics =
      (Count.rowsLoaded (request.loadedRows engine.source)).metrics +
        (Count.rowsJoined (request.joinedRows engine.source)).metrics := by
  unfold workingRows Request.loadedRows Request.joinedRows
  rw [Run.metrics_bind, result_load, metrics_load]
  cases engine.source request.table with
  | error error =>
    cases request.join <;> simp only [mapError_error, Count.rowsLoaded_zero, Count.rowsJoined_zero]
  | ok main =>
    cases request.join with
    | none => simp only [mapError_ok, Run.metrics_pure, Count.rowsJoined_zero]
    | some join =>
      simp only [mapError_ok, Run.metrics_bind, result_load, metrics_load, Run.result_count,
        Run.metrics_count, result_note, metrics_note, Run.metrics_pure, Metrics.add_zero]
      -- A table that is not found ends the stage with what was counted before it.
      cases engine.source join.table with
      | error error => simp only [mapError_error, Count.rowsJoined_zero, Metrics.add_zero]
      | ok joined =>
        simp only [mapError_ok, Count.rowsLoaded_add, Metrics.add_assoc, JoinKind.records,
          List.length_map]

theorem result_filterRows (request : Request) (rows : Table) :
    (engine.filterRows stamp request rows).result =
      (rows.satisfying engine.config.likeMatching request.conditions).mapError .evaluation := by
  unfold filterRows
  split
  · rename_i free
    rw [List.isEmpty_iff.1 free, Table.satisfying_nil]
    rfl
  · simp only [Run.result_bind, Run.result_ofExcept, Run.result_count, result_note, Run.result_pure]
    cases rows.satisfying engine.config.likeMatching request.conditions <;> rfl

theorem metrics_filterRows (request : Request) (rows : Table) :
    (engine.filterRows stamp request rows).metrics =
      match rows.satisfying engine.config.likeMatching request.conditions with
      | .error _ => 0
      | .ok kept => (Count.rowsFilteredOut (rows.length - kept.length)).metrics := by
  unfold filterRows
  split
  · rename_i free
    rw [List.isEmpty_iff.1 free, Table.satisfying_nil]
    simp only [Nat.sub_self]
    rfl
  · simp only [Run.metrics_bind, Run.result_ofExcept, Run.metrics_ofExcept, Run.result_count,
      Run.metrics_count, result_note, metrics_note, Run.metrics_pure, Metrics.add_zero,
      Metrics.zero_add]
    cases rows.satisfying engine.config.likeMatching request.conditions <;> rfl

theorem result_sortRows (request : Request) (rows : Table) :
    (engine.sortRows stamp request rows).result = .ok (request.arranged engine.config rows) := by
  unfold sortRows Request.arranged
  cases request.orderBy with
  | none => rfl
  | some keys => cases engine.config.applyOrderBy <;> rfl

theorem metrics_sortRows (request : Request) (rows : Table) :
    (engine.sortRows stamp request rows).metrics = 0 := by
  unfold sortRows
  cases request.orderBy with
  | none => rfl
  | some keys => cases engine.config.applyOrderBy <;> rfl

theorem result_answerRequest (request : Request) :
    (engine.answerRequest stamp request).result =
      request.answered engine.source engine.config := by
  unfold answerRequest Request.answered
  simp only [Run.result_bind, result_workingRows, result_filterRows, result_sortRows,
    Run.result_pure]
  cases request.working engine.source with
  | error error => rfl
  | ok working =>
    obtain ⟨rows, shown⟩ := working
    simp only [mapError_ok]
    cases rows.satisfying engine.config.likeMatching request.conditions <;> rfl

theorem metrics_answerRequest (request : Request) :
    (engine.answerRequest stamp request).metrics =
      (Count.rowsLoaded (request.loadedRows engine.source)).metrics +
        (Count.rowsJoined (request.joinedRows engine.source)).metrics +
        (Count.rowsFilteredOut
          (request.droppedRows engine.source engine.config.likeMatching)).metrics := by
  unfold answerRequest Request.droppedRows
  rw [Run.metrics_bind, metrics_workingRows, result_workingRows]
  congr 1
  cases request.working engine.source with
  | error error => rfl
  | ok working =>
    obtain ⟨rows, shown⟩ := working
    simp only [mapError_ok, Run.metrics_bind, metrics_filterRows, result_filterRows,
      metrics_sortRows, result_sortRows, Run.metrics_pure, Metrics.add_zero]
    cases rows.satisfying engine.config.likeMatching request.conditions with
    | error error => simp only [mapError_error, Metrics.add_zero, Count.rowsFilteredOut_zero]
    | ok kept => simp only [mapError_ok, Metrics.add_zero]

/-- The request that a call has answered: a text is rejected, or refused by the settings, or it
is answered as the request that it is read as. -/
def admitted (engine : Engine) : Call → Except QueryError Request
  | .request request => .ok request
  | .query text =>
    match Request.ofText text with
    | .error rejection => .error (.rejected rejection)
    | .ok request =>
      if request.ungroupedAggregate && engine.config.rejectUngroupedAggregate then
        .error (.ungroupedAggregate (String.ofList (Text.trim text.toList)))
      else .ok request

/-- One setting decides which calls are refused, and tables do not matter. -/
theorem admitted_congr {first second : Engine}
    (same : first.config.rejectUngroupedAggregate = second.config.rejectUngroupedAggregate)
    (call : Call) : first.admitted call = second.admitted call := by
  cases call with
  | request request => rfl
  | query text => simp only [admitted, same]

theorem result_checkAggregate (text : String) (request : Request) :
    (engine.checkAggregate stamp text request).result =
      if request.ungroupedAggregate && engine.config.rejectUngroupedAggregate then
        .error (.ungroupedAggregate (String.ofList (Text.trim text.toList)))
      else .ok () := by
  unfold checkAggregate
  cases request.ungroupedAggregate <;> cases engine.config.rejectUngroupedAggregate <;> rfl

theorem metrics_checkAggregate (text : String) (request : Request) :
    (engine.checkAggregate stamp text request).metrics = 0 := by
  unfold checkAggregate
  cases request.ungroupedAggregate <;> cases engine.config.rejectUngroupedAggregate <;> rfl

def admission (engine : Engine) (stamp : Stamp) : Call → Run Request
  | .request request => return request
  | .query text => do
    let request ← Run.ofExcept ((Request.ofText text).mapError .rejected)
    engine.note stamp .queryParsed
      [("table", request.table), ("join", (request.join.map Join.table).getD "none"),
       ("conditions", sizeText request.conditions)]
    engine.checkAggregate stamp text request
    return request

theorem answer_eq_bind (call : Call) :
    engine.answer stamp call = engine.admission stamp call >>= engine.answerRequest stamp := by
  cases call with
  | request request => exact (pure_bind request (engine.answerRequest stamp)).symm
  | query text => simp only [answer, answerQuery, admission, bind_assoc, pure_bind]

theorem result_admission (call : Call) : (engine.admission stamp call).result = engine.admitted call := by
  cases call with
  | request request => rfl
  | query text =>
    unfold admission admitted
    simp only [Run.result_bind, Run.result_ofExcept, result_note, result_checkAggregate,
      Run.result_pure]
    cases Request.ofText text with
    | error rejection => rfl
    | ok request =>
      simp only [mapError_ok]
      cases request.ungroupedAggregate && engine.config.rejectUngroupedAggregate <;> rfl

theorem metrics_admission (call : Call) : (engine.admission stamp call).metrics = 0 := by
  cases call with
  | request request => rfl
  | query text =>
    unfold admission
    simp only [Run.metrics_bind, Run.result_ofExcept, Run.metrics_ofExcept, result_note,
      metrics_note, metrics_checkAggregate, result_checkAggregate, Run.metrics_pure,
      Metrics.zero_add]
    cases Request.ofText text with
    | error rejection => rfl
    | ok request =>
      simp only [mapError_ok]
      cases request.ungroupedAggregate && engine.config.rejectUngroupedAggregate <;> rfl

theorem result_answer (call : Call) :
    (engine.answer stamp call).result =
      match engine.admitted call with
      | .error error => .error error
      | .ok request => request.answered engine.source engine.config := by
  rw [answer_eq_bind, Run.result_bind, result_admission]
  cases engine.admitted call with
  | error error => rfl
  | ok request => exact engine.result_answerRequest stamp request

theorem metrics_answer (call : Call) :
    (engine.answer stamp call).metrics =
      match engine.admitted call with
      | .error _ => 0
      | .ok request =>
        (Count.rowsLoaded (request.loadedRows engine.source)).metrics +
          (Count.rowsJoined (request.joinedRows engine.source)).metrics +
          (Count.rowsFilteredOut
            (request.droppedRows engine.source engine.config.likeMatching)).metrics := by
  rw [answer_eq_bind, Run.metrics_bind, metrics_admission, result_admission, Metrics.zero_add]
  cases engine.admitted call with
  | error error => rfl
  | ok request => exact engine.metrics_answerRequest stamp request

end Engine

end TableQuery
