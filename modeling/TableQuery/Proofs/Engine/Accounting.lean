import Mathlib.Algebra.Ring.Nat
import TableQuery.Proofs.Engine.Stages
import TableQuery.Proofs.Traversal

/-! The accounts of an engine.

Every call adds to the counters what it alone decides: neither its stamp nor the calls before it
matter. Clones of an engine share the counters, so that calls on all of them are one sequence.
-/

set_option autoImplicit false

namespace TableQuery

theorem Metrics.add_eq (first second : Metrics) :
    first + second =
      { queriesExecuted := first.queriesExecuted + second.queriesExecuted
        queriesFailed := first.queriesFailed + second.queriesFailed
        rowsLoaded := first.rowsLoaded + second.rowsLoaded
        rowsJoined := first.rowsJoined + second.rowsJoined
        rowsFilteredOut := first.rowsFilteredOut + second.rowsFilteredOut
        rowsReturned := first.rowsReturned + second.rowsReturned } :=
  rfl

theorem Table.satisfying_sublist {likeMatching : Bool} {conditions : List Condition}
    {rows kept : Table} (satisfied : rows.satisfying likeMatching conditions = .ok kept) :
    kept.Sublist rows := by
  induction rows generalizing kept with
  | nil =>
    cases satisfied
    exact .slnil
  | cons row rest ih =>
    unfold Table.satisfying at satisfied
    cases verdict : Condition.allHold likeMatching row conditions with
    | error error => simp [verdict] at satisfied
    | ok keeps =>
      cases later : Table.satisfying likeMatching conditions rest with
      | error error => simp [verdict, later] at satisfied
      | ok others =>
        simp only [verdict, later, Except.ok.injEq] at satisfied
        subst satisfied
        cases keeps with
        | false => exact (ih later).cons row
        | true => exact (ih later).cons_cons row

namespace Request

variable (source : Source) (request : Request)

/-- The rows that a request filters: the records of its join, or the rows of its table. -/
def inputRows : Nat :=
  match request.join with
  | some _ => request.joinedRows source
  | none =>
    match source request.table with
    | .error _ => 0
    | .ok main => main.length

variable {source request}

theorem length_of_working {rows : Table} {shown : List String}
    (ready : request.working source = .ok (rows, shown)) :
    rows.length = request.inputRows source := by
  unfold working at ready
  obtain ⟨main, mainLoaded, ready⟩ := bind_eq_ok_iff.1 ready
  unfold inputRows joinedRows
  cases joins : request.join with
  | none =>
    rw [joins] at ready
    cases ready
    rw [mainLoaded]
  | some join =>
    rw [joins] at ready
    obtain ⟨joined, joinedLoaded, ready⟩ := bind_eq_ok_iff.1 ready
    cases ready
    simp only [mainLoaded, joinedLoaded]
    exact List.length_map _

theorem arranged_perm (config : Config) (kept : Table) :
    (request.arranged config kept).Perm kept := by
  unfold arranged
  cases request.orderBy with
  | none => exact .refl kept
  | some keys =>
    cases config.applyOrderBy with
    | false => exact .refl kept
    | true => exact kept.sort_perm keys

/-- Every row that is filtered is either shown or counted as dropped. -/
theorem shown_add_dropped {config : Config} {rows : Table}
    (answers : request.answered source config = .ok rows) :
    rows.length + request.droppedRows source config.likeMatching = request.inputRows source := by
  unfold answered at answers
  unfold droppedRows
  cases ready : request.working source with
  | error error => simp [ready] at answers
  | ok working =>
    obtain ⟨input, shown⟩ := working
    simp only [ready] at answers ⊢
    cases satisfied : input.satisfying config.likeMatching request.conditions with
    | error error => simp [satisfied] at answers
    | ok kept =>
      simp only [satisfied, Except.ok.injEq] at answers ⊢
      rw [← answers, List.length_map, (arranged_perm config kept).length_eq,
        ← length_of_working ready]
      exact Nat.add_sub_cancel' (Table.satisfying_sublist satisfied).length_le

theorem droppedRows_of_error {config : Config} {error : QueryError}
    (fails : request.answered source config = .error error) :
    request.droppedRows source config.likeMatching = 0 := by
  unfold answered at fails
  unfold droppedRows
  cases ready : request.working source with
  | error error => rfl
  | ok working =>
    obtain ⟨input, shown⟩ := working
    simp only [ready] at fails ⊢
    cases satisfied : input.satisfying config.likeMatching request.conditions with
    | error error => rfl
    | ok kept => simp [satisfied] at fails

end Request

namespace Engine

variable (engine : Engine)

/-- A count that a call makes through the request that it has answered, if it comes to that. -/
def countFor (call : Call) (count : Request → Nat) : Nat :=
  match engine.admitted call with
  | .error _ => 0
  | .ok request => count request

/-- The rows of the tables that a call loads. -/
def loadedRows (call : Call) : Nat :=
  engine.countFor call (Request.loadedRows engine.source)

def inputRows (call : Call) : Nat :=
  engine.countFor call (Request.inputRows engine.source)

def answerTo (call : Call) : Except QueryError Table :=
  match engine.admitted call with
  | .error error => .error error
  | .ok request => request.answered engine.source engine.config

def counted (call : Call) : Metrics where
  queriesExecuted := if (engine.answerTo call).isOk then 1 else 0
  queriesFailed := if (engine.answerTo call).isOk then 0 else 1
  rowsLoaded := (engine.loadedRows call).toUInt64
  rowsJoined := (engine.countFor call (Request.joinedRows engine.source)).toUInt64
  rowsFilteredOut := (engine.countFor call fun request =>
    request.droppedRows engine.source engine.config.likeMatching).toUInt64
  rowsReturned := match engine.answerTo call with
    | .error _ => 0
    | .ok rows => rows.length.toUInt64

theorem result_run (stamp : Stamp) (call : Call) :
    (engine.run stamp call).result = engine.answerTo call :=
  engine.result_answer stamp call

theorem metrics_run (stamp : Stamp) (call : Call) :
    (engine.run stamp call).metrics = engine.counted call := by
  show (engine.answer stamp call).metrics + closingMetrics (engine.answer stamp call).result = _
  rw [metrics_answer, result_answer]
  unfold counted loadedRows countFor answerTo
  cases engine.admitted call with
  | error error => rfl
  | ok request =>
    cases answers : request.answered engine.source engine.config with
    | error error =>
      simp only [answers, Metrics.add_eq, Count.metrics, closingMetrics, UInt64.add_zero,
        UInt64.zero_add]
      rfl
    | ok rows =>
      simp only [answers, Metrics.add_eq, Count.metrics, closingMetrics, UInt64.add_zero,
        UInt64.zero_add]
      rfl

variable {engine} {call : Call}

theorem returned_add_filteredOut {rows : Table} (answers : engine.answerTo call = .ok rows) :
    (engine.counted call).rowsReturned + (engine.counted call).rowsFilteredOut =
      (engine.inputRows call).toUInt64 := by
  unfold counted inputRows countFor
  simp only [answers]
  unfold answerTo at answers
  cases reached : engine.admitted call with
  | error error => simp [reached] at answers
  | ok request =>
    simp only [reached] at answers ⊢
    rw [← Request.shown_add_dropped answers]
    exact (UInt64.ofNat_add _ _).symm

/-- A call that fails counts itself and the rows that it loaded, and none that it kept. -/
theorem counted_of_error {error : QueryError} (fails : engine.answerTo call = .error error) :
    (engine.counted call).queriesExecuted = 0 ∧ (engine.counted call).queriesFailed = 1 ∧
      (engine.counted call).rowsFilteredOut = 0 ∧ (engine.counted call).rowsReturned = 0 := by
  unfold counted countFor
  rw [fails]
  refine ⟨rfl, rfl, ?_, rfl⟩
  unfold answerTo at fails
  cases reached : engine.admitted call with
  | error error => rfl
  | ok request =>
    simp only [reached] at fails ⊢
    rw [Request.droppedRows_of_error fails]
    rfl

variable (engine)

def finalCounters (start : Metrics) (calls : List (Stamp × Call)) : Metrics :=
  ((engine.runAll start calls).getLast?.map Reply.metrics).getD start

theorem runAll_cons (start : Metrics) (call : Stamp × Call) (rest : List (Stamp × Call)) :
    engine.runAll start (call :: rest) =
      ⟨engine.run call.1 call.2, start + engine.counted call.2⟩ ::
        engine.runAll (start + engine.counted call.2) rest := by
  rw [← metrics_run engine call.1]
  rfl

theorem finalCounters_cons (start : Metrics) (call : Stamp × Call) (rest : List (Stamp × Call)) :
    engine.finalCounters start (call :: rest) =
      engine.finalCounters (start + engine.counted call.2) rest := by
  unfold finalCounters
  rw [runAll_cons, List.getLast?_cons]
  cases (engine.runAll (start + engine.counted call.2) rest).getLast? <;> rfl

theorem finalCounters_eq_foldl (start : Metrics) (calls : List (Stamp × Call)) :
    engine.finalCounters start calls =
      (calls.map Prod.snd).foldl (fun counters call => counters + engine.counted call) start := by
  induction calls generalizing start with
  | nil => rfl
  | cons call rest ih =>
    rw [finalCounters_cons, ih]
    rfl

theorem finalCounters_concat (start : Metrics) (calls : List (Stamp × Call)) (stamp : Stamp)
    (call : Call) :
    engine.finalCounters start (calls ++ [(stamp, call)]) =
      engine.finalCounters start calls + engine.counted call := by
  simp only [finalCounters_eq_foldl, List.map_append, List.foldl_append]
  rfl

theorem finalCounters_perm {calls order : List (Stamp × Call)}
    (same : (order.map Prod.snd).Perm (calls.map Prod.snd)) (start : Metrics) :
    engine.finalCounters start order = engine.finalCounters start calls := by
  rw [finalCounters_eq_foldl, finalCounters_eq_foldl]
  apply same.foldl_eq'
  -- Two calls add the same in either order.
  intro first _ second _ counters
  rw [Metrics.add_assoc, Metrics.add_comm (engine.counted first), ← Metrics.add_assoc]

theorem results_runAll (start : Metrics) (calls : List (Stamp × Call)) :
    (engine.runAll start calls).map (·.run.result) =
      calls.map fun call => engine.answerTo call.2 := by
  induction calls generalizing start with
  | nil => rfl
  | cons call rest ih =>
    rw [runAll_cons, List.map_cons, List.map_cons, ih, result_run]

theorem executed_add_failed (start : Metrics) (calls : List (Stamp × Call)) :
    (engine.finalCounters start calls).queriesExecuted +
        (engine.finalCounters start calls).queriesFailed =
      start.queriesExecuted + start.queriesFailed + calls.length.toUInt64 := by
  induction calls generalizing start with
  | nil => exact (UInt64.add_zero _).symm
  | cons call rest ih =>
    -- A call adds one to one of the two counters.
    have one : (engine.counted call.2).queriesExecuted +
        (engine.counted call.2).queriesFailed = 1 := by
      unfold counted
      cases (engine.answerTo call.2).isOk <;> rfl
    have grown : (rest.length + 1).toUInt64 = rest.length.toUInt64 + 1 := UInt64.ofNat_add _ _
    rw [finalCounters_cons, ih, List.length_cons, grown, ← one]
    simp only [Metrics.add_eq]
    ac_rfl

def successful (calls : List (Stamp × Call)) : List (Stamp × Call) :=
  calls.filter fun call => (engine.run call.1 call.2).result.isOk

theorem returned_add_filteredOut_runAll (start : Metrics) (calls : List (Stamp × Call)) :
    (engine.finalCounters start calls).rowsReturned +
        (engine.finalCounters start calls).rowsFilteredOut =
      start.rowsReturned + start.rowsFilteredOut +
        ((engine.successful calls).map fun call => engine.inputRows call.2).sum.toUInt64 := by
  induction calls generalizing start with
  | nil => exact (UInt64.add_zero _).symm
  | cons call rest ih =>
    rw [finalCounters_cons, ih]
    unfold successful
    rw [List.filter_cons, result_run]
    cases answers : engine.answerTo call.2 with
    | error error =>
      -- A call that fails adds to neither side.
      obtain ⟨-, -, filteredOut, returned⟩ := counted_of_error answers
      rw [if_neg (by simp [Except.isOk, Except.toBool])]
      simp only [Metrics.add_eq, filteredOut, returned, UInt64.add_zero]
    | ok rows =>
      have grown (one others : Nat) : (one + others).toUInt64 = one.toUInt64 + others.toUInt64 :=
        UInt64.ofNat_add _ _
      rw [if_pos (by simp [Except.isOk, Except.toBool]), List.map_cons, List.sum_cons, grown,
        ← returned_add_filteredOut answers]
      simp only [Metrics.add_eq]
      ac_rfl

/-- The accounts balance over every run, and do not depend on the order of the calls. -/
theorem runAll_accounts (calls : List (Stamp × Call)) :
    (engine.finalCounters 0 calls).queriesExecuted +
        (engine.finalCounters 0 calls).queriesFailed = calls.length.toUInt64 ∧
      (engine.finalCounters 0 calls).rowsReturned +
          (engine.finalCounters 0 calls).rowsFilteredOut =
        ((engine.successful calls).map fun call => engine.inputRows call.2).sum.toUInt64 ∧
      (∀ stamp call error, (engine.run stamp call).result = .error error →
        let before := engine.finalCounters 0 calls
        let after := engine.finalCounters 0 (calls ++ [(stamp, call)])
        after.queriesExecuted = before.queriesExecuted ∧
          after.rowsFilteredOut = before.rowsFilteredOut ∧
          after.rowsReturned = before.rowsReturned ∧
          after.queriesFailed = before.queriesFailed + 1 ∧
          after.rowsLoaded = before.rowsLoaded + (engine.loadedRows call).toUInt64) ∧
      ∃ answer : Call → Except QueryError Table,
        ∀ order : List (Stamp × Call), (order.map Prod.snd).Perm (calls.map Prod.snd) →
          (engine.runAll 0 order).map (·.run.result) = order.map (fun call => answer call.2) ∧
            engine.finalCounters 0 order = engine.finalCounters 0 calls := by
  refine ⟨?_, ?_, ?_, engine.answerTo, ?_⟩
  · rw [executed_add_failed]
    exact UInt64.zero_add _
  · rw [returned_add_filteredOut_runAll]
    exact UInt64.zero_add _
  · intro stamp call error fails
    rw [result_run] at fails
    obtain ⟨executed, failed, filteredOut, returned⟩ := counted_of_error fails
    simp only [finalCounters_concat, Metrics.add_eq, executed, failed, filteredOut, returned,
      UInt64.add_zero, true_and]
    rfl
  · intro order same
    exact ⟨engine.results_runAll 0 order, engine.finalCounters_perm same 0⟩

def loneTable : Engine where
  source table := if table = "staff" then .ok [∅, ∅] else .error (.tableNotFound table)
  config := {}

def staffedRooms : Request where
  fields := ["*"]
  table := "staff"
  conditions := []
  join := some ⟨.inner, "rooms", ⟨"staff.id", "rooms.id"⟩⟩
  groupBy := none
  orderBy := none
  ungroupedAggregate := false

theorem runAll_accounts_of_missing_table :
    (loneTable.run ⟨"", ""⟩ (.request staffedRooms)).result =
        .error (.source (.tableNotFound "rooms")) ∧
      (loneTable.finalCounters 0 [(⟨"", ""⟩, .request staffedRooms)]).rowsLoaded = 2 := by
  have fails : (loneTable.run ⟨"", ""⟩ (.request staffedRooms)).result =
      .error (.source (.tableNotFound "rooms")) := rfl
  obtain ⟨-, -, failing, -⟩ := loneTable.runAll_accounts []
  obtain ⟨-, -, -, -, loaded⟩ := failing ⟨"", ""⟩ (.request staffedRooms) _ fails
  exact ⟨fails, loaded⟩

end Engine

end TableQuery
