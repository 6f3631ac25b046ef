import TableQuery.Proofs.Engine.Accounting
import TableQuery.Proofs.Join.FullRecords

/-! Conditions as a conjunction.

The order of the conditions decides which of them are evaluated, and so whether a query fails, but
not what it answers when it does not fail. A condition that is repeated is as good as one.
-/

set_option autoImplicit false

namespace TableQuery

namespace Condition

variable {likeMatching : Bool} {cells : Cells} {first second : List Condition}

theorem allHoldOf_of_subset (within : second ⊆ first) {keeps : Bool}
    (left : allHoldOf likeMatching cells first = .ok true)
    (right : allHoldOf likeMatching cells second = .ok keeps) : keeps = true := by
  have all := allHoldOf_eq_true_iff.1 left
  have held := allHoldOf_eq_true_iff.2 fun condition member => all condition (within member)
  rw [held] at right
  exact (Except.ok.inj right).symm

/-- The order of conditions changes no verdict, though it may change whether there is one. -/
theorem allHoldOf_perm (perm : first.Perm second) {one other : Bool}
    (left : allHoldOf likeMatching cells first = .ok one)
    (right : allHoldOf likeMatching cells second = .ok other) : one = other := by
  rw [Bool.eq_iff_iff]
  constructor
  · rintro rfl
    exact allHoldOf_of_subset perm.symm.subset left right
  · rintro rfl
    exact allHoldOf_of_subset perm.subset right left

theorem allHoldOf_of_mem {condition : Condition} (member : condition ∈ first)
    (later : List Condition) :
    allHoldOf likeMatching cells (first ++ condition :: later) =
      allHoldOf likeMatching cells (first ++ later) := by
  rw [allHoldOf_append first (condition :: later), allHoldOf_append first later]
  cases earlier : allHoldOf likeMatching cells first with
  | error error => rfl
  | ok kept =>
    cases kept with
    | false => rfl
    | true =>
      -- A record that comes to the condition again has satisfied it before.
      simp only [allHoldOf, allHoldOf_eq_true_iff.1 earlier condition member]

end Condition

namespace Request

variable {source : Source} {config : Config} {request : Request} {conditions : List Condition}

theorem mem_referencedFields_under (perm : conditions.Perm request.conditions) (field : String) :
    field ∈ (request.under conditions).referencedFields ↔ field ∈ request.referencedFields := by
  unfold referencedFields
  rw [List.mem_append, List.mem_append]
  exact or_congr_left (perm.map _).mem_iff

theorem answered_under_perm (perm : conditions.Perm request.conditions) {rows others : Table}
    (answers : request.answered source config = .ok rows)
    (answering : (request.under conditions).answered source config = .ok others) :
    others = rows := by
  obtain ⟨origins, shown, ready⟩ := exists_origins_of_answered answers
  have reading : (request.under conditions).origins source = .ok (origins, shown) := ready
  -- The records of both requests hold the same fields, though not in the same order.
  have agree (origin : RowPair) : AgreeOn (request.under conditions).referencedFields
      ((request.under conditions).workingRow shown origin).get?
      (request.workingRow shown origin).get? := fun field _ =>
    get?_workingRow_under (mem_referencedFields_under perm field) origin
  obtain ⟨clean, rfl⟩ := (answered_eq_ok_iff ready fun _ _ _ => rfl).1 answers
  obtain ⟨clear, rfl⟩ := (answered_eq_ok_iff reading agree).1 answering
  have shows (origin : RowPair) : ((request.under conditions).workingRow shown origin).project shown =
      (request.workingRow shown origin).project shown := project_workingRow_under ready origin
  have verdicts : ∀ origin ∈ origins,
      (request.under conditions).verdictOn config (request.workingRow shown origin).get? =
        request.verdictOn config (request.workingRow shown origin).get? := by
    intro origin member
    obtain ⟨one, left⟩ := clean origin member
    obtain ⟨other, right⟩ := clear origin member
    rw [left, right, Condition.allHoldOf_perm perm right left]
  simp only [shows]
  rw [List.filter_congr fun origin member => congrArg isKept (verdicts origin member)]
  rfl

theorem droppedRows_under {rows : Table} (answers : request.answered source config = .ok rows)
    (answering : (request.under conditions).answered source config = .ok rows) :
    (request.under conditions).droppedRows source config.likeMatching =
      request.droppedRows source config.likeMatching := by
  have one := shown_add_dropped answers
  have other := shown_add_dropped answering
  exact Nat.add_left_cancel (other.trans one.symm)

/-- A condition that is repeated reads nothing new. -/
theorem auxiliaryFields_of_mem {condition : Condition} (member : condition ∈ conditions)
    (later : List Condition) :
    (request.under (conditions ++ condition :: later)).auxiliaryFields =
      (request.under (conditions ++ later)).auxiliaryFields := by
  unfold auxiliaryFields referencedFields under
  simp only [List.map_append, List.map_cons, List.filter_append, List.filter_cons,
    List.append_assoc]
  split
  · rename_i hidden
    have before : condition.field ∈
        (conditions.map (·.field)).filter (fun field => decide (field ∉ request.fields)) :=
      List.mem_filter.2 ⟨List.mem_map_of_mem member, hidden⟩
    exact addMissing_of_mem before [] _
  · rfl

end Request

namespace Engine

theorem counted_under {engine : Engine} {request : Request} {conditions : List Condition}
    {rows : Table} (answers : engine.answerTo (.request request) = .ok rows)
    (answering : engine.answerTo (.request (request.under conditions)) = .ok rows) :
    engine.counted (.request (request.under conditions)) = engine.counted (.request request) := by
  have dropped := Request.droppedRows_under answers answering
  unfold counted
  rw [answers, answering]
  simp only [countFor, admitted, dropped]
  rfl

section Repetition
variable (engine : Engine) (stamp : Stamp) {request : Request} {conditions : List Condition}
  {condition : Condition} (member : condition ∈ conditions) (later : List Condition)
include member

theorem workingRows_of_mem :
    engine.workingRows stamp (request.under (conditions ++ condition :: later)) =
      engine.workingRows stamp (request.under (conditions ++ later)) := by
  have same (shown : List String) :
      recordFields (request.under (conditions ++ condition :: later)) shown =
        recordFields (request.under (conditions ++ later)) shown := by
    unfold recordFields
    rw [Request.auxiliaryFields_of_mem member]
  unfold workingRows
  simp only [same]
  rfl

theorem filterRows_of_mem (rows : Table) :
    engine.filterRows stamp (request.under (conditions ++ condition :: later)) rows =
      engine.filterRows stamp (request.under (conditions ++ later)) rows := by
  have satisfied : rows.satisfying engine.config.likeMatching (conditions ++ condition :: later) =
      rows.satisfying engine.config.likeMatching (conditions ++ later) := by
    simp only [Table.satisfying_eq_screen, Condition.allHoldOf_of_mem member]
  have some : (conditions ++ condition :: later).isEmpty = (conditions ++ later).isEmpty := by
    cases conditions with
    | nil => cases member
    | cons first rest => rfl
  unfold filterRows Request.under
  simp only [satisfied, some]

theorem run_of_mem : engine.run stamp (.request (request.under (conditions ++ condition :: later))) =
    engine.run stamp (.request (request.under (conditions ++ later))) := by
  have answers : engine.answerRequest stamp (request.under (conditions ++ condition :: later)) =
      engine.answerRequest stamp (request.under (conditions ++ later)) := by
    unfold answerRequest
    simp only [workingRows_of_mem engine stamp member, filterRows_of_mem engine stamp member]
    rfl
  unfold run answer
  simp only [answers]

end Repetition

/-- The order of the conditions changes neither the answer of a query that succeeds nor what it
counts. A condition that is repeated behind its first occurrence changes nothing at all. -/
theorem run_under_perm (engine : Engine) (request : Request) (stamp other : Stamp) :
    (∀ conditions : List Condition, conditions.Perm request.conditions → ∀ rows others : Table,
      (engine.run stamp (.request request)).result = .ok rows →
      (engine.run other (.request (request.under conditions))).result = .ok others →
        others = rows ∧ (engine.run other (.request (request.under conditions))).metrics =
          (engine.run stamp (.request request)).metrics) ∧
      ∀ (condition : Condition) (earlier later : List Condition),
        request.conditions = earlier ++ later → condition ∈ earlier →
          engine.run stamp (.request (request.under (earlier ++ condition :: later))) =
            engine.run stamp (.request request) := by
  constructor
  · intro conditions perm rows others answers answering
    rw [result_run] at answers answering
    rw [metrics_run, metrics_run]
    obtain rfl := Request.answered_under_perm perm answers answering
    exact ⟨rfl, counted_under answers answering⟩
  · intro condition earlier later parts member
    have same : request.under (earlier ++ later) = request := by
      rw [← parts]
      rfl
    rw [engine.run_of_mem stamp member, same]

def laterVisitors : Request :=
  visitorNames.under [⟨"visits.city", .equal, "Oslo"⟩, ⟨"id", .notEqual, "1"⟩]

theorem run_under_perm_of_later_visitors :
    let run (conditions : List Condition) :=
      visitorEngine.run ⟨"", ""⟩ (.request (laterVisitors.under conditions))
    let straight := laterVisitors.conditions
    let bob : Table := [.ofEntries [("name", .string "Bob")]]
    (run straight).result = .ok bob ∧ (run straight.reverse).result = .ok bob ∧
      (run straight.reverse).metrics = (run straight).metrics ∧
      run (straight ++ [⟨"visits.city", .equal, "Oslo"⟩]) = run straight := by
  intro run straight bob
  obtain ⟨moves, repeats⟩ := visitorEngine.run_under_perm laterVisitors ⟨"", ""⟩ ⟨"", ""⟩
  have here : (run straight).result = .ok bob := by
    rw [result_run]
    rfl
  have there : (run straight.reverse).result = .ok bob := by
    rw [result_run]
    rfl
  obtain ⟨-, counts⟩ := moves _ straight.reverse_perm _ _ here there
  exact ⟨here, there, counts, repeats _ straight [] straight.append_nil.symm List.mem_cons_self⟩

end Engine

end TableQuery
