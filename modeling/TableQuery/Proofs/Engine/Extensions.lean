import TableQuery.Proofs.Cells
import TableQuery.Proofs.Engine.Shape

/-! Settings that extend an engine.

Matching of patterns and the refusal of ungrouped aggregates decide which queries succeed, and
nothing else. A query that succeeds under narrower settings is the same query under wider ones: it
shows the same rows, counts the same and writes the same log.
-/

set_option autoImplicit false

namespace TableQuery

/-- The second settings allow all that the first allow, and sort and log as these do. -/
structure Config.Within (narrow wide : Config) : Prop where
  likeMatching : narrow.likeMatching = true → wide.likeMatching = true
  rejectUngroupedAggregate :
    wide.rejectUngroupedAggregate = true → narrow.rejectUngroupedAggregate = true
  applyOrderBy : wide.applyOrderBy = narrow.applyOrderBy
  logEvents : wide.logEvents = narrow.logEvents

namespace Run

variable {α β : Type}

/-- Where the first run succeeds, the second one is the same, counts and log included. -/
def KeptBy (first second : Run α) : Prop :=
  ∀ value, first.result = .ok value → second = first

namespace KeptBy

theorem refl (run : Run α) : run.KeptBy run :=
  fun _ _ => rfl

theorem of_error {first second : Run α} {error : QueryError} (failed : first.result = .error error) :
    first.KeptBy second := by
  intro value succeeded
  rw [failed] at succeeded
  cases succeeded

theorem ofExcept {first second : Except QueryError α}
    (kept : ∀ value, first = .ok value → second = .ok value) :
    (Run.ofExcept first).KeptBy (Run.ofExcept second) := by
  intro value succeeded
  rw [result_ofExcept] at succeeded
  rw [kept value succeeded, succeeded]

theorem bind {first second : Run α} {next other : α → Run β} (kept : first.KeptBy second)
    (later : ∀ value, (next value).KeptBy (other value)) :
    (first >>= next).KeptBy (second >>= other) := by
  intro result succeeded
  cases here : first.result with
  | error error =>
    rw [bind_error here] at succeeded
    cases succeeded
  | ok value =>
    rw [bind_ok here] at succeeded
    rw [kept value here, bind_ok here, bind_ok here, later value result succeeded]

end KeptBy

end Run

namespace Condition

variable {narrow wide : Bool} {cells : Cells}

theorem holdsOf_widens (widens : narrow = true → wide = true) {condition : Condition}
    {kept : Bool} (verdict : condition.holdsOf narrow cells = .ok kept) :
    condition.holdsOf wide cells = .ok kept := by
  unfold holdsOf at verdict ⊢
  -- Only LIKE depends on the setting, and it errs where patterns are not matched.
  by_cases like : condition.operator = .like
  · cases narrow with
    | false => simp [like] at verdict
    | true => rwa [widens rfl]
  · simpa only [if_neg like] using verdict

theorem allHoldOf_widens (widens : narrow = true → wide = true) {conditions : List Condition}
    {kept : Bool} (verdict : allHoldOf narrow cells conditions = .ok kept) :
    allHoldOf wide cells conditions = .ok kept := by
  induction conditions with
  | nil => exact verdict
  | cons condition rest ih =>
    unfold allHoldOf at verdict ⊢
    cases here : condition.holdsOf narrow cells with
    | error error => simp [here] at verdict
    | ok holds =>
      rw [here] at verdict
      rw [holdsOf_widens widens here]
      cases holds with
      | false => exact verdict
      | true => exact ih verdict

/-- Without patterns a LIKE condition has no verdict, so a record with one has failed before. -/
theorem allHoldOf_of_like {conditions : List Condition}
    (like : ∃ condition ∈ conditions, condition.operator = .like) {kept : Bool}
    (verdict : allHoldOf false cells conditions = .ok kept) : kept = false := by
  induction conditions with
  | nil => simp at like
  | cons condition rest ih =>
    unfold allHoldOf at verdict
    cases here : condition.holdsOf false cells with
    | error error => simp [here] at verdict
    | ok holds =>
      rw [here] at verdict
      cases holds with
      | false =>
        cases verdict
        rfl
      | true =>
        -- The condition that held is no LIKE condition, so that one is still to come.
        rw [List.exists_mem_cons_iff] at like
        rcases like with first | later
        · simp [holdsOf, first] at here
        · exact ih later verdict

end Condition

namespace Table

variable {conditions : List Condition} {rows kept : Table}

theorem satisfying_eq_ok_iff {likeMatching : Bool} :
    rows.satisfying likeMatching conditions = .ok kept ↔
      (∀ row ∈ rows, ∃ keeps, Condition.allHoldOf likeMatching row.get? conditions = .ok keeps) ∧
        rows.filter (fun row => isKept (Condition.allHoldOf likeMatching row.get? conditions)) =
          kept := by
  rw [satisfying_eq_screen, screen_eq_ok_iff]

theorem satisfying_widens {narrow wide : Bool} (widens : narrow = true → wide = true)
    (satisfied : rows.satisfying narrow conditions = .ok kept) :
    rows.satisfying wide conditions = .ok kept := by
  rw [satisfying_eq_ok_iff] at satisfied ⊢
  obtain ⟨clean, rfl⟩ := satisfied
  have same : ∀ row ∈ rows, Condition.allHoldOf wide row.get? conditions =
      Condition.allHoldOf narrow row.get? conditions := by
    intro row member
    obtain ⟨keeps, verdict⟩ := clean row member
    rw [verdict, Condition.allHoldOf_widens widens verdict]
  refine ⟨fun row member => ?_, List.filter_congr fun row member => by rw [same row member]⟩
  rw [same row member]
  exact clean row member

theorem satisfying_of_like (like : ∃ condition ∈ conditions, condition.operator = .like)
    (satisfied : rows.satisfying false conditions = .ok kept) : kept = [] := by
  obtain ⟨clean, rfl⟩ := satisfying_eq_ok_iff.1 satisfied
  rw [List.filter_eq_nil_iff]
  intro row member
  obtain ⟨keeps, verdict⟩ := clean row member
  rw [verdict, Condition.allHoldOf_of_like like verdict]
  exact Bool.false_ne_true

end Table

namespace Engine

section
variable {source : Source} {narrow wide : Config} (within : narrow.Within wide) (stamp : Stamp)
include within

theorem note_eq : (Engine.mk source wide).note stamp = (Engine.mk source narrow).note stamp := by
  funext event fields
  simp only [note, within.logEvents]

theorem scope_eq : (Engine.mk source wide).scope stamp = (Engine.mk source narrow).scope stamp := by
  simp only [scope, within.logEvents]

theorem workingRows_eq :
    (Engine.mk source wide).workingRows stamp = (Engine.mk source narrow).workingRows stamp := by
  funext request
  simp only [workingRows, load, note_eq within]

theorem sortRows_eq :
    (Engine.mk source wide).sortRows stamp = (Engine.mk source narrow).sortRows stamp := by
  funext request rows
  simp only [sortRows, note_eq within, within.applyOrderBy]

theorem filterRows_keptBy (request : Request) (rows : Table) :
    ((Engine.mk source narrow).filterRows stamp request rows).KeptBy
      ((Engine.mk source wide).filterRows stamp request rows) := by
  unfold filterRows
  split
  · exact .refl _
  · rw [note_eq within]
    apply Run.KeptBy.bind _ fun kept => .refl _
    apply Run.KeptBy.ofExcept
    intro kept satisfied
    cases verdict : rows.satisfying narrow.likeMatching request.conditions with
    | error error => simp [verdict, mapError_error] at satisfied
    | ok others => rwa [verdict, ← Table.satisfying_widens within.likeMatching verdict] at satisfied

theorem answerRequest_keptBy (request : Request) :
    ((Engine.mk source narrow).answerRequest stamp request).KeptBy
      ((Engine.mk source wide).answerRequest stamp request) := by
  unfold answerRequest
  rw [workingRows_eq within, sortRows_eq within]
  apply Run.KeptBy.bind (.refl _)
  intro working
  exact (filterRows_keptBy within stamp request working.1).bind fun kept => .refl _

theorem checkAggregate_keptBy (query : String) (request : Request) :
    ((Engine.mk source narrow).checkAggregate stamp query request).KeptBy
      ((Engine.mk source wide).checkAggregate stamp query request) := by
  have lenient := within.rejectUngroupedAggregate
  unfold checkAggregate
  rw [note_eq within]
  split
  · apply Run.KeptBy.bind (.refl _)
    intro _
    dsimp only
    cases refuses : narrow.rejectUngroupedAggregate with
    | true => exact .of_error rfl
    | false =>
      rw [refuses] at lenient
      rw [Bool.eq_false_iff.2 fun other => Bool.false_ne_true (lenient other)]
      exact .refl _
  · exact .refl _

theorem admission_keptBy (call : Call) :
    ((Engine.mk source narrow).admission stamp call).KeptBy
      ((Engine.mk source wide).admission stamp call) := by
  cases call with
  | request request => exact .refl _
  | query text =>
    simp only [admission, note_eq within]
    apply Run.KeptBy.bind (.refl _)
    intro request
    apply Run.KeptBy.bind (.refl _)
    intro _
    exact (checkAggregate_keptBy within stamp text request).bind fun _ => .refl _

theorem answer_keptBy (call : Call) :
    ((Engine.mk source narrow).answer stamp call).KeptBy
      ((Engine.mk source wide).answer stamp call) := by
  rw [answer_eq_bind, answer_eq_bind]
  exact (admission_keptBy within stamp call).bind (answerRequest_keptBy within stamp)

theorem run_keptBy (call : Call) :
    ((Engine.mk source narrow).run stamp call).KeptBy ((Engine.mk source wide).run stamp call) := by
  intro rows succeeded
  unfold run
  rw [answer_keptBy within stamp call rows succeeded, scope_eq within]

end

/-- Settings that extend an engine change no answer that it gives without them. While patterns are
not matched, a request for one has no answer but the empty one: it is never passed over. -/
theorem run_conservative (source : Source) (config : Config) (stamp : Stamp) (call : Call) :
    let run (config : Config) := (Engine.mk source config).run stamp call
    (run { config with likeMatching := false }).KeptBy (run { config with likeMatching := true }) ∧
      (run { config with rejectUngroupedAggregate := true }).KeptBy
        (run { config with rejectUngroupedAggregate := false }) ∧
      ∀ request rows, config.likeMatching = false →
        (Engine.mk source config).admitted call = .ok request →
        (∃ condition ∈ request.conditions, condition.operator = .like) →
        (run config).result = .ok rows → rows = [] := by
  intro run
  refine ⟨run_keptBy ?_ stamp call, run_keptBy ?_ stamp call, ?_⟩
  · exact ⟨fun _ => rfl, id, rfl, rfl⟩
  · exact ⟨id, fun _ => rfl, rfl, rfl⟩
  · intro request rows off admitted like answers
    rw [result_run, answerTo, admitted] at answers
    obtain ⟨_, shown, satisfied, kept, -, satisfies, perm, rfl⟩ :=
      Request.exists_kept_of_answered answers
    rw [off] at satisfies
    rw [Table.satisfying_of_like like satisfies] at perm
    rw [perm.eq_nil]
    rfl

def tenants : Source := fun _ =>
  .ok [.ofEntries [("name", .string "Ann"), ("town", .string "Bonn")],
    .ofEntries [("name", .string "Bob")]]

/-- No tenant lives in Oslo, so the pattern is not reached. -/
def namesInOslo : Request where
  fields := ["name"]
  table := "tenants"
  conditions := [⟨"town", .equal, "Oslo"⟩, ⟨"name", .like, "A%"⟩]
  join := none
  groupBy := none
  orderBy := none
  ungroupedAggregate := false

theorem run_conservative_of_unreached_pattern :
    let run (config : Config) (call : Call) := (Engine.mk tenants config).run ⟨"", ""⟩ call
    let grouped := Call.query "SELECT COUNT(*) FROM tenants GROUP BY town"
    let blank : Row := .ofEntries [("COUNT(*)", .null)]
    (run {} (.request namesInOslo)).result = .ok [] ∧
      (∀ rows, (run {} (.request namesInOslo)).result = .ok rows → rows = []) ∧
      run { likeMatching := true } (.request namesInOslo) = run {} (.request namesInOslo) ∧
      (run { rejectUngroupedAggregate := true } grouped).result = .ok [blank, blank] ∧
      run {} grouped = run { rejectUngroupedAggregate := true } grouped := by
  intro run grouped blank
  have nobody : (run {} (.request namesInOslo)).result = .ok [] := rfl
  have counted : (run { rejectUngroupedAggregate := true } grouped).result = .ok [blank, blank] :=
    rfl
  obtain ⟨matched, -, unseen⟩ := run_conservative tenants {} ⟨"", ""⟩ (.request namesInOslo)
  obtain ⟨-, refused, -⟩ := run_conservative tenants {} ⟨"", ""⟩ grouped
  refine ⟨nobody, ?_, matched _ nobody, counted, refused _ counted⟩
  intro rows answers
  exact unseen namesInOslo rows rfl rfl ⟨_, List.mem_cons_of_mem _ List.mem_cons_self, rfl⟩ answers

end Engine

end TableQuery
