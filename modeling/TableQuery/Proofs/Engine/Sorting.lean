import TableQuery.Proofs.Engine.Accounting

/-! Sorting of answers.

Rows are sorted after they have been filtered and before they are projected. Switching that on or
off changes the order of an answer: not its rows, not whether there is one, and none of the counts.
-/

set_option autoImplicit false

namespace TableQuery

inductive SameRows : Except QueryError Table → Except QueryError Table → Prop where
  | fail (error : QueryError) : SameRows (.error error) (.error error)
  | succeed {first second : Table} (perm : first.Perm second) : SameRows (.ok first) (.ok second)

def Engine.sorting (engine : Engine) (applyOrderBy : Bool) : Engine :=
  { engine with config := { engine.config with applyOrderBy } }

@[simp] theorem Engine.likeMatching_sorting (engine : Engine) (applyOrderBy : Bool) :
    (engine.sorting applyOrderBy).config.likeMatching = engine.config.likeMatching := rfl

theorem Request.answered_sorting (request : Request) (engine : Engine) :
    SameRows (request.answered engine.source (engine.sorting true).config)
      (request.answered engine.source (engine.sorting false).config) := by
  unfold answered
  cases request.working engine.source with
  | error error => exact .fail _
  | ok working =>
    obtain ⟨rows, shown⟩ := working
    -- Both keep the same rows, and each arranges them in its own way.
    simp only [Engine.likeMatching_sorting]
    cases rows.satisfying engine.config.likeMatching request.conditions with
    | error error => exact .fail _
    | ok kept =>
      have sorted := request.arranged_perm (engine.sorting true).config kept
      have unsorted := request.arranged_perm (engine.sorting false).config kept
      exact .succeed ((sorted.trans unsorted.symm).map _)

namespace Engine

variable (engine : Engine)

theorem admitted_sorting (applyOrderBy : Bool) (call : Call) :
    (engine.sorting applyOrderBy).admitted call = engine.admitted call :=
  admitted_congr rfl call

theorem answerTo_sorting (call : Call) :
    SameRows ((engine.sorting true).answerTo call) ((engine.sorting false).answerTo call) := by
  unfold answerTo
  rw [admitted_sorting, admitted_sorting]
  cases engine.admitted call with
  | error error => exact .fail _
  | ok request => exact request.answered_sorting engine

theorem counted_sorting (call : Call) :
    (engine.sorting true).counted call = (engine.sorting false).counted call := by
  have counts (applyOrderBy : Bool) (count : Request → Nat) :
      (engine.sorting applyOrderBy).countFor call count = engine.countFor call count := by
    unfold countFor
    rw [admitted_sorting]
  have same := engine.answerTo_sorting call
  unfold counted loadedRows
  simp only [counts, likeMatching_sorting]
  generalize (engine.sorting true).answerTo call = sorted at same
  generalize (engine.sorting false).answerTo call = unsorted at same
  cases same with
  | fail error => rfl
  | succeed perm =>
    dsimp only
    rw [perm.length_eq]
    rfl

/-- Sorting changes the order of an answer and nothing else. -/
theorem run_sorting (stamp other : Stamp) (call : Call) :
    SameRows ((engine.sorting true).run stamp call).result
        ((engine.sorting false).run other call).result ∧
      ((engine.sorting true).run stamp call).metrics =
        ((engine.sorting false).run other call).metrics := by
  rw [result_run, result_run, metrics_run, metrics_run]
  exact ⟨engine.answerTo_sorting call, engine.counted_sorting call⟩

end Engine

end TableQuery
