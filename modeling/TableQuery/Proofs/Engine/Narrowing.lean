import TableQuery.Proofs.Engine.Accounting
import TableQuery.Proofs.Engine.Origins

/-! More conditions.

Conditions that are put behind the others take rows away from an answer and do nothing else to it:
the rows that are left stand in the order in which they stood. They may make a query fail, but not
succeed.
-/

set_option autoImplicit false

namespace TableQuery

namespace Condition

variable {likeMatching : Bool} {cells : Cells} {conditions more : List Condition}

theorem exists_of_allHoldOf_append {keeps : Bool}
    (verdict : allHoldOf likeMatching cells (conditions ++ more) = .ok keeps) :
    ∃ kept, allHoldOf likeMatching cells conditions = .ok kept := by
  rw [allHoldOf_append] at verdict
  cases earlier : allHoldOf likeMatching cells conditions with
  | error error => simp [earlier] at verdict
  | ok kept => exact ⟨kept, rfl⟩

theorem isKept_of_allHoldOf_append
    (keeps : isKept (allHoldOf likeMatching cells (conditions ++ more)) = true) :
    isKept (allHoldOf likeMatching cells conditions) = true := by
  rw [allHoldOf_append] at keeps
  cases earlier : allHoldOf likeMatching cells conditions with
  | error error => rwa [earlier] at keeps
  | ok kept =>
    cases kept with
    | false => rwa [earlier] at keeps
    | true => rfl

end Condition

namespace Request

variable {source : Source} {config : Config} (request : Request) (more : List Condition)

def narrowed : Request :=
  request.under (request.conditions ++ more)

theorem agree_narrowed (shown : List String) (origin : RowPair) :
    AgreeOn request.referencedFields (request.workingRow shown origin).get?
      ((request.narrowed more).workingRow shown origin).get? := by
  intro field member
  refine (get?_workingRow_under (iff_of_true ?_ member) origin).symm
  unfold referencedFields at member ⊢
  simp only [under, List.map_append, List.mem_append] at member ⊢
  exact member.imp_left .inl

variable {request more}

theorem answered_of_narrowed {rows : Table}
    (answers : (request.narrowed more).answered source config = .ok rows) :
    ∃ all, request.answered source config = .ok all ∧ rows.Sublist all := by
  obtain ⟨origins, shown, ready⟩ := exists_origins_of_answered answers
  have readyWide : request.origins source = .ok (origins, shown) := ready
  obtain ⟨clean, rfl⟩ := (answered_eq_ok_iff ready fun _ _ _ => rfl).1 answers
  -- Both requests can pass their verdicts on the narrower one's rows, which hold more fields.
  have agree := request.agree_narrowed more shown
  have shows (origin : RowPair) : ((request.narrowed more).workingRow shown origin).project shown =
      (request.workingRow shown origin).project shown := project_workingRow_under readyWide origin
  refine ⟨_, (answered_eq_ok_iff readyWide agree).2 ⟨?_, rfl⟩, ?_⟩
  · intro origin member
    obtain ⟨keeps, narrow⟩ := clean origin member
    exact Condition.exists_of_allHoldOf_append narrow
  · simp only [shows]
    apply List.Sublist.map
    apply arrangedBy_sublist
    intro origin _ keeps
    exact Condition.isKept_of_allHoldOf_append keeps

end Request

namespace Engine

/-- One more condition only narrows an answer: a query that succeeds under it succeeds without it,
and shows the same rows among others. Rows may be dropped before the sort or after it. -/
theorem run_narrows (engine : Engine) (request : Request) (condition : Condition)
    (stamp other : Stamp) :
    (∀ rows, (engine.run stamp (.request (request.narrowed [condition]))).result = .ok rows →
        ∃ all, (engine.run other (.request request)).result = .ok all ∧ rows.Sublist all) ∧
      ∀ (rows : Table) (keep : Row → Bool),
        (engine.sortRows stamp request (rows.filter keep)).result =
          (engine.sortRows stamp request rows).result.map (·.filter keep) := by
  constructor
  · intro rows answers
    rw [result_run] at answers ⊢
    exact Request.answered_of_narrowed answers
  · intro rows keep
    rw [result_sortRows, result_sortRows, Request.arranged_eq, Request.arrangedBy_filter,
      Request.arranged_eq]
    rfl

def pets : Table :=
  [.ofEntries [("name", .string "Rex"), ("indoors", .bool true)],
   .ofEntries [("name", .string "Tom"), ("indoors", .bool false)],
   .ofEntries [("name", .string "Kit"), ("indoors", .bool true)]]

def homes : Table :=
  [.ofEntries [("pet", .string "Kit"), ("town", .string "Oslo")],
   .ofEntries [("pet", .string "Rex"), ("town", .string "Oslo")],
   .ofEntries [("pet", .string "Tom"), ("town", .string "Bonn")]]

def outdoorsFirst : List OrderKey :=
  [⟨"indoors", .ascending⟩]

def petNames : Request where
  fields := ["name"]
  table := "pets"
  conditions := []
  join := some ⟨.left, "homes", ⟨"pets.name", "homes.pet"⟩⟩
  groupBy := none
  orderBy := some outdoorsFirst
  ungroupedAggregate := false

def petEngine : Engine where
  source table := .ok (if table = "pets" then pets else homes)
  config := { applyOrderBy := true }

def petRecord (name : String) (indoors : Bool) : Row :=
  .ofEntries [("name", .string name), ("indoors", .bool indoors)]

def osloRecord (name : String) : Row :=
  .ofEntries [("name", .string name), ("town", .string "Oslo"), ("indoors", .bool true)]

/-- The town is read for the added condition alone. -/
theorem run_narrows_to_town :
    let inOslo := petNames.narrowed [⟨"town", .equal, "Oslo"⟩]
    let named (names : List String) : Table :=
      names.map fun name => .ofEntries [("name", .string name)]
    (petEngine.run ⟨"", ""⟩ (.request inOslo)).result = .ok (named ["Rex", "Kit"]) ∧
      (petEngine.run ⟨"", ""⟩ (.request petNames)).result = .ok (named ["Tom", "Rex", "Kit"]) ∧
      (named ["Rex", "Kit"]).Sublist (named ["Tom", "Rex", "Kit"]) := by
  intro inOslo named
  have narrow : (petEngine.run ⟨"", ""⟩ (.request inOslo)).result = .ok (named ["Rex", "Kit"]) := by
    have tied : OrderKey.compareAll outdoorsFirst (osloRecord "Rex") (osloRecord "Kit") = .eq := rfl
    have sorted : Table.sort [osloRecord "Rex", osloRecord "Kit"] outdoorsFirst =
        [osloRecord "Rex", osloRecord "Kit"] := List.mergeSort_of_pairwise (by simp [tied])
    show Except.ok ((Table.sort [osloRecord "Rex", osloRecord "Kit"] outdoorsFirst).map _) = _
    rw [sorted]
    rfl
  have wide : (petEngine.run ⟨"", ""⟩ (.request petNames)).result =
      .ok (named ["Tom", "Rex", "Kit"]) := by
    have after : OrderKey.compareAll outdoorsFirst (petRecord "Rex" true) (petRecord "Tom" false) =
        .gt := rfl
    have before : OrderKey.compareAll outdoorsFirst (petRecord "Tom" false) (petRecord "Kit" true) =
        .lt := rfl
    have tied : OrderKey.compareAll outdoorsFirst (petRecord "Rex" true) (petRecord "Kit" true) =
        .eq := rfl
    have sorted : Table.sort [petRecord "Rex" true, petRecord "Tom" false, petRecord "Kit" true]
          outdoorsFirst =
        [petRecord "Tom" false, petRecord "Rex" true, petRecord "Kit" true] := by
      simp [Table.sort, List.mergeSort, List.MergeSort.Internal.splitInTwo, after, before, tied]
    show Except.ok ((Table.sort [petRecord "Rex" true, petRecord "Tom" false, petRecord "Kit" true]
      outdoorsFirst).map _) = _
    rw [sorted]
    rfl
  obtain ⟨narrows, -⟩ := petEngine.run_narrows petNames ⟨"town", .equal, "Oslo"⟩ ⟨"", ""⟩ ⟨"", ""⟩
  obtain ⟨all, answers, among⟩ := narrows _ narrow
  rw [wide] at answers
  cases answers
  exact ⟨narrow, wide, among⟩

end Engine

end TableQuery
