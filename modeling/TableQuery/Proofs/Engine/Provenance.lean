import TableQuery.Proofs.Contents
import TableQuery.Proofs.Engine.Shape
import TableQuery.Proofs.Join.Wildcard

/-! Where the values of answers come from.

An engine invents no value. What it shows in an answer is a value of a table that it loaded, or null
where a row holds nothing. So a property that null and the values of all tables have is one that all
values of an answer have.
-/

set_option autoImplicit false

namespace TableQuery

variable {holds : Value → Prop} {main joined : Table} {pair : RowPair}

theorem RowPair.From.mem_side (origin : pair.From main joined) {mainTable : String}
    {name : QualifiedName} {row : Row} (read : pair.side mainTable name = some row) :
    row ∈ main ∨ row ∈ joined := by
  unfold side at read
  split at read
  · split at read
    · exact .inl (origin.mem_main read)
    · exact .inr (origin.mem_joined read)
  · split at read
    · exact .inl (origin.mem_main read)
    · exact .inr (origin.mem_joined read)

variable (missing : holds .null)
include missing

theorem JoinKind.all_records (mains : ∀ row ∈ main, row.All holds)
    (others : ∀ row ∈ joined, row.All holds) {kind : JoinKind} {keys : JoinKeys}
    {mainTable : String} {fields : List String} :
    ∀ row ∈ kind.records keys mainTable fields main joined, row.All holds := by
  unfold records
  rw [List.forall_mem_map]
  intro pair member
  apply Row.all_ofEntries
  rw [List.forall_mem_map]
  intro field _
  unfold RowPair.resolve
  dsimp only
  cases read : pair.side mainTable (.ofName field) with
  | none => exact missing
  | some row =>
    have each : row.All holds :=
      ((from_of_mem_pairs member).mem_side read).elim (mains row) (others row)
    exact each.shownAt missing _

variable {source : Source}
  (each : ∀ table rows, source table = .ok rows → ∀ row ∈ rows, row.All holds)
include each

theorem Request.all_working {request : Request} {working : Table} {shown : List String}
    (ready : request.working source = .ok (working, shown)) : ∀ row ∈ working, row.All holds := by
  unfold Request.working at ready
  obtain ⟨main, mainLoaded, ready⟩ := bind_eq_ok_iff.1 ready
  cases joins : request.join with
  | none =>
    rw [joins] at ready
    cases ready
    exact each _ _ mainLoaded
  | some join =>
    rw [joins] at ready
    obtain ⟨joined, joinedLoaded, ready⟩ := bind_eq_ok_iff.1 ready
    cases ready
    exact JoinKind.all_records missing (each _ _ mainLoaded) (each _ _ joinedLoaded)

theorem Request.all_answered {request : Request} {config : Config} {rows : Table}
    (answers : request.answered source config = .ok rows) : ∀ row ∈ rows, row.All holds := by
  obtain ⟨working, shown, satisfied, kept, ready, satisfies, perm, rfl⟩ :=
    exists_kept_of_answered answers
  rw [List.forall_mem_map]
  intro row member
  have inside := (Table.satisfying_sublist satisfies).subset (perm.mem_iff.1 member)
  exact (all_working missing each ready row inside).project missing shown

omit each in
theorem Engine.all_answerTo {engine : Engine}
    (each : ∀ table rows, engine.source table = .ok rows → ∀ row ∈ rows, row.All holds)
    {call : Call} {rows : Table} (answers : engine.answerTo call = .ok rows) :
    ∀ row ∈ rows, row.All holds := by
  unfold answerTo at answers
  split at answers
  · cases answers
  · exact Request.all_answered missing each answers

end TableQuery
