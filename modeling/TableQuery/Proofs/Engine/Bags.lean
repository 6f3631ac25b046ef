import Mathlib.Data.List.Perm.Basic
import TableQuery.Proofs.Cells
import TableQuery.Proofs.Engine.Accounting
import TableQuery.Proofs.Projection

/-! Tables as bags of rows.

Sources that hold the same rows in different orders give the same answers up to order, and the
same counts. Which row errs first may differ, and with it the error, but not whether one does.
-/

set_option autoImplicit false

namespace TableQuery

section
variable {ε α : Type}

inductive Alike (related : α → α → Prop) : Except ε α → Except ε α → Prop where
  | fail (first second : ε) : Alike related (.error first) (.error second)
  | succeed {first second : α} (here : related first second) :
      Alike related (.ok first) (.ok second)

theorem Alike.fails_or_succeeds {related : α → α → Prop} {one other : Except ε α}
    (alike : Alike related one other) :
    (∃ first second, one = .error first ∧ other = .error second) ∨
      ∃ first second, one = .ok first ∧ other = .ok second ∧ related first second := by
  cases alike with
  | fail first second => exact .inl ⟨first, second, rfl, rfl⟩
  | succeed here => exact .inr ⟨_, _, rfl, rfl, here⟩

theorem Alike.bind {β : Type} {related : α → α → Prop} {relates : β → β → Prop}
    {one other : Except ε α} {next another : α → Except ε β} (alike : Alike related one other)
    (later : ∀ first second, related first second → Alike relates (next first) (another second)) :
    Alike relates (one >>= next) (other >>= another) := by
  cases alike with
  | fail first second => exact .fail first second
  | succeed here => exact later _ _ here

theorem screen_perm {verdict : α → Except ε Bool} {first second : List α}
    (perm : first.Perm second) : Alike List.Perm (screen verdict first) (screen verdict second) := by
  unfold screen
  cases found : first.findSome? fun item => fault? (verdict item) with
  | none =>
    -- No item errs in one order, so none does in the other.
    have clean : second.findSome? (fun item => fault? (verdict item)) = none :=
      List.findSome?_eq_none_iff.2 fun item member =>
        List.findSome?_eq_none_iff.1 found item (perm.mem_iff.2 member)
    rw [clean]
    exact .succeed (perm.filter _)
  | some error =>
    cases other : second.findSome? fun item => fault? (verdict item) with
    | some another => exact .fail error another
    | none =>
      obtain ⟨item, member, faulty⟩ := List.exists_of_findSome?_eq_some found
      rw [List.findSome?_eq_none_iff.1 other item (perm.mem_iff.1 member)] at faulty
      contradiction

end

namespace Table

variable {first second : Table}

theorem satisfying_perm (perm : first.Perm second) (likeMatching : Bool)
    (conditions : List Condition) : Alike List.Perm (first.satisfying likeMatching conditions)
      (second.satisfying likeMatching conditions) := by
  rw [satisfying_eq_screen, satisfying_eq_screen]
  exact screen_perm perm

end Table

theorem orAlone_perm {first second : List RowPair} (perm : first.Perm second) (alone : RowPair) :
    (orAlone alone first).Perm (orAlone alone second) := by
  unfold orAlone
  rw [perm.isEmpty_eq]
  split
  · exact .refl _
  · exact perm

/-- The pairs of a join do not depend on the order of the rows in either table. -/
theorem JoinKind.pairs_perm {main others joined more : Table} (mains : main.Perm others)
    (joins : joined.Perm more) (kind : JoinKind) (keys : JoinKeys) :
    (kind.pairs keys main joined).Perm (kind.pairs keys others more) := by
  have withMain (row : Row) :
      ((joined.filter fun other => keys.hold row other).map (RowPair.both row)).Perm
        ((more.filter fun other => keys.hold row other).map (RowPair.both row)) :=
    (joins.filter _).map _
  have withJoined (row : Row) :
      ((main.filter fun other => keys.hold other row).map fun other => RowPair.both other row).Perm
        ((others.filter fun other => keys.hold other row).map fun other =>
          RowPair.both other row) :=
    (mains.filter _).map _
  cases kind with
  | inner => exact mains.flatMap fun row _ => withMain row
  | left => exact mains.flatMap fun row _ => orAlone_perm (withMain row) _
  | right => exact joins.flatMap fun row _ => orAlone_perm (withJoined row) _

/-- Both sources fail to load a table, or load the same rows in some order. -/
def SameTables (first second : Source) : Prop :=
  ∀ table, Alike List.Perm (first table) (second table)

namespace Request

variable {first second : Source} {request : Request}

/-- A join is asked for named fields only, so what it shows of a record is the same for all rows
that its tables may have. -/
def NamesFields (request : Request) : Prop :=
  request.join.isSome → wildcard ∉ request.fields

theorem working_alike (same : SameTables first second) (named : request.NamesFields) :
    Alike (fun one other => one.1.Perm other.1 ∧ one.2 = other.2)
      (request.working first) (request.working second) := by
  unfold working
  apply (same request.table).bind
  intro main others mains
  unfold NamesFields at named
  cases joins : request.join with
  | none => exact .succeed ⟨mains, rfl⟩
  | some join =>
    simp only [joins, Option.isSome_some, forall_const] at named
    apply (same join.table).bind
    intro joined more joineds
    simp only [expandWildcard_of_notMem named]
    exact .succeed ⟨(JoinKind.pairs_perm mains joineds _ _).map _, rfl⟩

theorem loadedRows_eq (same : SameTables first second) :
    request.loadedRows first = request.loadedRows second := by
  unfold loadedRows
  rcases (same request.table).fails_or_succeeds with ⟨_, _, fails, failing⟩ |
    ⟨main, others, loads, loading, mains⟩
  · rw [fails, failing]
  · rw [loads, loading]
    cases request.join with
    | none => exact mains.length_eq
    | some join =>
      dsimp only
      rw [mains.length_eq]
      rcases (same join.table).fails_or_succeeds with ⟨_, _, fails, failing⟩ |
        ⟨joined, more, loads, loading, joineds⟩
      · rw [fails, failing]
      · rw [loads, loading]
        exact congrArg (others.length + ·) joineds.length_eq

theorem joinedRows_eq (same : SameTables first second) :
    request.joinedRows first = request.joinedRows second := by
  unfold joinedRows
  cases request.join with
  | none => rfl
  | some join =>
    dsimp only
    rcases (same request.table).fails_or_succeeds with ⟨_, _, fails, failing⟩ |
      ⟨main, others, loads, loading, mains⟩
    · rw [fails, failing]
    · rw [loads, loading]
      rcases (same join.table).fails_or_succeeds with ⟨_, _, fails, failing⟩ |
        ⟨joined, more, loads, loading, joineds⟩
      · rw [fails, failing]
      · rw [loads, loading]
        exact (JoinKind.pairs_perm mains joineds _ _).length_eq

theorem droppedRows_eq (same : SameTables first second) (named : request.NamesFields)
    (likeMatching : Bool) :
    request.droppedRows first likeMatching = request.droppedRows second likeMatching := by
  unfold droppedRows
  rcases (working_alike same named).fails_or_succeeds with ⟨_, _, fails, failing⟩ |
    ⟨⟨rows, shown⟩, ⟨others, fields⟩, ready, readied, perm, -⟩
  · rw [fails, failing]
  · rw [ready, readied]
    dsimp only at perm ⊢
    rcases (Table.satisfying_perm perm likeMatching request.conditions).fails_or_succeeds with
      ⟨_, _, fails, failing⟩ | ⟨kept, keeps, holds, holding, here⟩
    · rw [fails, failing]
    · rw [holds, holding]
      dsimp only
      rw [perm.length_eq, here.length_eq]

theorem answered_alike (same : SameTables first second) (named : request.NamesFields)
    (config : Config) :
    Alike List.Perm (request.answered first config) (request.answered second config) := by
  unfold answered
  rcases (working_alike same named).fails_or_succeeds with ⟨_, _, fails, failing⟩ |
    ⟨⟨rows, shown⟩, ⟨others, fields⟩, ready, readied, perm, equal⟩
  · rw [fails, failing]
    exact .fail _ _
  · rw [ready, readied]
    dsimp only at perm equal ⊢
    subst equal
    rcases (Table.satisfying_perm perm config.likeMatching request.conditions).fails_or_succeeds
      with ⟨_, _, fails, failing⟩ | ⟨kept, keeps, holds, holding, here⟩
    · rw [fails, failing]
      exact .fail _ _
    · rw [holds, holding]
      -- Ties are sorted as they stand, which is another order of the same rows.
      have arranged : (request.arranged config kept).Perm (request.arranged config keeps) :=
        (arranged_perm config kept).trans (here.trans (arranged_perm config keeps).symm)
      exact .succeed (arranged.map _)

end Request

namespace Engine

variable {first second : Source} {config : Config} {call : Call}

theorem admitted_eq (first second : Source) (config : Config) (call : Call) :
    (Engine.mk first config).admitted call = (Engine.mk second config).admitted call :=
  admitted_congr rfl call

theorem answerTo_alike (same : SameTables first second)
    (named : ∀ request, (Engine.mk first config).admitted call = .ok request →
      request.NamesFields) :
    Alike List.Perm ((Engine.mk first config).answerTo call)
      ((Engine.mk second config).answerTo call) := by
  unfold answerTo
  rw [admitted_eq second first]
  cases admitted : (Engine.mk first config).admitted call with
  | error error => exact .fail _ _
  | ok request => exact Request.answered_alike same (named request admitted) config

theorem counted_eq (same : SameTables first second)
    (named : ∀ request, (Engine.mk first config).admitted call = .ok request →
      request.NamesFields) :
    (Engine.mk first config).counted call = (Engine.mk second config).counted call := by
  have counts {count other : Request → Nat} (equal : ∀ request : Request, request.NamesFields →
      count request = other request) :
      (Engine.mk first config).countFor call count =
        (Engine.mk second config).countFor call other := by
    unfold countFor
    rw [admitted_eq second first]
    cases admitted : (Engine.mk first config).admitted call with
    | error error => rfl
    | ok request => exact equal request (named request admitted)
  unfold counted loadedRows
  rw [counts fun request _ => request.loadedRows_eq same,
    counts fun request _ => request.joinedRows_eq same,
    counts fun request names => request.droppedRows_eq same names config.likeMatching]
  rcases (answerTo_alike same named).fails_or_succeeds with ⟨_, _, fails, failing⟩ |
    ⟨rows, others, answers, answering, perm⟩
  · rw [fails, failing]
    rfl
  · rw [answers, answering]
    dsimp only
    rw [perm.length_eq]
    rfl

/-- Answers are bags of rows, and so are the tables that they come from: in whatever order the
tables give their rows, the same rows are shown and the same numbers counted. -/
theorem run_perm (same : SameTables first second)
    (named : ∀ request, (Engine.mk first config).admitted call = .ok request →
      request.NamesFields) (stamp other : Stamp) :
    Alike List.Perm ((Engine.mk first config).run stamp call).result
        ((Engine.mk second config).run other call).result ∧
      ((Engine.mk first config).run stamp call).metrics =
        ((Engine.mk second config).run other call).metrics := by
  rw [result_run, result_run, metrics_run, metrics_run]
  exact ⟨answerTo_alike same named, counted_eq same named⟩

def players : Table :=
  [.ofEntries [("name", .string "Ann"), ("team", .int 1)],
   .ofEntries [("name", .string "Bob"), ("team", .int 3)],
   .ofEntries [("name", .string "Cid"), ("team", .int 1)]]

def teams : Table :=
  [.ofEntries [("id", .int 1), ("town", .string "Bonn")],
   .ofEntries [("id", .int 2), ("town", .string "Kyiv")]]

def league (reversed : Bool) : Source := fun table =>
  let rows := if table = "players" then players else teams
  .ok (if reversed then rows.reverse else rows)

def townsOfPlayers : Request where
  fields := ["town"]
  table := "players"
  conditions := [⟨"name", .notEqual, "Ann"⟩]
  join := some ⟨.left, "teams", ⟨"players.team", "teams.id"⟩⟩
  groupBy := none
  orderBy := none
  ungroupedAggregate := false

theorem run_perm_of_reversed_league :
    let call := Call.request townsOfPlayers
    let straight := (Engine.mk (league false) {}).run ⟨"", ""⟩ call
    let reversed := (Engine.mk (league true) {}).run ⟨"", ""⟩ call
    let shown (town : Value) : Row := .ofEntries [("town", town)]
    straight.result = .ok [shown .null, shown (.string "Bonn")] ∧
      reversed.result = .ok [shown (.string "Bonn"), shown .null] ∧
      Alike List.Perm straight.result reversed.result ∧ straight.metrics = reversed.metrics := by
  have same : SameTables (league false) (league true) := by
    intro table
    exact .succeed (List.reverse_perm _).symm
  have named (request : Request)
      (admitted : (Engine.mk (league false) {}).admitted (.request townsOfPlayers) =
        .ok request) : request.NamesFields := by
    cases admitted
    intro _
    decide
  exact ⟨rfl, rfl, run_perm same named _ _⟩

end Engine

end TableQuery
