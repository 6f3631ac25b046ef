import TableQuery.Proofs.Engine.Accounting
import TableQuery.Proofs.Projection

/-! The shape of answers.

An answer shows the rows that satisfy the conditions, and of each of them the requested fields only.
Fields that were read for a condition or an order key stay hidden.
-/

set_option autoImplicit false

namespace TableQuery

/-- The keys that the rows of a table hold, under the name of the table, each once, in order of
first appearance. -/
def Source.columns (source : Source) (table : String) : List String :=
  match source table with
  | .error _ => []
  | .ok rows => (rows.flatMap Row.keys).eraseDups.map fun key => table ++ "." ++ key

namespace Request

variable (source : Source) (request : Request)

/-- The fields that the wildcard stands for on a working row: the keys of the row, or in a join
the columns of both tables. -/
def allFields (working : Row) : List String :=
  match request.join with
  | none => working.keys
  | some join => Source.columns source request.table ++ Source.columns source join.table

def wantedFields (working : Row) : List String :=
  replaceWildcard (request.allFields source working) request.fields

/-- A row shows of a working row what is wanted of it and nothing else. -/
structure Shows (working row : Row) : Prop where
  keys : row.keys = (request.wantedFields source working).eraseDups
  values : ∀ key ∈ row.keys, row.get? key = some ((working.get? key).getD .null)
  asked : ∀ key ∈ row.keys, key ∈ request.fields ∨
    wildcard ∈ request.fields ∧ key ∈ request.allFields source working

variable {source request}

theorem exists_kept_of_answered {config : Config} {rows : Table}
    (answers : request.answered source config = .ok rows) :
    ∃ working shown satisfied kept, request.working source = .ok (working, shown) ∧
      working.satisfying config.likeMatching request.conditions = .ok satisfied ∧
      List.Perm kept satisfied ∧ rows = kept.map (·.project shown) := by
  unfold answered at answers
  cases ready : request.working source with
  | error error => simp [ready] at answers
  | ok pair =>
    obtain ⟨working, shown⟩ := pair
    simp only [ready] at answers
    cases satisfies : working.satisfying config.likeMatching request.conditions with
    | error error => simp [satisfies] at answers
    | ok satisfied =>
      simp only [satisfies, Except.ok.injEq] at answers
      exact ⟨working, shown, satisfied, request.arranged config satisfied, rfl, satisfies,
        arranged_perm config satisfied, answers.symm⟩

theorem columns_of_ok {table : String} {rows : Table} (loads : source table = .ok rows) :
    Source.columns source table = rows.qualifiedKeys table := by
  unfold Source.columns
  rw [loads, Table.qualifiedKeys_eq]

theorem replaceWildcard_shown {working : Table} {shown : List String}
    (ready : request.working source = .ok (working, shown)) (row : Row) :
    replaceWildcard row.keys shown = request.wantedFields source row := by
  unfold Request.working at ready
  unfold wantedFields allFields
  obtain ⟨main, mainLoaded, ready⟩ := bind_eq_ok_iff.1 ready
  cases joins : request.join with
  | none =>
    rw [joins] at ready
    cases ready
    rfl
  | some join =>
    rw [joins] at ready
    obtain ⟨joined, joinedLoaded, ready⟩ := bind_eq_ok_iff.1 ready
    cases ready
    rw [replaceWildcard_of_notMem (wildcard_notMem_expandWildcard request.fields)]
    dsimp only
    rw [columns_of_ok mainLoaded, columns_of_ok joinedLoaded]
    rfl

theorem shows_project {working : Table} {shown : List String}
    (ready : request.working source = .ok (working, shown)) (row : Row) :
    request.Shows source row (row.project shown) := by
  have keys := row.keys_project shown
  rw [replaceWildcard_shown ready] at keys
  refine ⟨keys, fun key member => Row.get?_project member, ?_⟩
  intro key member
  rw [keys, List.mem_eraseDups] at member
  rcases mem_replaceWildcard.1 member with ⟨named, -⟩ | starred
  · exact .inl named
  · exact .inr starred

/-- The fields that a join shows are those of its tables, not of single records. -/
theorem wantedFields_of_join (joins : request.join.isSome = true) (first second : Row) :
    request.wantedFields source first = request.wantedFields source second := by
  unfold wantedFields allFields
  cases join : request.join with
  | none => simp [join] at joins
  | some join => rfl

end Request

namespace Engine

/-- Each row of an answer shows one of the rows that satisfy the conditions: the requested fields in
their order and no others, and under each what that row holds. -/
theorem run_shows {engine : Engine} {stamp : Stamp} {call : Call} {rows : Table}
    (answers : (engine.run stamp call).result = .ok rows) :
    ∃ request working shown satisfied kept, engine.admitted call = .ok request ∧
      (engine.workingRows stamp request).result = .ok (working, shown) ∧
      working.satisfying engine.config.likeMatching request.conditions = .ok satisfied ∧
      List.Perm kept satisfied ∧ List.Forall₂ (request.Shows engine.source) kept rows ∧
      (request.join.isSome = true → ∀ first ∈ rows, ∀ second ∈ rows, first.keys = second.keys) := by
  rw [result_run] at answers
  unfold answerTo at answers
  cases admitted : engine.admitted call with
  | error error => simp [admitted] at answers
  | ok request =>
    simp only [admitted] at answers
    obtain ⟨working, shown, satisfied, kept, ready, satisfies, perm, rfl⟩ :=
      Request.exists_kept_of_answered answers
    refine ⟨request, working, shown, satisfied, kept, rfl, ?_, satisfies, perm, ?_, ?_⟩
    · rw [result_workingRows, ready]
      rfl
    · rw [List.forall₂_map_right_iff, List.forall₂_same]
      exact fun row _ => Request.shows_project ready row
    · intro joins first one second other
      obtain ⟨row, -, rfl⟩ := List.mem_map.1 one
      obtain ⟨another, -, rfl⟩ := List.mem_map.1 other
      rw [(Request.shows_project ready row).keys, (Request.shows_project ready another).keys,
        Request.wantedFields_of_join joins row another]

def boxes : Table :=
  [.ofEntries [("id", .int 1), ("size", .string "S")],
   .ofEntries [("id", .int 2), ("mark", .string "top")]]

def lids : Table :=
  [.ofEntries [("id", .int 2), ("color", .string "red")]]

/-- Asks for one field twice, and reads one that it does not show. -/
def boxSizes : Request where
  fields := ["size", "*", "size"]
  table := "boxes"
  conditions := [⟨"lids.weight", .notEqual, "5"⟩]
  join := some ⟨.left, "lids", ⟨"boxes.id", "lids.id"⟩⟩
  groupBy := none
  orderBy := none
  ungroupedAggregate := false

def boxEngine : Engine where
  source table := .ok (if table = "boxes" then boxes else lids)
  config := {}

theorem run_shows_of_repeated_field :
    let answer : Table :=
      [.ofEntries [("size", .string "S"), ("boxes.id", .int 1), ("boxes.size", .string "S"),
        ("boxes.mark", .null), ("lids.id", .null), ("lids.color", .null)],
       .ofEntries [("size", .null), ("boxes.id", .int 2), ("boxes.size", .null),
        ("boxes.mark", .string "top"), ("lids.id", .int 2), ("lids.color", .string "red")]]
    (boxEngine.run ⟨"", ""⟩ (.request boxSizes)).result = .ok answer ∧
      (∃ kept, List.Forall₂ (boxSizes.Shows boxEngine.source) kept answer) ∧
      ∀ first ∈ answer, ∀ second ∈ answer, first.keys = second.keys := by
  intro answer
  have answers : (boxEngine.run ⟨"", ""⟩ (.request boxSizes)).result = .ok answer := rfl
  obtain ⟨request, _, _, _, kept, admitted, -, -, -, shows, alike⟩ := run_shows answers
  cases admitted
  exact ⟨answers, ⟨kept, shows⟩, alike rfl⟩

end Engine

end TableQuery
