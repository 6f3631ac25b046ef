import TableQuery.Proofs.Engine.Stages
import TableQuery.Proofs.Join.Fields
import TableQuery.Proofs.Traversal

/-! What working rows are made of.

The conditions of a request decide which fields the records of a join hold, but not what the records
are made of. Requests that differ in their conditions alone work on rows of the same origins, and
show the same of them.
-/

set_option autoImplicit false

namespace TableQuery

namespace Request

def under (request : Request) (conditions : List Condition) : Request :=
  { request with conditions }

/-- What the working rows are made of, and the fields to show of them. Without a join every row
stands alone. -/
def origins (source : Source) (request : Request) :
    Except SourceError (List RowPair × List String) := do
  let main ← source request.table
  match request.join with
  | none => return (main.map .mainOnly, request.fields)
  | some join =>
    let joined ← source join.table
    return (join.kind.pairs join.keys main joined,
      expandWildcard request.fields request.table main join.table joined)

def workingRow (request : Request) (shown : List String) (origin : RowPair) : Row :=
  match request.join with
  | none => origin.main?.getD ∅
  | some _ => origin.record request.table (Engine.recordFields request shown)

def verdictOn (request : Request) (config : Config) (cells : Cells) : Except EvaluationError Bool :=
  Condition.allHoldOf config.likeMatching cells request.conditions

def arrangedBy {α : Type} (request : Request) (config : Config) (cells : α → Cells)
    (items : List α) : List α :=
  match request.orderBy with
  | none => items
  | some keys =>
    if config.applyOrderBy then
      items.mergeSort fun first second => compareRecords keys (cells first) (cells second) != .gt
    else items

section Arrangement
variable {α : Type} {request : Request} {config : Config} {cells : α → Cells}

theorem arranged_map {row : α → Row} (agree : ∀ item,
      AgreeOn ((request.orderBy.getD []).map (·.field)) (row item).get? (cells item))
    (items : List α) : request.arranged config (items.map row) =
      (request.arrangedBy config cells items).map row := by
  unfold arranged arrangedBy
  cases keys : request.orderBy with
  | none => rfl
  | some keys =>
    rw [keys] at agree
    cases config.applyOrderBy with
    | false => rfl
    | true => exact Table.sort_map agree items

theorem arranged_eq (rows : Table) :
    request.arranged config rows = request.arrangedBy config Row.get? rows := by
  have same : ∀ row : Row, AgreeOn ((request.orderBy.getD []).map (·.field)) (id row).get? row.get? :=
    fun _ _ _ => rfl
  simpa only [List.map_id] using arranged_map same rows

theorem arrangedBy_filter (items : List α) (keep : α → Bool) :
    request.arrangedBy config cells (items.filter keep) =
      (request.arrangedBy config cells items).filter keep := by
  unfold arrangedBy
  cases request.orderBy with
  | none => rfl
  | some keys =>
    have : Std.TransCmp fun first second => compareRecords keys (cells first) (cells second) :=
      transCmp_view (compareRecords keys) cells
    cases config.applyOrderBy with
    | false => rfl
    | true => exact mergeSort_filter items keep

/-- Fewer items stand in the order in which they stand among more of them. -/
theorem arrangedBy_sublist {items : List α} {narrow wide : α → Bool}
    (within : ∀ item ∈ items, narrow item = true → wide item = true) :
    (request.arrangedBy config cells (items.filter narrow)).Sublist
      (request.arrangedBy config cells (items.filter wide)) := by
  have twice : items.filter narrow = (items.filter wide).filter narrow := by
    rw [List.filter_filter]
    apply List.filter_congr
    intro item member
    cases kept : narrow item with
    | false => rfl
    | true => rw [within item member kept]; rfl
  rw [twice, arrangedBy_filter]
  exact List.filter_sublist

end Arrangement

section Working
variable {source : Source} {request : Request} {config : Config} {conditions : List Condition}
  {origins : List RowPair} {shown : List String}

theorem workingRow_of_join {join : Join} (joins : request.join = some join) :
    request.workingRow shown =
      RowPair.record request.table (Engine.recordFields request shown) := by
  funext origin
  unfold workingRow
  rw [joins]

theorem map_workingRow_of_alone (alone : request.join = none) (rows : Table) :
    (rows.map RowPair.mainOnly).map (request.workingRow shown) = rows := by
  unfold workingRow
  rw [alone, List.map_map]
  exact List.map_id rows

/-- Each working row is made of its origin alone. -/
theorem working_eq_map : request.working source =
    (request.origins source).map fun made =>
      (made.1.map (request.workingRow made.2), made.2) := by
  unfold working Request.origins
  cases source request.table with
  | error error => rfl
  | ok main =>
    cases joins : request.join with
    | none =>
      show Except.ok (main, request.fields) = Except.ok (_, request.fields)
      rw [map_workingRow_of_alone joins]
    | some join =>
      dsimp only
      cases source join.table with
      | error error => rfl
      | ok joined =>
        show Except.ok _ = Except.ok (List.map (request.workingRow _) _, _)
        rw [workingRow_of_join joins]
        rfl

theorem origins_of_join {join : Join} {main joined : Table} (joins : request.join = some join)
    (mainLoaded : source request.table = .ok main)
    (joinedLoaded : source join.table = .ok joined) :
    request.origins source = .ok (join.kind.pairs join.keys main joined,
      expandWildcard request.fields request.table main join.table joined) := by
  unfold Request.origins
  rw [mainLoaded, joins]
  show (source join.table >>= _) = _
  rw [joinedLoaded]
  rfl

theorem working_of_join {join : Join} {main joined : Table} (joins : request.join = some join)
    (mainLoaded : source request.table = .ok main)
    (joinedLoaded : source join.table = .ok joined) :
    request.working source =
      let shown := expandWildcard request.fields request.table main join.table joined
      .ok ((join.kind.pairs join.keys main joined).map
        (RowPair.record request.table (Engine.recordFields request shown)), shown) := by
  rw [working_eq_map, origins_of_join joins mainLoaded joinedLoaded, Except.map,
    workingRow_of_join joins]

theorem exists_origins_of_answered {rows : Table}
    (answers : request.answered source config = .ok rows) :
    ∃ origins shown, request.origins source = .ok (origins, shown) := by
  unfold answered at answers
  rw [working_eq_map] at answers
  cases ready : request.origins source with
  | error error => simp [ready, Except.map] at answers
  | ok made => exact ⟨made.1, made.2, rfl⟩

theorem wildcard_notMem_of_origins (ready : request.origins source = .ok (origins, shown))
    (joins : request.join.isSome = true) : wildcard ∉ shown := by
  unfold Request.origins at ready
  obtain ⟨main, -, ready⟩ := bind_eq_ok_iff.1 ready
  cases join : request.join with
  | none => simp [join] at joins
  | some join =>
    simp only [join] at ready
    obtain ⟨joined, -, ready⟩ := bind_eq_ok_iff.1 ready
    cases ready
    exact wildcard_notMem_expandWildcard request.fields

/-- Requests hold the same in a field that both of them read, or neither. -/
theorem get?_workingRow_under {field : String}
    (read : field ∈ (request.under conditions).referencedFields ↔ field ∈ request.referencedFields)
    (origin : RowPair) : ((request.under conditions).workingRow shown origin).get? field =
      (request.workingRow shown origin).get? field := by
  cases joins : request.join with
  | none =>
    unfold workingRow under
    simp only [joins]
  | some join =>
    have same : field ∈ Engine.recordFields (request.under conditions) shown ↔
        field ∈ Engine.recordFields request shown := by
      unfold Engine.recordFields
      rw [mem_addMissing, mem_addMissing, mem_auxiliaryFields, mem_auxiliaryFields, read]
      exact Iff.rfl
    have joining : (request.under conditions).join = some join := joins
    rw [workingRow_of_join joins, workingRow_of_join joining]
    unfold RowPair.record
    rw [Row.get?_ofEntries_map (origin.resolve _), Row.get?_ofEntries_map (origin.resolve _)]
    exact if_congr same rfl rfl

theorem project_workingRow_under (ready : request.origins source = .ok (origins, shown))
    (origin : RowPair) : ((request.under conditions).workingRow shown origin).project shown =
      (request.workingRow shown origin).project shown := by
  cases joins : request.join with
  | none =>
    unfold workingRow under
    simp only [joins]
  | some join =>
    have named := wildcard_notMem_of_origins ready (by rw [joins]; rfl)
    have joining : (request.under conditions).join = some join := joins
    rw [workingRow_of_join joins, workingRow_of_join joining,
      RowPair.project_recordFields named, RowPair.project_recordFields named]
    rfl

theorem answered_eq (ready : request.origins source = .ok (origins, shown))
    {cells : RowPair → Cells} (agree : ∀ origin, AgreeOn request.referencedFields
      (request.workingRow shown origin).get? (cells origin)) :
    request.answered source config =
      match screen (fun origin => request.verdictOn config (cells origin)) origins with
      | .error error => .error (.evaluation error)
      | .ok kept => .ok ((request.arrangedBy config cells kept).map fun origin =>
          (request.workingRow shown origin).project shown) := by
  have read (origin : RowPair) : AgreeOn (request.conditions.map (·.field))
      (request.workingRow shown origin).get? (cells origin) :=
    fun field member => agree origin field (List.mem_append_left _ member)
  have sorted (origin : RowPair) : AgreeOn ((request.orderBy.getD []).map (·.field))
      (request.workingRow shown origin).get? (cells origin) :=
    fun field member => agree origin field (List.mem_append_right _ member)
  unfold answered verdictOn
  rw [working_eq_map, ready]
  simp only [Except.map, Table.satisfying_map read]
  cases screen (fun origin => Condition.allHoldOf config.likeMatching (cells origin)
      request.conditions) origins with
  | error error => rfl
  | ok kept =>
    dsimp only
    rw [arranged_map sorted, List.map_map]
    rfl

theorem answered_eq_ok_iff (ready : request.origins source = .ok (origins, shown))
    {cells : RowPair → Cells} (agree : ∀ origin, AgreeOn request.referencedFields
      (request.workingRow shown origin).get? (cells origin)) {rows : Table} :
    request.answered source config = .ok rows ↔
      (∀ origin ∈ origins, ∃ keeps, request.verdictOn config (cells origin) = .ok keeps) ∧
        (request.arrangedBy config cells
          (origins.filter fun origin => isKept (request.verdictOn config (cells origin)))).map
            (fun origin => (request.workingRow shown origin).project shown) = rows := by
  rw [answered_eq ready agree]
  cases screened : screen (fun origin => request.verdictOn config (cells origin)) origins with
  | error error =>
    constructor
    · intro answers
      cases answers
    · rintro ⟨clean, -⟩
      have succeeded := screen_eq_ok_iff.2 ⟨clean, rfl⟩
      rw [screened] at succeeded
      cases succeeded
  | ok kept =>
    obtain ⟨clean, rfl⟩ := screen_eq_ok_iff.1 screened
    dsimp only
    rw [Except.ok.injEq]
    exact (and_iff_right clean).symm

end Working

end Request

end TableQuery
