import TableQuery.Proofs.Join.FullRecords
import TableQuery.Proofs.Names

/-! The fields that a request reads without showing them.

Conditions and order keys may name fields that are not shown. A request has exactly one list of
them in which each stands once, in the order in which they are named first. The records of a join
hold this list behind the fields to show, in which a wildcard has been replaced: so no field that is
read gets lost between the two, the wildcard itself apart.
-/

set_option autoImplicit false

namespace TableQuery

namespace Request

def Reads (request : Request) (field : String) : Prop :=
  (∃ condition ∈ request.conditions, condition.field = field) ∨
    ∃ keys ∈ request.orderBy, ∃ key ∈ keys, key.field = field

theorem mem_referencedFields {request : Request} {field : String} :
    field ∈ request.referencedFields ↔ request.Reads field := by
  unfold referencedFields Reads
  rw [List.mem_append, List.mem_map, List.mem_map]
  apply or_congr_right
  cases request.orderBy <;> simp

/-- The fields are those that a request reads without showing them: each once, in the order in which
the conditions, and after them the order keys, name them first. -/
structure HiddenFields (request : Request) (fields : List String) : Prop where
  distinct : fields.Nodup
  apart : fields.Disjoint request.fields
  mem_iff : ∀ field, field ∈ fields ↔ request.Reads field ∧ field ∉ request.fields
  ordered : fields.Pairwise fun earlier later =>
    let named := request.conditions.map (·.field) ++ (request.orderBy.getD []).map (·.field)
    named.idxOf earlier < named.idxOf later

variable {request : Request}

theorem HiddenFields.firstAppearances {fields : List String} (hidden : request.HiddenFields fields) :
    FirstAppearances (· ∉ request.fields) request.referencedFields fields where
  mem_iff field := by rw [hidden.mem_iff, mem_referencedFields]
  ordered := hidden.ordered

theorem hiddenFields_auxiliaryFields (request : Request) :
    request.HiddenFields request.auxiliaryFields := by
  have walked : FirstAppearances (· ∉ request.fields) request.referencedFields
      request.auxiliaryFields := FirstAppearances.nil.walk request.referencedFields
  have members (field : String) : field ∈ request.auxiliaryFields ↔
      request.Reads field ∧ field ∉ request.fields := by
    rw [mem_auxiliaryFields, mem_referencedFields]
  exact {
    distinct := addMissing_nodup List.nodup_nil _
    apart := fun field hidden => ((members field).1 hidden).2
    mem_iff := members
    ordered := walked.ordered }

theorem auxiliaryFields_eq_iff {fields : List String} :
    request.auxiliaryFields = fields ↔ request.HiddenFields fields := by
  constructor
  · rintro rfl
    exact request.hiddenFields_auxiliaryFields
  · intro hidden
    exact request.hiddenFields_auxiliaryFields.firstAppearances.unique hidden.firstAppearances

theorem recordFields_eq (request : Request) (shown : List String) :
    Engine.recordFields request shown = shown ++ request.auxiliaryFields.filter (· ∉ shown) :=
  addMissing_of_nodup request.hiddenFields_auxiliaryFields.distinct shown

theorem wildcard_mem_recordFields {mainTable joinedTable : String} {main joined : Table} :
    wildcard ∈ Engine.recordFields request
        (expandWildcard request.fields mainTable main joinedTable joined) ↔
      request.Reads wildcard ∧ wildcard ∉ request.fields := by
  rw [Engine.recordFields, mem_addMissing, request.hiddenFields_auxiliaryFields.mem_iff]
  exact or_iff_right (wildcard_notMem_expandWildcard request.fields)

/-- The auxiliary fields of a request are the fields that it reads without showing them, and they are
the only list of these. The records of a join hold the fields to show, and behind them the auxiliary
fields that these do not name yet; so they hold every field that is read, a wildcard apart. -/
theorem auxiliaryFields_exact (request : Request) :
    (∀ fields, request.auxiliaryFields = fields ↔ request.HiddenFields fields) ∧
      ∀ (engine : Engine) (stamp : Stamp) (join : Join) (main joined : Table),
        request.join = some join → engine.source request.table = .ok main →
        engine.source join.table = .ok joined →
          let shown := expandWildcard request.fields request.table main join.table joined
          let held := shown ++ request.auxiliaryFields.filter (· ∉ shown)
          (engine.workingRows stamp request).result =
              .ok (join.kind.records join.keys request.table held main joined, shown) ∧
            (∀ field, request.Reads field → field ≠ wildcard → field ∈ held) ∧
            (wildcard ∈ held ↔ request.Reads wildcard ∧ wildcard ∉ request.fields) := by
  refine ⟨fun _ => auxiliaryFields_eq_iff, ?_⟩
  intro engine stamp join main joined joins mainLoaded joinedLoaded shown held
  have fields : Engine.recordFields request shown = held := request.recordFields_eq shown
  rw [← fields]
  refine ⟨?_, ?_, wildcard_mem_recordFields⟩
  · rw [Engine.result_workingRows, working_of_join joins mainLoaded joinedLoaded]
    rfl
  · intro field reads apart
    exact mem_recordFields_of_referenced (mem_referencedFields.2 reads) apart

/-- Shows all fields of both tables, and reads some of them by names that are not shown. -/
def starredVisits : Request where
  fields := ["*", "visits.city"]
  table := "visitors"
  conditions := [⟨"age", .notEqual, "30"⟩, ⟨"visits.city", .equal, "Oslo"⟩,
    ⟨"name", .notEqual, "Ann"⟩, ⟨"age", .notEqual, "40"⟩]
  join := some ⟨.left, "visits", ⟨"visitors.id", "visits.who"⟩⟩
  groupBy := none
  orderBy := some [⟨"name", .descending⟩, ⟨"visits.who", .ascending⟩]
  ungroupedAggregate := false

theorem auxiliaryFields_exact_of_starred_visits :
    let shown := ["visitors.id", "visitors.name", "visits.who", "visits.city", "visits.city"]
    let held := shown ++ ["age", "name"]
    let keys : JoinKeys := ⟨"visitors.id", "visits.who"⟩
    starredVisits.HiddenFields ["age", "name", "visits.who"] ∧
      (Engine.visitorEngine.workingRows ⟨"", ""⟩ starredVisits).result =
        .ok (JoinKind.left.records keys "visitors" held Engine.visitors Engine.visits, shown) ∧
      "visits.who" ∈ held := by
  intro shown held keys
  obtain ⟨lists, holds⟩ := starredVisits.auxiliaryFields_exact
  obtain ⟨working, read, -⟩ :=
    holds Engine.visitorEngine ⟨"", ""⟩ _ Engine.visitors Engine.visits rfl rfl rfl
  have reads : starredVisits.Reads "visits.who" := mem_referencedFields.1 (by decide)
  exact ⟨(lists _).1 (by decide), working, read _ reads (by decide)⟩

end Request

end TableQuery
