import TableQuery.Proofs.Engine.Origins
import TableQuery.Proofs.Join.Driving

/-! Joins and the full tables.

A join makes records of the fields that are shown or read, and of no others. Its answer is the one
that the full records have, on which every field of both tables can be read.
-/

set_option autoImplicit false

namespace TableQuery

namespace Request

variable (config : Config) (request : Request) (join : Join) (main joined : Table)

def verdict (pair : RowPair) : Except EvaluationError Bool :=
  Condition.allHoldOf config.likeMatching (pair.cells request.table) request.conditions

def comparePairs (first second : RowPair) : Ordering :=
  compareRecords (request.orderBy.getD []) (first.cells request.table) (second.cells request.table)

instance : Std.TransCmp request.comparePairs :=
  transCmp_view (compareRecords (request.orderBy.getD [])) (RowPair.cells request.table)

/-- What two full tables say to a request that joins them: the error of the first driving pair on
which the conditions err, or else the pairs that satisfy them, in order, with the fields to show. -/
inductive JoinAnswer : Except QueryError Table → Prop where
  | fails {pairs : List RowPair} {error : EvaluationError}
      (driving : join.kind.Drives join.keys main joined pairs)
      (first : pairs.findSome? (fun pair => fault? (request.verdict config pair)) = some error) :
      JoinAnswer (.error (.evaluation error))
  | succeeds {pairs ordered : List RowPair}
      (driving : join.kind.Drives join.keys main joined pairs)
      (clean : ∀ pair ∈ pairs, fault? (request.verdict config pair) = none)
      (sorted :
        let kept := pairs.filter fun pair => isKept (request.verdict config pair)
        if config.applyOrderBy then StablySorted request.comparePairs kept ordered
        else ordered = kept) :
      JoinAnswer (.ok (ordered.map
        (RowPair.record request.table
          (expandWildcard request.fields request.table main join.table joined))))

variable {config request join main joined}

theorem JoinAnswer.unique {first second : Except QueryError Table}
    (left : request.JoinAnswer config join main joined first)
    (right : request.JoinAnswer config join main joined second) : first = second := by
  -- Both answers are about the same pairs: these err alike, or they are sorted alike.
  cases left with
  | fails driving found =>
    obtain rfl := JoinKind.drives_iff.1 driving
    cases right with
    | fails driving other =>
      obtain rfl := JoinKind.drives_iff.1 driving
      rw [Option.some.inj (found.symm.trans other)]
    | succeeds driving clean _ =>
      obtain rfl := JoinKind.drives_iff.1 driving
      rw [List.findSome?_eq_none_iff.2 clean] at found
      contradiction
  | succeeds driving clean sorted =>
    obtain rfl := JoinKind.drives_iff.1 driving
    cases right with
    | fails driving found =>
      obtain rfl := JoinKind.drives_iff.1 driving
      rw [List.findSome?_eq_none_iff.2 clean] at found
      contradiction
    | succeeds driving _ other =>
      obtain rfl := JoinKind.drives_iff.1 driving
      dsimp only at sorted other
      split at sorted
      · rw [if_pos ‹_›] at other
        rw [sorted.unique other]
      · rw [if_neg ‹_›] at other
        rw [sorted, other]

/-- The records of a join hold the fields that the request reads, as the full records do. -/
theorem agree_cells (joins : request.join = some join)
    (named : wildcard ∉ request.referencedFields) (pair : RowPair) :
    AgreeOn request.referencedFields
      (request.workingRow (expandWildcard request.fields request.table main join.table joined)
        pair).get? (pair.cells request.table) := by
  intro field member
  rw [workingRow_of_join joins]
  apply RowPair.get?_record
  apply mem_recordFields_of_referenced member
  intro same
  exact named (same ▸ member)

theorem arrangedBy_cells (kept : List RowPair) :
    let ordered := request.arrangedBy config (RowPair.cells request.table) kept
    if config.applyOrderBy then StablySorted request.comparePairs kept ordered
    else ordered = kept := by
  cases ordering : request.orderBy with
  | none =>
    have left : request.arrangedBy config (RowPair.cells request.table) kept = kept := by
      unfold arrangedBy
      rw [ordering]
    rw [left]
    split
    · -- Without keys all pairs tie, so they are sorted as they stand.
      apply stablySorted_of_tied
      intro first second
      unfold comparePairs
      rw [ordering]
      rfl
    · rfl
  | some keys =>
    unfold arrangedBy
    rw [ordering]
    cases config.applyOrderBy with
    | false => rfl
    | true =>
      have sorted : StablySorted request.comparePairs kept _ := stablySorted_mergeSort kept
      unfold comparePairs at sorted ⊢
      rw [ordering] at sorted ⊢
      exact sorted

theorem answered_of_join {source : Source} (joins : request.join = some join)
    (mainLoaded : source request.table = .ok main) (joinedLoaded : source join.table = .ok joined)
    (named : wildcard ∉ request.referencedFields) :
    request.JoinAnswer config join main joined (request.answered source config) := by
  have verdicts : (fun pair : RowPair => request.verdictOn config (pair.cells request.table)) =
      request.verdict config := rfl
  rw [answered_eq (origins_of_join joins mainLoaded joinedLoaded) (agree_cells joins named),
    verdicts, screen]
  cases found : (join.kind.pairs join.keys main joined).findSome? fun pair =>
      fault? (request.verdict config pair) with
  | some error => exact .fails JoinKind.drives_pairs found
  | none =>
    -- What only was read is dropped after it has been filtered and sorted by.
    rw [workingRow_of_join joins]
    dsimp only
    rw [List.map_congr_left fun pair _ =>
      pair.project_recordFields (wildcard_notMem_expandWildcard request.fields)]
    exact .succeeds JoinKind.drives_pairs (List.findSome?_eq_none_iff.1 found) (arrangedBy_cells _)

end Request

namespace Engine

/-- A join means what the two full tables say, though only the fields that are shown or read are
put into its records. -/
theorem run_iff_joinAnswer {engine : Engine} {call : Call} {request : Request} {join : Join}
    {main joined : Table} (admitted : engine.admitted call = .ok request)
    (joins : request.join = some join) (mainLoaded : engine.source request.table = .ok main)
    (joinedLoaded : engine.source join.table = .ok joined)
    (named : wildcard ∉ request.referencedFields) (stamp : Stamp)
    (answer : Except QueryError Table) :
    (engine.run stamp call).result = answer ↔
      request.JoinAnswer engine.config join main joined answer := by
  have answered : (engine.run stamp call).result =
      request.answered engine.source engine.config := by
    show (engine.answer stamp call).result = _
    rw [result_answer, admitted]
  have meant : request.JoinAnswer engine.config join main joined
      (request.answered engine.source engine.config) :=
    Request.answered_of_join joins mainLoaded joinedLoaded named
  rw [answered]
  constructor
  · intro same
    exact same ▸ meant
  · intro other
    exact meant.unique other

def visitors : Table :=
  [.ofEntries [("id", .string "1"), ("name", .string "Ann")],
   .ofEntries [("id", .string "2"), ("name", .string "Bob")]]

def visits : Table :=
  [.ofEntries [("who", .string "2"), ("city", .string "Oslo")]]

def visitorNames : Request where
  fields := ["name"]
  table := "visitors"
  conditions := [⟨"visits.city", .equal, "Oslo"⟩]
  join := some ⟨.left, "visits", ⟨"visitors.id", "visits.who"⟩⟩
  groupBy := none
  orderBy := some [⟨"city", .descending⟩]
  ungroupedAggregate := false

def visitorEngine : Engine where
  source table := .ok (if table = "visitors" then visitors else visits)
  config := {}

theorem joinAnswer_of_hidden_fields :
    wildcard ∉ visitorNames.referencedFields ∧
      visitorNames.JoinAnswer {} ⟨.left, "visits", ⟨"visitors.id", "visits.who"⟩⟩ visitors visits
        (.ok [.ofEntries [("name", .string "Bob")]]) :=
  have admitted : visitorEngine.admitted (.request visitorNames) = .ok visitorNames := rfl
  ⟨by decide, (run_iff_joinAnswer admitted rfl rfl rfl (by decide) ⟨"", ""⟩ _).1 rfl⟩

end Engine

end TableQuery
