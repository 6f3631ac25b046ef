import TableQuery.Proofs.Join.Wildcard
import TableQuery.Proofs.Values

/-! Joins with their sides exchanged.

A RIGHT join of two tables is the LEFT join with the tables, the operands and the names exchanged.
The rows match both ways since equality of cells is symmetric, and a field that names its table
reads the same row on whichever side this table stands.
-/

set_option autoImplicit false

namespace TableQuery

theorem sameKey_comm {first second : Option Value}
    (formed : ∀ value ∈ first, value.WellFormed) (formed' : ∀ value ∈ second, value.WellFormed) :
    sameKey first second = sameKey second first := by
  rcases first with _ | left
  · rcases second with _ | right
    · rfl
    · cases right <;> rfl
  · rcases second with _ | right
    · cases left <;> rfl
    · have comm := Value.same_comm (formed left rfl) (formed' right rfl)
      cases left <;> cases right <;> first
      | rfl
      | exact comm

def JoinKeys.exchange (keys : JoinKeys) : JoinKeys :=
  ⟨keys.right, keys.left⟩

theorem JoinKeys.hold_exchange {keys : JoinKeys} {main joined : Row} (formed : main.WellFormed)
    (formed' : joined.WellFormed) : keys.exchange.hold joined main = keys.hold main joined :=
  sameKey_comm (fun _ held => formed'.get? held) (fun _ held => formed.get? held)

namespace RowPair

def exchange : RowPair → RowPair
  | both main joined => both joined main
  | mainOnly main => joinedOnly main
  | joinedOnly joined => mainOnly joined

@[simp] theorem main?_exchange (pair : RowPair) : pair.exchange.main? = pair.joined? := by
  cases pair <;> rfl

@[simp] theorem joined?_exchange (pair : RowPair) : pair.exchange.joined? = pair.main? := by
  cases pair <;> rfl

variable {mainTable joinedTable : String} {fields : List String}

theorem record_exchange (first : IsTableName mainTable) (second : IsTableName joinedTable)
    (distinct : mainTable ≠ joinedTable) (qualified : ∀ field ∈ fields, ∃ key,
      field = mainTable ++ "." ++ key ∨ field = joinedTable ++ "." ++ key) (pair : RowPair) :
    pair.exchange.record joinedTable fields = pair.record mainTable fields := by
  have same : ∀ field ∈ fields,
      (field, pair.exchange.resolve joinedTable field) = (field, pair.resolve mainTable field) := by
    intro field member
    obtain ⟨key, rfl | rfl⟩ := qualified field member
    · rw [resolve_joined first distinct.symm, resolve_main first, joined?_exchange]
    · rw [resolve_main second, resolve_joined second distinct, main?_exchange]
  rw [record, record, List.map_congr_left same]

end RowPair

theorem map_orAlone (change : RowPair → RowPair) (alone : RowPair) (pairs : List RowPair) :
    (orAlone alone pairs).map change = orAlone (change alone) (pairs.map change) := by
  cases pairs <;> rfl

namespace JoinKind

variable {mainTable joinedTable : String} {fields : List String} {main joined : Table}

theorem pairs_exchange (formed : ∀ row ∈ main, row.WellFormed)
    (formed' : ∀ row ∈ joined, row.WellFormed) (keys : JoinKeys) :
    left.pairs keys.exchange joined main = (right.pairs keys main joined).map RowPair.exchange := by
  unfold pairs
  rw [List.map_flatMap]
  refine List.flatMap_congr fun row member => ?_
  have matches_eq : (main.filter fun other => keys.exchange.hold row other) =
      main.filter fun other => keys.hold other row :=
    List.filter_congr fun other here =>
      JoinKeys.hold_exchange (formed other here) (formed' row member)
  dsimp only
  rw [map_orAlone, List.map_map, matches_eq]
  rfl

/-- A RIGHT join is the LEFT join with everything exchanged. The rows are such as documents and
files give: a key repeated inside a cell would make its equality depend on the side it stands on. -/
theorem records_right_eq_left_exchanged (first : IsTableName mainTable)
    (second : IsTableName joinedTable) (distinct : mainTable ≠ joinedTable)
    (qualified : ∀ field ∈ fields, ∃ key,
      field = mainTable ++ "." ++ key ∨ field = joinedTable ++ "." ++ key)
    (formed : ∀ row ∈ main, row.WellFormed) (formed' : ∀ row ∈ joined, row.WellFormed)
    (leftOperand rightOperand : String) :
    right.records ⟨leftOperand, rightOperand⟩ mainTable fields main joined =
      left.records ⟨rightOperand, leftOperand⟩ joinedTable fields joined main := by
  have exchanged := pairs_exchange formed formed' ⟨leftOperand, rightOperand⟩
  rw [JoinKeys.exchange] at exchanged
  rw [records, records, exchanged, List.map_map]
  refine List.map_congr_left fun pair _ => ?_
  exact (RowPair.record_exchange first second distinct qualified pair).symm

end JoinKind

def keyedPlayers : Table :=
  [.ofEntries [("k", .object [("x", .int 1), ("y", .int 2)]), ("n.m", .string "Ann")],
    .ofEntries [("k", .null)]]

def keyedTeams : Table :=
  [.ofEntries [("j", .object [("y", .int 2), ("x", .int 1)])],
    .ofEntries [("j", .array [.object [("x", .int 1)]])]]

theorem keyedPlayers_wellFormed : ∀ row ∈ keyedPlayers, row.WellFormed := by
  have key : (Value.object [("x", .int 1), ("y", .int 2)]).WellFormed :=
    .object (by decide) (by simp [Value.WellFormed.int])
  refine List.forall_mem_cons.2 ⟨?_, List.forall_mem_singleton.2 ?_⟩
  · exact Row.wellFormed_ofEntries (by simp [key, Value.WellFormed.string])
  · exact Row.wellFormed_ofEntries (by simp [Value.WellFormed.null])

theorem keyedTeams_wellFormed : ∀ row ∈ keyedTeams, row.WellFormed := by
  have key : (Value.object [("y", .int 2), ("x", .int 1)]).WellFormed :=
    .object (by decide) (by simp [Value.WellFormed.int])
  have item : (Value.object [("x", .int 1)]).WellFormed :=
    .object (by decide) (by simp [Value.WellFormed.int])
  refine List.forall_mem_cons.2 ⟨?_, List.forall_mem_singleton.2 ?_⟩
  · exact Row.wellFormed_ofEntries (by simp [key])
  · exact Row.wellFormed_ofEntries (by simp [Value.WellFormed.array, item])

def keyedFields : List String :=
  ["p.n.m", "t.j", "p.k"]

theorem records_exchanged_of_object_keys :
    let answer : Table :=
      [.ofEntries [("p.n.m", .string "Ann"), ("t.j", .object [("y", .int 2), ("x", .int 1)]),
        ("p.k", .object [("x", .int 1), ("y", .int 2)])],
       .ofEntries [("p.n.m", .null), ("t.j", .array [.object [("x", .int 1)]]), ("p.k", .null)]]
    IsTableName "p" ∧ IsTableName "t" ∧ "p" ≠ "t" ∧
      (∀ field ∈ keyedFields, ∃ key, field = "p" ++ "." ++ key ∨ field = "t" ++ "." ++ key) ∧
      (∀ row ∈ keyedPlayers, row.WellFormed) ∧ (∀ row ∈ keyedTeams, row.WellFormed) ∧
      JoinKind.right.records ⟨"p.k", "t.j"⟩ "p" keyedFields keyedPlayers keyedTeams = answer ∧
      JoinKind.right.records ⟨"p.k", "t.j"⟩ "p" keyedFields keyedPlayers keyedTeams =
        JoinKind.left.records ⟨"t.j", "p.k"⟩ "t" keyedFields keyedTeams keyedPlayers := by
  intro answer
  have first : IsTableName "p" := ⟨by decide, by decide⟩
  have second : IsTableName "t" := ⟨by decide, by decide⟩
  have distinct : "p" ≠ "t" := by decide
  have qualified : ∀ field ∈ keyedFields,
      ∃ key, field = "p" ++ "." ++ key ∨ field = "t" ++ "." ++ key := by
    simp only [keyedFields, List.forall_mem_cons, List.not_mem_nil, false_imp_iff, implies_true,
      and_true]
    exact ⟨⟨"n.m", .inl (by decide)⟩, ⟨"j", .inr (by decide)⟩, ⟨"k", .inl (by decide)⟩⟩
  exact ⟨first, second, distinct, qualified, keyedPlayers_wellFormed, keyedTeams_wellFormed, rfl,
    JoinKind.records_right_eq_left_exchanged first second distinct qualified
      keyedPlayers_wellFormed keyedTeams_wellFormed "p.k" "t.j"⟩

end TableQuery
