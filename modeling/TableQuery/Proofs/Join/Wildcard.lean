import Mathlib.Data.List.Perm.Subperm
import TableQuery.Proofs.Engine.Shape
import TableQuery.Proofs.Join.FullRecords
import TableQuery.Proofs.Text.Trimming

/-! The wildcard over a join.

It stands for all keys of both tables, each written after the name of its table. The names are
cut apart again when a record is made, so each value comes from the row that it was asked of.
-/

set_option autoImplicit false

namespace TableQuery

open Text

structure IsTableName (name : String) : Prop where
  nonempty : name ≠ ""
  free : '.' ∉ name.toList

section Names
variable {table other : String}

/-- The first dot is the one after the table, whatever dots the key has. -/
theorem QualifiedName.ofName_qualified (free : '.' ∉ table.toList) (key : String) :
    ofName (table ++ "." ++ key) = ⟨table, key⟩ := by
  have chars : (table ++ "." ++ key).toList = table.toList ++ '.' :: key.toList := by simp
  unfold ofName
  rw [chars, cutAt_append free]
  simp

theorem qualified_ne (first : IsTableName table) (second : IsTableName other)
    (distinct : table ≠ other) (key another : String) :
    table ++ "." ++ key ≠ other ++ "." ++ another := by
  intro same
  have names := congrArg QualifiedName.ofName same
  rw [QualifiedName.ofName_qualified first.free, QualifiedName.ofName_qualified second.free] at names
  exact distinct (congrArg QualifiedName.table names)

theorem mem_qualifiedKeys {rows : Table} {key : String} (member : key ∈ rows.flatMap Row.keys) :
    table ++ "." ++ key ∈ rows.qualifiedKeys table := by
  rw [Table.qualifiedKeys_eq]
  exact List.mem_map_of_mem (List.mem_eraseDups.2 member)

end Names

namespace RowPair

variable {mainTable table : String}

theorem resolve_main (named : IsTableName mainTable) (pair : RowPair) (key : String) :
    pair.resolve mainTable (mainTable ++ "." ++ key) =
      (pair.main?.bind (·.get? key)).getD .null := by
  unfold resolve side
  rw [QualifiedName.ofName_qualified named.free]
  simp [named.nonempty]

theorem resolve_joined (named : IsTableName table) (distinct : mainTable ≠ table) (pair : RowPair)
    (key : String) : pair.resolve mainTable (table ++ "." ++ key) =
      (pair.joined?.bind (·.get? key)).getD .null := by
  unfold resolve side
  rw [QualifiedName.ofName_qualified named.free]
  simp [named.nonempty, Ne.symm distinct]

end RowPair

theorem RowPair.get?_shown {mainTable : String} {shown : List String} {key : String}
    (named : wildcard ∉ shown) (member : key ∈ shown) (request : Request) (pair : RowPair) :
    ((pair.record mainTable (Engine.recordFields request shown)).project shown).get? key =
      some (pair.resolve mainTable key) := by
  rw [RowPair.project_recordFields named, RowPair.get?_record mainTable pair member]
  rfl

inductive RowPair.From (main joined : Table) : RowPair → Prop where
  | both {row other : Row} (first : row ∈ main) (second : other ∈ joined) :
      From main joined (.both row other)
  | mainOnly {row : Row} (first : row ∈ main) : From main joined (.mainOnly row)
  | joinedOnly {other : Row} (second : other ∈ joined) : From main joined (.joinedOnly other)

section Origins
variable {main joined : Table} {pair : RowPair} {row : Row}

theorem RowPair.From.mem_main (origin : pair.From main joined) (here : pair.main? = some row) :
    row ∈ main := by
  cases origin with
  | both first second => exact Option.some.inj here ▸ first
  | mainOnly first => exact Option.some.inj here ▸ first
  | joinedOnly second => cases here

theorem RowPair.From.mem_joined (origin : pair.From main joined)
    (here : pair.joined? = some row) : row ∈ joined := by
  cases origin with
  | both first second => exact Option.some.inj here ▸ second
  | mainOnly first => cases here
  | joinedOnly second => exact Option.some.inj here ▸ second

theorem from_of_mem_orAlone {alone : RowPair} {pairs : List RowPair}
    (lone : alone.From main joined) (all : ∀ pair ∈ pairs, pair.From main joined)
    (member : pair ∈ orAlone alone pairs) : pair.From main joined := by
  unfold orAlone at member
  split at member
  · exact List.mem_singleton.1 member ▸ lone
  · exact all pair member

theorem JoinKind.from_of_mem_pairs {kind : JoinKind} {keys : JoinKeys}
    (member : pair ∈ kind.pairs keys main joined) : pair.From main joined := by
  have withMain {row : Row} (first : row ∈ main) : ∀ pair ∈
      (joined.filter fun other => keys.hold row other).map (RowPair.both row),
      pair.From main joined := by
    intro pair member
    obtain ⟨other, second, rfl⟩ := List.mem_map.1 member
    exact .both first (List.mem_of_mem_filter second)
  unfold pairs at member
  cases kind with
  | inner =>
    obtain ⟨row, first, member⟩ := List.mem_flatMap.1 member
    exact withMain first pair member
  | left =>
    obtain ⟨row, first, member⟩ := List.mem_flatMap.1 member
    exact from_of_mem_orAlone (.mainOnly first) (withMain first) member
  | right =>
    obtain ⟨other, second, member⟩ := List.mem_flatMap.1 member
    refine from_of_mem_orAlone (.joinedOnly second) ?_ member
    intro pair member
    obtain ⟨row, first, rfl⟩ := List.mem_map.1 member
    exact .both (List.mem_of_mem_filter first) second

end Origins

/-- A row shows one side of a record under the name of its table: all that the row on that side
holds, and null under the other keys of the table. -/
structure ShowsSide (table : String) (rows : Table) (side : Option Row) (row : Row) : Prop where
  held : ∀ source, side = some source → ∀ key value, source.get? key = some value →
    row.get? (table ++ "." ++ key) = some value
  absent : ∀ key ∈ rows.flatMap Row.keys, side.bind (·.get? key) = none →
    row.get? (table ++ "." ++ key) = some .null

theorem showsSide_of_get? {table : String} {rows : Table} {side : Option Row} {row : Row}
    (stored : ∀ source, side = some source → source ∈ rows)
    (shown : ∀ key ∈ rows.flatMap Row.keys,
      row.get? (table ++ "." ++ key) = some ((side.bind (·.get? key)).getD .null)) :
    ShowsSide table rows side row where
  held := by
    intro source here key value holds
    have member : key ∈ rows.flatMap Row.keys :=
      List.mem_flatMap.2 ⟨source, stored source here, Row.mem_keys_of_get? holds⟩
    rw [shown key member, here, Option.bind_some, holds]
    rfl
  absent := by
    intro key member none
    rw [shown key member, none]
    rfl

theorem exists_of_perm_sublist_map {α β : Type} {image : α → β} {items : List α}
    {kept part : List β} (perm : kept.Perm part) (among : part.Sublist (items.map image)) :
    ∃ chosen, List.Subperm chosen items ∧ chosen.length = part.length ∧
      kept = chosen.map image := by
  obtain ⟨left, sublist, rfl⟩ := List.sublist_map_iff.1 among
  obtain ⟨chosen, same, order⟩ :=
    (congrFun (congrFun (List.eq_map_comp_perm image) kept) left).mpr perm
  exact ⟨chosen, order.subperm.trans sublist.subperm, by rw [order.length_eq, List.length_map], same⟩

namespace Engine

/-- The wildcard over a join loses nothing of the rows that make up a record, and mixes up none of
their keys. Without conditions no record is lost either. -/
theorem run_wildcard_join {engine : Engine} {stamp : Stamp} {call : Call} {request : Request}
    {join : Join} {main joined rows : Table} (admitted : engine.admitted call = .ok request)
    (joins : request.join = some join) (mainLoaded : engine.source request.table = .ok main)
    (joinedLoaded : engine.source join.table = .ok joined)
    (first : IsTableName request.table) (second : IsTableName join.table)
    (distinct : request.table ≠ join.table) (starred : wildcard ∈ request.fields)
    (answers : (engine.run stamp call).result = .ok rows) :
    (∃ pairs, List.Subperm pairs (join.kind.pairs join.keys main joined) ∧
      (request.conditions = [] → pairs.Perm (join.kind.pairs join.keys main joined)) ∧
      List.Forall₂ (fun (pair : RowPair) row => ShowsSide request.table main pair.main? row ∧
        ShowsSide join.table joined pair.joined? row) pairs rows) ∧
    ∀ key other, request.table ++ "." ++ key ≠ join.table ++ "." ++ other := by
  refine ⟨?_, qualified_ne first second distinct⟩
  rw [result_run, answerTo, admitted] at answers
  obtain ⟨working, shown, satisfied, kept, ready, satisfies, perm, rfl⟩ :=
    Request.exists_kept_of_answered answers
  rw [Request.working_of_join joins mainLoaded joinedLoaded] at ready
  cases ready
  obtain ⟨pairs, among, size, rfl⟩ :=
    exists_of_perm_sublist_map perm (Table.satisfying_sublist satisfies)
  refine ⟨pairs, among, ?_, ?_⟩
  · intro free
    rw [free, Table.satisfying_nil] at satisfies
    cases satisfies
    exact among.perm_of_length_le (by rw [size, List.length_map])
  · rw [List.map_map, List.forall₂_map_right_iff, List.forall₂_same]
    intro pair member
    have origin := JoinKind.from_of_mem_pairs (among.subset member)
    constructor
    · apply showsSide_of_get? fun source => origin.mem_main
      intro key member
      rw [← RowPair.resolve_main first]
      apply RowPair.get?_shown (wildcard_notMem_expandWildcard request.fields)
      exact mem_replaceWildcard.2
        (.inr ⟨starred, List.mem_append.2 (.inl (mem_qualifiedKeys member))⟩)
    · apply showsSide_of_get? fun source => origin.mem_joined
      intro key member
      rw [← RowPair.resolve_joined second distinct]
      apply RowPair.get?_shown (wildcard_notMem_expandWildcard request.fields)
      exact mem_replaceWildcard.2
        (.inr ⟨starred, List.mem_append.2 (.inr (mem_qualifiedKeys member))⟩)

def parcels : Table :=
  [.ofEntries [("id", .int 1), ("size.cm", .string "20")]]

def labels : Table :=
  [.ofEntries [("id", .int 1), ("text", .null)], .ofEntries [("id", .int 9)]]

def labelledParcels : Request where
  fields := ["*"]
  table := "parcels"
  conditions := []
  join := some ⟨.right, "labels", ⟨"parcels.id", "labels.id"⟩⟩
  groupBy := none
  orderBy := none
  ungroupedAggregate := false

def parcelEngine : Engine where
  source table := .ok (if table = "parcels" then parcels else labels)
  config := {}

theorem run_wildcard_join_of_shared_key :
    let answer : Table :=
      [.ofEntries [("parcels.id", .int 1), ("parcels.size.cm", .string "20"),
        ("labels.id", .int 1), ("labels.text", .null)],
       .ofEntries [("parcels.id", .null), ("parcels.size.cm", .null),
        ("labels.id", .int 9), ("labels.text", .null)]]
    (parcelEngine.run ⟨"", ""⟩ (.request labelledParcels)).result = .ok answer ∧
      ∃ pairs : List RowPair,
        pairs.Perm (JoinKind.right.pairs ⟨"parcels.id", "labels.id"⟩ parcels labels) ∧
        List.Forall₂ (fun pair row => ShowsSide "parcels" parcels pair.main? row ∧
          ShowsSide "labels" labels pair.joined? row) pairs answer := by
  intro answer
  have admitted : parcelEngine.admitted (.request labelledParcels) = .ok labelledParcels := rfl
  have answers : (parcelEngine.run ⟨"", ""⟩ (.request labelledParcels)).result = .ok answer := rfl
  have first : IsTableName "parcels" := ⟨by decide, by decide⟩
  have second : IsTableName "labels" := ⟨by decide, by decide⟩
  obtain ⟨⟨pairs, -, all, shows⟩, -⟩ :=
    run_wildcard_join admitted rfl rfl rfl first second (by decide) (by decide) answers
  exact ⟨answers, pairs, all rfl, shows⟩

end Engine

end TableQuery
