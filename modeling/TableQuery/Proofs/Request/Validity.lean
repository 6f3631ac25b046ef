import TableQuery.Proofs.Request.Plain

/-! Requests that were read are valid.

A text is accepted or rejected as a whole. An accepted one gives a request without empty parts: none
of its names has white space at an end, and the names in its lists hold no comma.
-/

set_option autoImplicit false

namespace TableQuery

open Query Text

theorem IsTwoPartName.count_dot {name : String} (twoPart : IsTwoPartName name) :
    name.toList.count '.' = 1 := by
  obtain ⟨table, field, whole, -, -, parts⟩ := twoPart
  have undotted : '.' ∉ table ++ field := by
    intro dot
    rcases parts '.' dot with alphanumeric | low
    · exact (ne_of_isAlphanumeric alphanumeric).2.1 rfl
    · cases low
  rw [List.mem_append, not_or] at undotted
  rw [whole, List.count_append, List.count_cons_self, List.count_eq_zero.2 undotted.1,
    List.count_eq_zero.2 undotted.2]

/-- An operand of a join is checked in two steps: first its characters, then its parts. -/
theorem isTwoPartName_iff {name : String} :
    IsTwoPartName name ↔ isOperand name.toList = true ∧ isTwoPart name = true := by
  constructor
  · exact fun twoPart => ⟨twoPart.isOperand, twoPart.isTwoPart⟩
  · rintro ⟨operand, parted⟩
    unfold isTwoPart at parted
    split at parted
    · rename_i table field cut
      rw [Bool.and_eq_true] at parted
      refine ⟨table, field, append_of_pieces cut, by simpa using parted.1, by simpa using parted.2,
        ?_⟩
      intro c member
      -- Of the three kinds of characters in an operand, a part has no dot.
      obtain ⟨part, listed, inside⟩ : ∃ part ∈ pieces (· == '.') name.toList, c ∈ part := by
        rw [cut]
        simpa using member
      rw [isOperand, Bool.and_eq_true, List.all_eq_true] at operand
      have allowed := operand.2 c (mem_of_mem_pieces listed inside)
      rw [not_mark_of_mem_pieces listed c inside, Bool.or_false, Bool.or_eq_true,
        beq_iff_eq] at allowed
      exact allowed
    · cases parted

structure Join.Valid (join : Join) : Prop where
  table : IsName join.table
  left : IsTwoPartName join.keys.left ∧ join.keys.left.toList.count '.' = 1
  right : IsTwoPartName join.keys.right ∧ join.keys.right.toList.count '.' = 1

/-- What an engine may rely on in a request, however its text was written. -/
structure Request.Valid (request : Request) : Prop where
  fields_ne : request.fields ≠ []
  fields : ∀ name ∈ request.fields, IsEntry name
  table : IsName request.table
  join : ∀ join ∈ request.join, join.Valid
  conditions : ∀ condition ∈ request.conditions, IsName condition.field
  groupBy : ∀ names ∈ request.groupBy, names ≠ [] ∧ ∀ name ∈ names, IsEntry name
  orderBy : ∀ keys ∈ request.orderBy, keys ≠ [] ∧ ∀ key ∈ keys, IsOrderField key.field
  aggregate : request.ungroupedAggregate = true → request.groupBy = none

theorem Join.WellFormed.valid {join : Join} (wellFormed : join.WellFormed) : join.Valid := by
  have qualified := wellFormed.qualified
  rw [JoinKeys.isQualified, Bool.and_eq_true] at qualified
  have left := isTwoPartName_iff.2 ⟨wellFormed.left, qualified.1⟩
  have right := isTwoPartName_iff.2 ⟨wellFormed.right, qualified.2⟩
  exact ⟨wellFormed.table, ⟨left, left.count_dot⟩, ⟨right, right.count_dot⟩⟩

theorem Request.WellFormed.valid {request : Request} (wellFormed : request.WellFormed)
    (grouped : request.ungroupedAggregate = true → request.groupBy = none) : request.Valid where
  fields_ne := wellFormed.fields_ne
  fields := wellFormed.fields
  table := wellFormed.table
  join join member := (wellFormed.join join member).valid
  conditions condition member := (wellFormed.conditions condition member).field
  groupBy := wellFormed.groupBy
  orderBy := wellFormed.orderBy
  aggregate := grouped

namespace Request

variable {query : List Char} {request : Request}

theorem ungrouped_of_ofChars (read : ofChars query = .ok request)
    (aggregate : request.ungroupedAggregate = true) : request.groupBy = none := by
  obtain ⟨_, _, _, _, -, -, -, -, -, -, flag⟩ := ofChars_eq_ok_iff.1 read
  rw [aggregate, hasUngroupedAggregate, Bool.and_eq_true] at flag
  exact Option.isNone_iff_eq_none.1 flag.1

/-- The conditions come from the text of the filter clause, and it holds at least one. -/
theorem conditions_nil_iff_of_ofChars (read : ofChars query = .ok request) :
    ∃ clauses, Clauses.ofQuery query = .ok clauses ∧
      (request.conditions = [] ↔ clauses.filter = none) := by
  obtain ⟨grouped, filtered, selection, filter, orderBy, groupBy, filters, conditions, -⟩ :=
    ofChars_eq_ok_iff.1 read
  refine ⟨⟨selection, filter, request.groupBy, request.orderBy⟩, ?_, ?_⟩
  · simp only [Clauses.ofQuery, bind_eq_ok_iff]
    exact ⟨_, orderBy, _, groupBy, _, filters, rfl⟩
  · rw [← filterConditions_nil_iff, conditions, Except.ok.injEq]

/-- Every text that is accepted gives a valid request, with conditions exactly if it has a filter
clause. -/
theorem ofText_valid {text : String} (read : ofText text = .ok request) :
    request.Valid ∧ ∃ clauses, Clauses.ofQuery text.toList = .ok clauses ∧
      (request.conditions = [] ↔ clauses.filter = none) :=
  ⟨(wellFormed_of_ofChars read).valid (ungrouped_of_ofChars read),
    conditions_nil_iff_of_ofChars read⟩

def everyClause : Request where
  fields := ["a.x", "b.y"]
  table := "a"
  conditions := [⟨"b.y", .greater, "2"⟩]
  join := some ⟨.left, "b", ⟨"a.i", "b.i"⟩⟩
  groupBy := some ["a.x"]
  orderBy := some [⟨"b.y", .descending⟩]
  ungroupedAggregate := false

theorem ofText_valid_of_everyClause :
    let text := "SELECT a.x , b.y FROM a LEFT JOIN b ON a.i=b.i WHERE b.y > 2 " ++
      "GROUP BY a.x ORDER BY b.y DESC"
    ofText text = .ok everyClause ∧ everyClause.Valid ∧
      ∃ clauses, Clauses.ofQuery text.toList = .ok clauses ∧
        (everyClause.conditions = [] ↔ clauses.filter = none) := by
  intro text
  have read : ofText text = .ok everyClause := by decide +kernel
  exact ⟨read, ofText_valid read⟩

end Request

end TableQuery
