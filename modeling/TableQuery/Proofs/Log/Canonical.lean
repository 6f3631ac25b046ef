import Mathlib.Data.List.Sort
import Mathlib.Data.String.Basic
import Mathlib.Order.Compare
import TableQuery.Log.Scope
import TableQuery.Proofs.Json.Compact
import TableQuery.Proofs.Log.Lines

/-! The canonical form of log lines.

The object of a line has its event first and its severity second. Every other key stands once, the
keys in ascending order, with the value that was given last for it. So two lines are written alike
when they agree in the event, the severity and the last value of each key, whatever the order in
which their fields were given.
-/

set_option autoImplicit false

namespace TableQuery

def GivesLast (fields : Fields) (key value : String) : Prop :=
  ∃ before after, fields = before ++ (key, value) :: after ∧ ∀ field ∈ after, field.1 ≠ key

section Given
variable {fields extra : Fields} {key value : String}

theorem lookup_reverse_eq_some_iff :
    fields.reverse.lookup key = some value ↔ GivesLast fields key value := by
  rw [List.lookup_eq_some_iff]
  constructor
  · rintro ⟨after, before, split, apart⟩
    refine ⟨before.reverse, after.reverse, ?_, ?_⟩
    · rw [← fields.reverse_reverse, split]
      simp
    · intro field member same
      have other := bne_iff_ne.1 (apart field (List.mem_reverse.1 member))
      exact other same.symm
  · rintro ⟨before, after, rfl, apart⟩
    refine ⟨after.reverse, before.reverse, by simp, ?_⟩
    intro field member
    exact bne_iff_ne.2 fun same => apart field (List.mem_reverse.1 member) same.symm

theorem exists_givesLast_iff :
    (∃ value, GivesLast fields key value) ↔ key ∈ fields.map Prod.fst := by
  simp only [← lookup_reverse_eq_some_iff]
  rw [← Option.isSome_iff_exists, isSome_lookup_iff, List.map_reverse, List.mem_reverse]

theorem givesLast_append :
    GivesLast (fields ++ extra) key value ↔
      GivesLast extra key value ∨ key ∉ extra.map Prod.fst ∧ GivesLast fields key value := by
  rw [← exists_givesLast_iff]
  simp only [← lookup_reverse_eq_some_iff, List.reverse_append, List.lookup_append]
  cases extra.reverse.lookup key <;> simp

theorem givesLast_iff_mem (distinct : (fields.map Prod.fst).Nodup) :
    GivesLast fields key value ↔ (key, value) ∈ fields := by
  have distinct' : (fields.reverse.map Prod.fst).Nodup := by
    rw [List.map_reverse]
    exact List.nodup_reverse.2 distinct
  rw [← lookup_reverse_eq_some_iff, lookup_eq_some_iff_mem distinct', List.mem_reverse]

end Given

theorem pairwise_addMissing {known names : List String} (ascending : known.Pairwise (· < ·))
    (ordered : names.Pairwise (· ≤ ·)) (below : ∀ one ∈ known, ∀ other ∈ names, one ≤ other) :
    (addMissing known names).Pairwise (· < ·) := by
  -- What is kept stays below all names that are still to come.
  induction names generalizing known with
  | nil => exact ascending
  | cons name rest ih =>
    obtain ⟨least, ordered⟩ := List.pairwise_cons.1 ordered
    have before (one : String) (member : one ∈ known) : one ≤ name ∧ ∀ other ∈ rest, one ≤ other :=
      List.forall_mem_cons.1 (below one member)
    rw [addMissing]
    split
    · exact ih ascending ordered fun one member => (before one member).2
    · rename_i absent
      refine ih (List.pairwise_append.2 ⟨ascending, List.pairwise_singleton _ _, ?_⟩) ordered ?_
      · intro one member other same
        rw [List.mem_singleton.1 same]
        exact lt_of_le_of_ne (before one member).1 fun equal => absent (equal ▸ member)
      · intro one member
        rcases List.mem_append.1 member with member | same
        · exact (before one member).2
        · rw [List.mem_singleton.1 same]
          exact least

namespace LogLine

/-- An object is the canonical form of a line. -/
structure Canonical (line : LogLine) (object : Row) : Prop where
  keys : ∃ keys, object.keys = "event" :: "severity" :: keys ∧ keys.Pairwise (· < ·) ∧
    ∀ key, key ∈ keys ↔ isReserved key = false ∧ key ∈ line.fields.map Prod.fst
  event : object.get? "event" = some (.string line.event)
  severity : object.get? "severity" = some (.string line.severity.name)
  values : ∀ key, isReserved key = false → ∀ cell, object.get? key = some cell ↔
    ∃ value, GivesLast line.fields key value ∧ cell = .string value

theorem Canonical.get?_eq_string_iff {line : LogLine} {object : Row}
    (canonical : line.Canonical object) {key value : String} (plain : isReserved key = false) :
    object.get? key = some (.string value) ↔ GivesLast line.fields key value := by
  rw [canonical.values key plain]
  constructor
  · rintro ⟨_, last, ⟨⟩⟩
    exact last
  · intro last
    exact ⟨value, last, rfl⟩

/-- A line has one canonical form, and it is determined by the last value of each key. -/
theorem Canonical.unique {first second : LogLine} {object other : Row}
    (left : first.Canonical object) (right : second.Canonical other)
    (event : first.event = second.event) (severity : first.severity = second.severity)
    (alike : ∀ key value, GivesLast first.fields key value ↔ GivesLast second.fields key value) :
    object = other := by
  have keys : object.keys = other.keys := by
    obtain ⟨names, shown, ascending, members⟩ := left.keys
    obtain ⟨names', shown', ascending', members'⟩ := right.keys
    have same : names = names' := ascending.eq_of_mem_iff ascending' fun key => by
      simp only [members, members', ← exists_givesLast_iff, alike]
    rw [shown, shown', same]
  have values (key : String) : object.get? key = other.get? key := by
    cases reserved : isReserved key with
    | true =>
      rcases (Bool.or_eq_true _ _).mp reserved with named | named
      · rw [beq_iff_eq.1 named, left.event, right.event, event]
      · rw [beq_iff_eq.1 named, left.severity, right.severity, severity]
    | false =>
      apply Option.ext
      intro cell
      rw [left.values key reserved, right.values key reserved]
      simp only [alike]
  -- A row is determined by its keys in order and the value under each.
  apply Row.ext
  rw [object.entries_eq, other.entries_eq, keys]
  simp only [Row.shownAt, values]

def fieldKeys (line : LogLine) : List String :=
  (line.sortedFields.filter (! isReserved ·.1)).map Prod.fst

theorem mem_fieldKeys (line : LogLine) {key : String} :
    key ∈ line.fieldKeys ↔ isReserved key = false ∧ key ∈ line.fields.map Prod.fst := by
  have perm : line.sortedFields.Perm line.fields := List.mergeSort_perm _ _
  simp only [fieldKeys, List.mem_map, List.mem_filter, perm.mem_iff]
  constructor
  · rintro ⟨field, ⟨member, plain⟩, rfl⟩
    exact ⟨by simpa using plain, field, member, rfl⟩
  · rintro ⟨plain, field, member, rfl⟩
    exact ⟨field, ⟨member, by simpa using plain⟩, rfl⟩

theorem pairwise_fieldKeys (line : LogLine) : line.fieldKeys.Pairwise (· ≤ ·) := by
  have sorted : StablySorted (compareOn Prod.fst) line.fields line.sortedFields :=
    stablySorted_mergeSort line.fields
  refine List.pairwise_map.2 ((sorted.ordered.filter _).imp ?_)
  intro first second (ordered : compare first.1 second.1 ≠ .gt)
  exact compare_le_iff_le.1 ordered

theorem keys_object (line : LogLine) :
    line.object.keys = "event" :: "severity" :: line.fieldKeys.eraseDups := by
  -- No other field has a reserved key, so the two keys in front displace none.
  have plain : line.fieldKeys.filter (· ∉ ["event", "severity"]) = line.fieldKeys := by
    refine List.filter_eq_self.2 fun key member => ?_
    have apart := isReserved_eq_false_iff.1 (line.mem_fieldKeys.1 member).1
    simpa using apart
  have named : keysOf ((line.sortedFields.filter (! isReserved ·.1)).map
      fun field => (field.1, Value.string field.2)) = line.fieldKeys := by
    rw [keysOf, List.map_map]
    rfl
  rw [object, Row.keys_ofEntries, keysOf, List.map_cons, List.map_cons, ← keysOf, named]
  have added : addMissing [] ("event" :: "severity" :: line.fieldKeys) =
      addMissing ["event", "severity"] line.fieldKeys := by
    simp [addMissing]
  rw [added, addMissing_eq, plain]
  rfl

theorem canonical_object (line : LogLine) : line.Canonical line.object where
  keys := by
    refine ⟨_, line.keys_object, ?_, ?_⟩
    · rw [← addMissing_nil]
      exact pairwise_addMissing .nil line.pairwise_fieldKeys (List.forall_mem_nil _)
    · intro key
      rw [List.mem_eraseDups, mem_fieldKeys]
  event := by rw [get?_object, if_pos rfl]
  severity := by rw [get?_object, if_neg (by decide), if_pos rfl]
  values := by
    intro key plain cell
    obtain ⟨notEvent, notSeverity⟩ := isReserved_eq_false_iff.1 plain
    rw [get?_object, if_neg notEvent, if_neg notSeverity, Option.map_eq_some_iff]
    simp only [lookup_reverse_eq_some_iff, eq_comm (a := cell)]

theorem representable_object (line : LogLine) : line.object.toValue.Representable := by
  have each : line.object.All Value.Representable := by
    apply Row.all_ofEntries
    refine List.forall_mem_cons.2 ⟨.string _, List.forall_mem_cons.2 ⟨.string _, ?_⟩⟩
    rw [List.forall_mem_map]
    exact fun field _ => .string field.2
  exact .object each

/-- Every line is written in its canonical form, as compact JSON on one line. Fields with distinct
keys are written alike in whatever order they are given, and on the lines of a scope an extra field
takes the place of the scope's own field of its name. -/
theorem lines_canonical :
    (∀ line : LogLine, line.Canonical line.object ∧
      Json.IsCompact line.object.toValue line.text.toList ∧ '\n' ∉ line.text.toList) ∧
    (∀ (line : LogLine) (fields : Fields), (line.fields.map Prod.fst).Nodup →
      fields.Perm line.fields → text { line with fields := fields } = line.text) ∧
    ∀ (scope : Scope) (severity : Severity) (phase : String) (extra : Fields),
      scope.enabled = true → ∃ line, scope.lines severity phase extra = [line] ∧
        ∀ key, isReserved key = false → ∀ value, line.object.get? key = some (.string value) ↔
          GivesLast extra key value ∨
            key ∉ extra.map Prod.fst ∧ GivesLast scope.fields key value := by
  refine ⟨?_, ?_, ?_⟩
  · intro line
    have compact := Json.isCompact_json line.representable_object
    exact ⟨line.canonical_object, compact, Json.lineFeed_notMem_of_isCompact compact⟩
  · intro line fields distinct perm
    have distinct' : (fields.map Prod.fst).Nodup := (perm.map Prod.fst).nodup_iff.2 distinct
    have same : object { line with fields := fields } = line.object := by
      refine (canonical_object _).unique line.canonical_object rfl rfl fun key value => ?_
      rw [givesLast_iff_mem distinct, givesLast_iff_mem distinct', perm.mem_iff]
    rw [text, text, same]
  · intro scope severity phase extra enabled
    refine ⟨⟨severity, scope.name ++ "_" ++ phase, scope.fields ++ extra⟩, ?_, ?_⟩
    · rw [Scope.lines, if_pos enabled]
    · intro key plain value
      rw [(canonical_object _).get?_eq_string_iff plain, givesLast_append]

theorem lines_canonical_of_late_reason :
    let line : LogLine := ⟨.info, "TEST", [("zebra", "1"), ("apple", "2")]⟩
    let scope : Scope := .start "QUERY" [("query_id", "q1"), ("reason", "none")] true
    (line.fields.map Prod.fst).Nodup ∧
      text ⟨.info, "TEST", [("apple", "2"), ("zebra", "1")]⟩ = line.text ∧
      ∃ logged, scope.lines .error "FAILED" [("reason", "late")] = [logged] ∧
        logged.object.get? "reason" = some (.string "late") := by
  intro line scope
  have distinct : (line.fields.map Prod.fst).Nodup := by decide
  obtain ⟨logged, lines, shown⟩ :=
    lines_canonical.2.2 scope .error "FAILED" [("reason", "late")] rfl
  refine ⟨distinct, lines_canonical.2.1 line _ distinct (.swap _ _ _), logged, lines, ?_⟩
  exact (shown "reason" (by decide) "late").2 (.inl ⟨[], [], rfl, List.forall_mem_nil _⟩)

end LogLine

end TableQuery
