import TableQuery.Log.Line
import TableQuery.Proofs.Order.Stability

/-! What log lines show.

A reader of a line sees its event and its severity, whatever its fields are called. Under any other
key it sees the last field that was given for the key, wherever the order of the keys puts it.
-/

set_option autoImplicit false

namespace TableQuery

section
variable {α β : Type}

theorem lookup_eq_head? (entries : List (String × α)) (key : String) :
    entries.lookup key = ((entries.filter (key == ·.1)).head?).map Prod.snd := by
  induction entries with
  | nil => rfl
  | cons entry rest ih =>
    obtain ⟨first, value⟩ := entry
    rw [List.lookup_cons, List.filter_cons, ih]
    cases key == first <;> rfl

theorem lookup_filter (keep : String → Bool) (entries : List (String × α)) (key : String) :
    (entries.filter (keep ·.1)).lookup key = if keep key then entries.lookup key else none := by
  rw [lookup_eq_head?, List.filter_filter]
  have same : ∀ entry ∈ entries,
      (key == entry.1 && keep entry.1) = (keep key && key == entry.1) := by
    intro entry _
    cases equal : key == entry.1 with
    | false => rw [Bool.and_false, Bool.false_and]
    | true => rw [beq_iff_eq.1 equal, Bool.and_comm]
  rw [List.filter_congr same]
  cases keep key with
  | false => simp
  | true => simp [lookup_eq_head?]

theorem lookup_map_snd (change : α → β) (entries : List (String × α)) (key : String) :
    (entries.map fun entry => (entry.1, change entry.2)).lookup key =
      (entries.lookup key).map change := by
  induction entries with
  | nil => rfl
  | cons entry rest ih =>
    rw [List.map_cons, List.lookup_cons, List.lookup_cons, ih]
    cases key == entry.1 <;> rfl

end

namespace LogLine

theorem isReserved_eq_false_iff {key : String} :
    isReserved key = false ↔ key ≠ "event" ∧ key ≠ "severity" := by
  simp [isReserved]

/-- Sorting by keys leaves the last field of a key the last. -/
theorem lookup_sortedFields (line : LogLine) (key : String) :
    line.sortedFields.reverse.lookup key = line.fields.reverse.lookup key := by
  have sorted : StablySorted (compareOn Prod.fst) line.fields line.sortedFields :=
    stablySorted_mergeSort line.fields
  have stable := sorted.stable (key, "")
  have alike (field : String × String) :
      (compareOn Prod.fst (key, "") field == .eq) = (key == field.1) := by
    rw [Bool.eq_iff_iff, beq_iff_eq, beq_iff_eq]
    exact Std.compare_eq_iff_eq
  simp only [alike] at stable
  rw [lookup_eq_head?, lookup_eq_head?, List.filter_reverse, List.filter_reverse]
  exact congrArg (fun fields => (fields.reverse.head?).map Prod.snd) stable

theorem get?_object (line : LogLine) (key : String) :
    line.object.get? key =
      if key = "event" then some (.string line.event)
      else if key = "severity" then some (.string line.severity.name)
      else (line.fields.reverse.lookup key).map .string := by
  have plain : isReserved key = (key == "event" || key == "severity") := rfl
  rw [object, Row.get?_ofEntries, List.reverse_cons, List.reverse_cons, List.append_assoc,
    List.lookup_append, ← List.map_reverse, lookup_map_snd, ← List.filter_reverse,
    lookup_filter (! isReserved ·), lookup_sortedFields, plain]
  by_cases event : key = "event"
  · simp [event, List.lookup_cons]
  · by_cases severity : key = "severity"
    · simp [severity]
    · simp [List.lookup_cons, event, severity, beq_false_of_ne event, beq_false_of_ne severity]

/-- The text that a line shows under a key. -/
def shown? (line : LogLine) (key : String) : Option String :=
  match line.object.get? key with
  | some (.string text) => some text
  | _ => none

@[simp] theorem shown?_event (line : LogLine) : line.shown? "event" = some line.event := by
  rw [shown?, get?_object, if_pos rfl]

theorem shown?_of_not_reserved (line : LogLine) {key : String} (plain : isReserved key = false) :
    line.shown? key = line.fields.reverse.lookup key := by
  obtain ⟨notEvent, notSeverity⟩ := isReserved_eq_false_iff.1 plain
  rw [shown?, get?_object, if_neg notEvent, if_neg notSeverity]
  cases line.fields.reverse.lookup key <;> rfl

end LogLine

end TableQuery
