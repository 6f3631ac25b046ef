import TableQuery.Command.Arguments
import TableQuery.Proofs.Traversal

/-! Options among the arguments.

An accepted `query` command logs if and only if `--log` stands among its options: neither the values
of other options nor the text behind `--` can ask for it, and no later argument takes it back.
-/

set_option autoImplicit false

namespace TableQuery.Command

/-- Whether `--log` is given. Behind `--` it is text. -/
def AsksForLog (arguments : List String) : Prop :=
  "--log" ∈ arguments.takeWhile (· != "--")

theorem cutAtEquals_of_none {text : List Char} (uncut : (cutAtEquals text).2 = none) :
    (cutAtEquals text).1 = text := by
  induction text with
  | nil => rfl
  | cons c rest ih =>
    unfold cutAtEquals at uncut ⊢
    split at uncut
    · cases uncut
    · rename_i other
      rw [if_neg other]
      exact congrArg (c :: ·) (ih uncut)

theorem ofArgument_eq_escape_iff {argument : String} :
    Form.ofArgument argument = .escape ↔ argument = "--" := by
  constructor
  · intro form
    unfold Form.ofArgument at form
    split at form
    · rename_i same
      exact String.toList_inj.1 same
    all_goals cases form
  · rintro rfl
    rfl

theorem toList_of_ofArgument_eq_long {argument name : String}
    (form : Form.ofArgument argument = .long name none) :
    argument.toList = '-' :: '-' :: name.toList := by
  unfold Form.ofArgument at form
  split at form
  · cases form
  · rename_i rest _ same
    simp only [Form.long.injEq, Option.map_eq_none_iff] at form
    obtain ⟨rfl, uncut⟩ := form
    rw [same, String.toList_ofList, cutAtEquals_of_none uncut]
  all_goals cases form

theorem ofArgument_eq_log_iff {argument : String} :
    Form.ofArgument argument = .long "log" none ↔ argument = "--log" := by
  constructor
  · intro form
    exact String.toList_inj.1 (toList_of_ofArgument_eq_long form)
  · rintro rfl
    rfl

theorem queryOption?_eq_log_iff {name : String} :
    queryOption? name = some (.flag .log) ↔ name = "log" := by
  constructor
  · intro found
    unfold queryOption? at found
    split at found
    · cases found
    · split at found
      · cases found
      · split at found
        · cases found
        · split at found
          · assumption
          · cases found
  · rintro rfl
    rfl

namespace Draft

variable {draft next : Draft}

/-- Neither the end of the options nor the wish for a log differs. -/
structure Alike (first second : Draft) : Prop where
  escaped : second.escaped = first.escaped
  log : second.log = first.log

theorem alike_of_store {option : Valued} {value : String}
    (stored : draft.store option value = .ok next) : draft.Alike next := by
  unfold store at stored
  split at stored
  · cases stored
  · split at stored
    · cases stored
    · cases stored
      cases option <;> exact ⟨rfl, rfl⟩

theorem alike_of_settle (settled : draft.settle = .ok next) : draft.Alike next := by
  unfold settle at settled
  split at settled
  · cases settled
    exact ⟨rfl, rfl⟩
  · cases settled
  · have same := alike_of_store settled
    exact ⟨same.escaped, same.log⟩

theorem alike_of_addText {argument : String} (added : draft.addText argument = .ok next) :
    draft.Alike next := by
  unfold addText at added
  split at added
  · cases added
  · obtain ⟨settled, settles, rfl⟩ := map_eq_ok_iff.1 added
    have same := alike_of_settle settles
    exact ⟨same.escaped, same.log⟩

theorem alike_of_addPlain {argument : String} (added : draft.addPlain argument = .ok next) :
    draft.Alike next := by
  unfold addPlain at added
  split at added
  · cases added
    exact ⟨rfl, rfl⟩
  · exact alike_of_addText added

theorem flags_of_raise {flag : Flag} (raised : draft.raise flag = .ok next) :
    next.escaped = draft.escaped ∧ next.log = (draft.log || flag == .log) := by
  cases flag with
  | inferNumbers =>
    simp only [raise] at raised
    split at raised <;> cases raised
    exact ⟨rfl, (Bool.or_false _).symm⟩
  | log =>
    simp only [raise] at raised
    split at raised <;> cases raised
    exact ⟨rfl, (Bool.or_true _).symm⟩

theorem flags_of_addLong {name : String} {value : Option String}
    (added : draft.addLong queryOption? name value = .ok next) :
    next.escaped = draft.escaped ∧
      next.log = (draft.log || (name == "log" && value.isNone)) := by
  unfold addLong at added
  split at added
  · split at added
    · cases added
    · obtain ⟨_, _, refused⟩ := bind_eq_ok_iff.1 added
      cases refused
  · split at added
    · cases added
    · rename_i flag known
      split at added
      · cases added
      · rename_i bare
        obtain ⟨settled, settles, raised⟩ := bind_eq_ok_iff.1 added
        obtain ⟨escaped, log⟩ := flags_of_raise raised
        have same := alike_of_settle settles
        have named : (name == "log" && value.isNone) = (flag == .log) := by
          rw [Bool.not_eq_true, Option.isSome_eq_false_iff] at bare
          rw [bare, Bool.and_true, Bool.eq_iff_iff, beq_iff_eq, beq_iff_eq,
            ← queryOption?_eq_log_iff, known, Option.some_inj, Switch.flag.injEq]
        exact ⟨escaped.trans same.escaped, by rw [log, same.log, named]⟩
    · rename_i option known
      have other : (name == "log") = false := by
        rw [beq_eq_false_iff_ne, Ne, ← queryOption?_eq_log_iff, known]
        exact nofun
      obtain ⟨settled, settles, stored⟩ := bind_eq_ok_iff.1 added
      have same := alike_of_settle settles
      rw [other, Bool.false_and, Bool.or_false, ← same.escaped, ← same.log]
      split at stored
      · have alike := alike_of_store stored
        exact ⟨alike.escaped, alike.log⟩
      · cases stored
        exact ⟨rfl, rfl⟩

theorem flags_of_add {argument : String} (added : draft.add queryOption? argument = .ok next) :
    next.escaped = (draft.escaped || argument == "--") ∧
      next.log = (draft.log || (!draft.escaped && argument == "--log")) := by
  unfold add at added
  split at added
  · rename_i ended
    have same := alike_of_addText added
    rw [same.escaped, same.log, ended]
    exact ⟨rfl, (Bool.or_false _).symm⟩
  · rename_i ongoing
    rw [Bool.not_eq_true] at ongoing
    rw [ongoing, Bool.false_or, Bool.not_false, Bool.true_and]
    split at added
    · rename_i form
      cases added
      rw [ofArgument_eq_escape_iff.1 form]
      exact ⟨rfl, (Bool.or_false _).symm⟩
    · rename_i name value form
      obtain ⟨escaped, log⟩ := flags_of_addLong added
      have inside : (argument == "--") = false := by
        rw [beq_eq_false_iff_ne]
        rintro rfl
        cases form
      have wish : (argument == "--log") = (name == "log" && value.isNone) := by
        rw [Bool.eq_iff_iff, beq_iff_eq, Bool.and_eq_true, beq_iff_eq, Option.isNone_iff_eq_none,
          ← ofArgument_eq_log_iff, form, Form.long.injEq]
      rw [escaped, log, inside, wish, ongoing]
      exact ⟨rfl, rfl⟩
    · split at added
      · obtain ⟨_, _, refused⟩ := bind_eq_ok_iff.1 added
        cases refused
      · cases added
    · rename_i form
      have same := alike_of_addPlain added
      have other : (argument == "--") = false ∧ (argument == "--log") = false := by
        constructor <;> rw [beq_eq_false_iff_ne] <;> rintro rfl <;> cases form
      rw [same.escaped, same.log, ongoing, other.1, other.2]
      exact ⟨rfl, (Bool.or_false _).symm⟩

theorem log_of_foldlM {arguments : List String}
    (read : arguments.foldlM (add queryOption?) draft = .ok next) :
    next.log = true ↔ draft.log = true ∨ (draft.escaped = false ∧ AsksForLog arguments) := by
  induction arguments generalizing draft with
  | nil =>
    cases read
    simp [AsksForLog]
  | cons argument rest ih =>
    rw [List.foldlM_cons] at read
    obtain ⟨middle, added, later⟩ := bind_eq_ok_iff.1 read
    obtain ⟨escaped, log⟩ := flags_of_add added
    rw [ih later, escaped, log, AsksForLog, AsksForLog, List.takeWhile_cons]
    by_cases ends : argument = "--"
    · simp [ends]
    · simp [ends, @eq_comm _ "--log" argument, or_assoc, and_or_left]

end Draft

theorem log_iff_of_accepted {arguments : List String} {options : QueryOptions}
    {text : Option String} (accepted : ofArguments arguments = .ok (.query options text)) :
    options.log = true ↔ AsksForLog arguments := by
  cases arguments with
  | nil => cases accepted
  | cons name rest =>
    simp only [ofArguments] at accepted
    split at accepted
    · rename_i query
      obtain ⟨draft, read, same⟩ := bind_eq_ok_iff.1 accepted
      cases same
      obtain ⟨last, folded, settled⟩ := bind_eq_ok_iff.1 read
      have alike := Draft.alike_of_settle settled
      have asked := Draft.log_of_foldlM folded
      rw [← alike.log] at asked
      simpa [AsksForLog, query] using asked
    · split at accepted
      · obtain ⟨draft, -, same⟩ := bind_eq_ok_iff.1 accepted
        cases same
      · split at accepted <;> cases accepted

end TableQuery.Command
