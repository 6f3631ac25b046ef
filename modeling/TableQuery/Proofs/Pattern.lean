import Mathlib.Logic.Relation
import TableQuery.Pattern

/-! LIKE patterns and the texts that have their form.

`Matches` says which texts have the form of a pattern, without a scan. A `Cursor` is a scan by
positions. The scan remembers only the last `%`: a match that an earlier one allows is a match that
the last one allows too, so `scan_iff` loses none.
-/

set_option autoImplicit false

namespace TableQuery.Pattern

variable {pattern following text rest : List Char} {back : Option Return} {c : Char}

/-- The text has the form of the pattern. -/
inductive Matches : List Char → List Char → Prop
  | done : Matches [] []
  | stretch {pattern text : List Char} (skipped : List Char) (tail : Matches pattern text) :
      Matches ('%' :: pattern) (skipped ++ text)
  | any {pattern text : List Char} (c : Char) (tail : Matches pattern text) :
      Matches ('_' :: pattern) (c :: text)
  | same {pattern text : List Char} {c : Char} (literal : c ≠ '%' ∧ c ≠ '_')
      (tail : Matches pattern text) : Matches (c :: pattern) (c :: text)

theorem matches_percent_iff :
    Matches ('%' :: pattern) text ↔
      ∃ skipped rest, text = skipped ++ rest ∧ Matches pattern rest := by
  constructor
  · intro held
    cases held with
    | stretch skipped tail => exact ⟨skipped, _, rfl, tail⟩
    | same literal tail => exact absurd rfl literal.1
  · intro held
    obtain ⟨skipped, rest, rfl, tail⟩ := held
    exact .stretch skipped tail

theorem Matches.widen (held : Matches ('%' :: pattern) text) (front : List Char) :
    Matches ('%' :: pattern) (front ++ text) := by
  obtain ⟨skipped, rest, rfl, tail⟩ := matches_percent_iff.1 held
  rw [← List.append_assoc]
  exact .stretch (front ++ skipped) tail

theorem matches_nil_iff : Matches pattern [] ↔ pattern.all (· == '%') = true := by
  induction pattern with
  | nil => exact ⟨fun _ => rfl, fun _ => .done⟩
  | cons p pattern ih =>
    rw [List.all_cons, Bool.and_eq_true, beq_iff_eq, ← ih]
    constructor
    · intro held
      generalize empty : ([] : List Char) = text at held
      cases held with
      | stretch skipped tail =>
        obtain ⟨rfl, rfl⟩ := List.append_eq_nil_iff.1 empty.symm
        exact ⟨rfl, tail⟩
      | any => cases empty
      | same => cases empty
    · intro held
      obtain ⟨rfl, tail⟩ := held
      exact .stretch [] tail

/-! What each move does to a match. -/

theorem eq_of_move_skip (moved : move c pattern = .skip following) :
    pattern = '%' :: following := by
  cases pattern with
  | nil => cases moved
  | cons p tail =>
    simp only [move] at moved
    split at moved
    · rename_i percent
      cases moved
      rw [percent]
    · split at moved <;> cases moved

theorem eq_of_move_take (moved : move c pattern = .take following) :
    ∃ p, pattern = p :: following ∧ p ≠ '%' ∧ (p = '_' ∨ p = c) := by
  cases pattern with
  | nil => cases moved
  | cons p tail =>
    simp only [move] at moved
    split at moved
    · cases moved
    · rename_i percent
      split at moved
      · rename_i takes
        cases moved
        exact ⟨p, rfl, percent, takes⟩
      · cases moved

theorem matches_of_move_take (moved : move c pattern = .take following) (text : List Char) :
    Matches pattern (c :: text) ↔ Matches following text := by
  obtain ⟨p, rfl, percent, takes⟩ := eq_of_move_take moved
  constructor
  · intro held
    generalize whole : c :: text = all at held
    cases held with
    | stretch => exact absurd rfl percent
    | any other tail | same literal tail =>
      cases whole
      exact tail
  · intro tail
    by_cases underscore : p = '_'
    · subst underscore
      exact .any c tail
    · obtain rfl := takes.resolve_left underscore
      exact .same ⟨percent, underscore⟩ tail

theorem not_matches_of_move_stuck (moved : move c pattern = .stuck) (text : List Char) :
    ¬Matches pattern (c :: text) := by
  intro held
  generalize whole : c :: text = all at held
  cases held with
  | done => cases whole
  | stretch => simp [move] at moved
  | any => simp [move] at moved
  | same literal =>
    cases whole
    simp [move, literal.1] at moved

/-! The point of return. -/

/-- A later try from the point of return has a match. -/
def Pending (back : Option Return) : Prop :=
  ∃ point ∈ back, ∃ first skipped rest, point.text = first :: skipped ++ rest ∧
    Matches point.pattern rest

/-- Since the point of return each character of the pattern has taken one of the text, and none of
them was a `%`. -/
def Abreast (text pattern : List Char) (back : Option Return) : Prop :=
  ∀ point ∈ back, ∃ taken passed, point.pattern = taken ++ pattern ∧
    point.text = passed ++ text ∧ taken.length = passed.length ∧ '%' ∉ taken

theorem Abreast.take {p : Char} (abreast : Abreast (c :: text) (p :: pattern) back)
    (percent : p ≠ '%') : Abreast text pattern back := by
  intro point member
  obtain ⟨taken, passed, shape, spent, level, free⟩ := abreast point member
  refine ⟨taken ++ [p], passed ++ [c], by simpa using shape, by simpa using spent, ?_, ?_⟩
  · rw [List.length_append, List.length_append, level, List.length_singleton,
      List.length_singleton]
  · rw [List.mem_append, List.mem_singleton, not_or]
    exact ⟨free, Ne.symm percent⟩

theorem abreast_here (text pattern : List Char) : Abreast text pattern (some ⟨pattern, text⟩) := by
  rintro _ ⟨⟩
  exact ⟨[], [], rfl, rfl, rfl, List.not_mem_nil⟩

/-- Without a `%` a pattern takes one character for each of its own. -/
theorem Matches.split {taken : List Char} (free : '%' ∉ taken)
    (held : Matches (taken ++ pattern) text) :
    ∃ passed rest, text = passed ++ rest ∧ taken.length = passed.length ∧ Matches pattern rest := by
  induction taken generalizing text with
  | nil => exact ⟨[], text, rfl, rfl, held⟩
  | cons p taken ih =>
    rw [List.mem_cons, not_or] at free
    cases held with
    | stretch => exact absurd rfl free.1
    | any c tail | same literal tail =>
      obtain ⟨passed, rest, rfl, level, later⟩ := ih free.2 tail
      exact ⟨_ :: passed, rest, rfl, congrArg (· + 1) level, later⟩

/-- A later try would go through the text at hand in its turn, and leave a later part of it. -/
theorem Pending.later (pending : Pending back) (abreast : Abreast text pattern back) :
    ∃ first skipped rest, text = first :: skipped ++ rest ∧ Matches pattern rest := by
  obtain ⟨point, member, first, skipped, rest, spent, held⟩ := pending
  obtain ⟨taken, passed, shape, spent', level, free⟩ := abreast point member
  rw [shape] at held
  obtain ⟨passed', rest', rfl, level', tail⟩ := held.split free
  have same : passed ++ text = first :: skipped ++ passed' ++ rest' := by
    rw [← spent', spent, List.append_assoc]
  -- The later try passes as many characters, but starts further on.
  rcases List.append_eq_append_iff.1 same with ⟨gap, longer, behind⟩ | ⟨gap, shorter, -⟩
  · cases gap with
    | nil =>
      have size := congrArg List.length longer
      simp only [List.length_append, List.length_cons, List.length_nil] at size
      omega
    | cons other gap => exact ⟨other, gap, rest', behind, tail⟩
  · have size := congrArg List.length shorter
    simp only [List.length_append, List.length_cons] at size
    omega

/-- A new `%` makes the earlier point of return dispensable. -/
theorem matches_of_pending (pending : Pending back)
    (abreast : Abreast text ('%' :: following) back) :
    Matches ('%' :: following) text := by
  obtain ⟨first, skipped, rest, rfl, held⟩ := pending.later abreast
  exact held.widen (first :: skipped)

theorem not_pending_at_end (abreast : Abreast [] pattern back) : ¬Pending back := by
  intro pending
  obtain ⟨first, skipped, rest, whole, -⟩ := pending.later abreast
  cases whole

theorem pending_here_iff {first : Char} :
    Pending (some ⟨pattern, first :: text⟩) ↔
      Matches pattern text ∨ Pending (some ⟨pattern, text⟩) := by
  constructor
  · rintro ⟨_, ⟨⟩, other, skipped, rest, whole, held⟩
    cases whole
    cases skipped with
    | nil => exact .inl held
    | cons second skipped => exact .inr ⟨_, rfl, second, skipped, rest, rfl, held⟩
  · rintro (held | ⟨_, ⟨⟩, second, skipped, rest, rfl, held⟩)
    · exact ⟨_, rfl, first, [], text, rfl, held⟩
    · exact ⟨_, rfl, first, second :: skipped, rest, rfl, held⟩

theorem matches_percent_iff_pending :
    Matches ('%' :: pattern) text ↔ Matches pattern text ∨ Pending (some ⟨pattern, text⟩) := by
  rw [matches_percent_iff]
  constructor
  · rintro ⟨skipped, rest, rfl, held⟩
    cases skipped with
    | nil => exact .inl held
    | cons first skipped => exact .inr ⟨_, rfl, first, skipped, rest, rfl, held⟩
  · rintro (held | ⟨_, ⟨⟩, first, skipped, rest, rfl, held⟩)
    · exact ⟨[], text, rfl, held⟩
    · exact ⟨first :: skipped, rest, rfl, held⟩

-- The point of return holds at least the text at hand, so it is spent only where there is none.
theorem eq_none_of_spent (within : Within (c :: rest) back)
    (spent : ∀ following head later (still : Within (c :: rest) (some ⟨following, head :: later⟩)),
      back = some ⟨following, head :: later⟩ → within ≍ still → False) : back = none := by
  cases back with
  | none => rfl
  | some point =>
    obtain ⟨following, later⟩ := point
    cases later with
    | nil => exact absurd (within _ rfl) (by simp)
    | cons head later => exact (spent following head later within rfl HEq.rfl).elim

/-- A scan succeeds when the text at hand has the form of the pattern, or a later try has. -/
theorem scan_iff (text pattern : List Char) (back : Option Return) (within : Within text back)
    (abreast : Abreast text pattern back) :
    scan text pattern back within = true ↔ Matches pattern text ∨ Pending back := by
  -- The text is used up, or a `%` opens, a character is taken, the scan returns, or it is stuck.
  fun_induction scan text pattern back within with
  | case1 pattern back within =>
    rw [or_iff_left (not_pending_at_end abreast), matches_nil_iff]
  | case2 pattern back within c rest following moved _ ih =>
    obtain rfl := eq_of_move_skip moved
    rw [ih (abreast_here _ _), ← matches_percent_iff_pending, or_iff_left_of_imp]
    exact fun pending => matches_of_pending pending abreast
  | case3 pattern back within c rest following moved _ ih =>
    obtain ⟨p, rfl, percent, -⟩ := eq_of_move_take moved
    rw [ih (abreast.take percent), matches_of_move_take moved]
  | case4 pattern c rest moved following head later within _ ih =>
    rw [ih (abreast_here _ _), or_iff_right (not_matches_of_move_stuck moved rest),
      pending_here_iff]
  | case5 pattern back c rest moved within spent =>
    obtain rfl := eq_none_of_spent within spent
    simp [Pending, not_matches_of_move_stuck moved]

/-! The scan by positions. -/

/-- Where a scan stands in the text and in the pattern, and both positions of its point of
return. -/
structure Cursor where
  text : Nat
  pattern : Nat
  back : Option (Nat × Nat)
  deriving DecidableEq, Repr

namespace Cursor

def start : Cursor :=
  ⟨0, 0, none⟩

/-- One round of the scan; there is none behind the text, and none where the scan is stuck without
a point of return. -/
def step (text pattern : List Char) (cursor : Cursor) : Option Cursor :=
  match text[cursor.text]? with
  | none => none
  | some c =>
    match move c (pattern.drop cursor.pattern) with
    | .skip _ => some ⟨cursor.text, cursor.pattern + 1, some (cursor.text, cursor.pattern + 1)⟩
    | .take _ => some ⟨cursor.text + 1, cursor.pattern + 1, cursor.back⟩
    | .stuck => cursor.back.map fun back => ⟨back.1 + 1, back.2, some (back.1 + 1, back.2)⟩

def Reaches (text pattern : List Char) : Cursor → Cursor → Prop :=
  Relation.ReflTransGen fun first next => first.step text pattern = some next

def Accepts (text pattern : List Char) (cursor : Cursor) : Prop :=
  text.length ≤ cursor.text ∧ (pattern.drop cursor.pattern).all (· == '%') = true

/-- No position is past the end of its text, and the point of return is not past the cursor. -/
structure Bounded (text pattern : List Char) (cursor : Cursor) : Prop where
  text_le : cursor.text ≤ text.length
  pattern_le : cursor.pattern ≤ pattern.length
  back_le : ∀ back ∈ cursor.back, back.1 ≤ cursor.text ∧ back.2 ≤ pattern.length

structure Leaves (whole shape : List Char) (cursor : Cursor) (text pattern : List Char)
    (back : Option Return) : Prop where
  text_eq : whole.drop cursor.text = text
  pattern_eq : shape.drop cursor.pattern = pattern
  back_eq : cursor.back.map (fun back => ⟨shape.drop back.2, whole.drop back.1⟩) = back

variable {whole shape : List Char} {cursor next : Cursor}

theorem lt_of_drop_eq_cons {position : Nat} (left : whole.drop position = c :: rest) :
    position < whole.length := by
  apply Nat.lt_of_not_le
  intro past
  rw [List.drop_eq_nil_of_le past] at left
  cases left

theorem getElem?_of_drop_eq_cons {position : Nat} (left : whole.drop position = c :: rest) :
    whole[position]? = some c := by
  rw [← List.head?_drop, left, List.head?_cons]

theorem drop_succ_of_drop_eq_cons {position : Nat} (left : whole.drop position = c :: rest) :
    whole.drop (position + 1) = rest := by
  rw [← List.tail_drop, left, List.tail_cons]

theorem Bounded.step (bounded : Bounded whole shape cursor)
    (steps : cursor.step whole shape = some next) : Bounded whole shape next := by
  simp only [Cursor.step] at steps
  split at steps
  · cases steps
  · rename_i c here
    obtain ⟨text_lt, -⟩ := List.getElem?_eq_some_iff.1 here
    split at steps
    · rename_i following moved
      cases steps
      have pattern_lt := lt_of_drop_eq_cons (eq_of_move_skip moved)
      refine ⟨bounded.text_le, pattern_lt, ?_⟩
      rintro _ ⟨⟩
      exact ⟨Nat.le_refl _, pattern_lt⟩
    · rename_i following moved
      cases steps
      obtain ⟨p, shown, -⟩ := eq_of_move_take moved
      refine ⟨text_lt, lt_of_drop_eq_cons shown, fun back member => ?_⟩
      obtain ⟨text_le, pattern_le⟩ := bounded.back_le back member
      exact ⟨Nat.le_succ_of_le text_le, pattern_le⟩
    · obtain ⟨back, member, rfl⟩ := Option.map_eq_some_iff.1 steps
      obtain ⟨text_le, pattern_le⟩ := bounded.back_le back member
      refine ⟨Nat.lt_of_le_of_lt text_le text_lt, pattern_le, ?_⟩
      rintro _ ⟨⟩
      exact ⟨Nat.le_refl _, pattern_le⟩

theorem bounded_start (whole shape : List Char) : Bounded whole shape start :=
  ⟨Nat.zero_le _, Nat.zero_le _, nofun⟩

theorem Bounded.of_reaches (bounded : Bounded whole shape cursor)
    (reaches : Reaches whole shape cursor next) : Bounded whole shape next := by
  induction reaches with
  | refl => exact bounded
  | tail _ steps ih => exact ih.step steps

namespace Leaves

theorem step_skip (leaves : Leaves whole shape cursor (c :: text) pattern back)
    (moved : move c pattern = .skip following) :
    ∃ next, cursor.step whole shape = some next ∧
      Leaves whole shape next (c :: text) following (some ⟨following, c :: text⟩) := by
  obtain ⟨text_eq, rfl, -⟩ := leaves
  have left := drop_succ_of_drop_eq_cons (eq_of_move_skip moved)
  refine ⟨⟨cursor.text, cursor.pattern + 1, some (cursor.text, cursor.pattern + 1)⟩, ?_, text_eq,
    left, ?_⟩
  · simp only [step, getElem?_of_drop_eq_cons text_eq, moved]
  · rw [Option.map_some, left, text_eq]

theorem step_take (leaves : Leaves whole shape cursor (c :: text) pattern back)
    (moved : move c pattern = .take following) :
    ∃ next, cursor.step whole shape = some next ∧ Leaves whole shape next text following back := by
  obtain ⟨text_eq, rfl, back_eq⟩ := leaves
  obtain ⟨p, shown, -⟩ := eq_of_move_take moved
  refine ⟨⟨cursor.text + 1, cursor.pattern + 1, cursor.back⟩, ?_,
    drop_succ_of_drop_eq_cons text_eq, drop_succ_of_drop_eq_cons shown, back_eq⟩
  simp only [step, getElem?_of_drop_eq_cons text_eq, moved]

theorem step_stuck {first : Char}
    (leaves : Leaves whole shape cursor (c :: text) pattern (some ⟨following, first :: rest⟩))
    (moved : move c pattern = .stuck) :
    ∃ next, cursor.step whole shape = some next ∧
      Leaves whole shape next rest following (some ⟨following, rest⟩) := by
  obtain ⟨text_eq, rfl, back_eq⟩ := leaves
  obtain ⟨⟨position, after⟩, member, same⟩ := Option.map_eq_some_iff.1 back_eq
  rw [Return.mk.injEq] at same
  obtain ⟨pattern_eq, spent⟩ := same
  have left := drop_succ_of_drop_eq_cons spent
  refine ⟨⟨position + 1, after, some (position + 1, after)⟩, ?_, left, pattern_eq, ?_⟩
  · simp only [step, getElem?_of_drop_eq_cons text_eq, moved, member, Option.map_some]
  · rw [Option.map_some, left, pattern_eq]

end Leaves

/-- From where a scan stands the rounds come to an end, and the last cursor tells its answer. -/
theorem exists_last (text pattern : List Char) (back : Option Return) (within : Within text back)
    (cursor : Cursor) (leaves : Leaves whole shape cursor text pattern back) :
    ∃ last, Reaches whole shape cursor last ∧ last.step whole shape = none ∧
      (scan text pattern back within = true ↔ last.Accepts whole shape) := by
  fun_induction scan text pattern back within generalizing cursor with
  | case1 pattern back within =>
    have used := List.drop_eq_nil_iff.1 leaves.text_eq
    refine ⟨cursor, .refl, ?_, ?_⟩
    · rw [step, List.getElem?_eq_none used]
    · rw [Accepts, leaves.pattern_eq, and_iff_right used]
  | case2 pattern back within c rest following moved _ ih =>
    obtain ⟨next, steps, leaves⟩ := leaves.step_skip moved
    obtain ⟨last, reaches, ends⟩ := ih next leaves
    exact ⟨last, .head steps reaches, ends⟩
  | case3 pattern back within c rest following moved _ ih =>
    obtain ⟨next, steps, leaves⟩ := leaves.step_take moved
    obtain ⟨last, reaches, ends⟩ := ih next leaves
    exact ⟨last, .head steps reaches, ends⟩
  | case4 pattern c rest moved following head later within _ ih =>
    obtain ⟨next, steps, leaves⟩ := leaves.step_stuck moved
    obtain ⟨last, reaches, ends⟩ := ih next leaves
    exact ⟨last, .head steps reaches, ends⟩
  | case5 pattern back c rest moved within spent =>
    -- There is no point of return, so the scan stops in front of the character.
    obtain ⟨text_eq, rfl, back_eq⟩ := leaves
    rw [eq_none_of_spent within spent, Option.map_eq_none_iff] at back_eq
    refine ⟨cursor, .refl, ?_, ?_⟩
    · simp only [step, getElem?_of_drop_eq_cons text_eq, moved, back_eq, Option.map_none]
    · have more := lt_of_drop_eq_cons text_eq
      simp only [Bool.false_eq_true, Accepts, false_iff, not_and]
      exact fun used => absurd more (Nat.not_lt_of_le used)

end Cursor

/-- The scan comes to an end for every text and pattern, its positions stay inside both of them,
and it answers whether the text has the form of the pattern. -/
theorem holds_iff_matches (pattern text : String) :
    (∃ last, Cursor.Reaches text.toList pattern.toList .start last ∧
        last.step text.toList pattern.toList = none ∧
        (holds pattern text = true ↔ last.Accepts text.toList pattern.toList)) ∧
      (∀ cursor, Cursor.Reaches text.toList pattern.toList .start cursor →
        cursor.Bounded text.toList pattern.toList) ∧
      (holds pattern text = true ↔ Matches pattern.toList text.toList) := by
  refine ⟨?_, fun cursor => (Cursor.bounded_start _ _).of_reaches, ?_⟩
  · exact Cursor.exists_last _ _ _ _ .start ⟨rfl, rfl, rfl⟩
  · have nothing : ¬Pending none := by simp [Pending]
    have abreast : Abreast text.toList pattern.toList none := nofun
    exact (scan_iff _ _ _ _ abreast).trans (or_iff_left nothing)

end TableQuery.Pattern
