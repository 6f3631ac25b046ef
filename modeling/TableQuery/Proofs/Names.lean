import Mathlib.Data.List.Basic
import TableQuery.Names

/-! Names by their first appearance.

A list of names with repetitions is walked once, and each name is kept where it stands first. What
has been kept after any part of the walk is determined by that part: the members by what has been
passed, and the order by the places at which they stood first.
-/

set_option autoImplicit false

namespace TableQuery

theorem addMissing_eq (known names : List String) :
    addMissing known names = known ++ (names.filter (· ∉ known)).eraseDups := by
  induction names generalizing known with
  | nil => simp [addMissing]
  | cons name rest ih =>
    rw [addMissing, ih]
    by_cases held : name ∈ known
    · simp [held]
    · have later : (rest.filter (· ∉ known)).filter (fun other => !other == name) =
          rest.filter (· ∉ known ++ [name]) := by
        rw [List.filter_filter]
        apply List.filter_congr
        intro other _
        by_cases same : other = name <;> simp [same]
      rw [List.filter_cons_of_pos (by simpa using held), List.eraseDups_cons, later, if_neg held]
      simp

theorem addMissing_nil (names : List String) : addMissing [] names = names.eraseDups := by
  have all : names.filter (· ∉ []) = names := List.filter_eq_self.2 fun _ _ => by simp
  rw [addMissing_eq, all, List.nil_append]

theorem addMissing_map {rename : String → String} (injective : Function.Injective rename)
    (known names : List String) :
    addMissing (known.map rename) (names.map rename) = (addMissing known names).map rename := by
  induction names generalizing known with
  | nil => rfl
  | cons name rest ih =>
    have held : rename name ∈ known.map rename ↔ name ∈ known := by
      constructor
      · intro member
        obtain ⟨other, inside, same⟩ := List.mem_map.1 member
        exact injective same ▸ inside
      · exact List.mem_map_of_mem
    rw [List.map_cons, addMissing, addMissing]
    by_cases member : name ∈ known
    · rw [if_pos member, if_pos (held.2 member), ih]
    · rw [if_neg member, if_neg (mt held.1 member), ← ih, List.map_append]
      rfl

theorem addMissing_append (known first second : List String) :
    addMissing known (first ++ second) = addMissing (addMissing known first) second := by
  induction first generalizing known with
  | nil => rfl
  | cons name rest ih => exact ih _

theorem addMissing_of_mem {names : List String} {name : String} (member : name ∈ names)
    (known later : List String) :
    addMissing known (names ++ name :: later) = addMissing known (names ++ later) := by
  rw [addMissing_append, addMissing_append, addMissing, if_pos (mem_addMissing.2 (.inr member))]

theorem addMissing_of_nodup {names : List String} (distinct : names.Nodup) (known : List String) :
    addMissing known names = known ++ names.filter (· ∉ known) := by
  induction names generalizing known with
  | nil => simp [addMissing]
  | cons name rest ih =>
    obtain ⟨absent, distinct⟩ := List.nodup_cons.1 distinct
    rw [addMissing, ih distinct]
    by_cases held : name ∈ known
    · rw [if_pos held, List.filter_cons_of_neg (by simpa using held)]
    · have later : rest.filter (· ∉ known ++ [name]) = rest.filter (· ∉ known) := by
        apply List.filter_congr
        intro other member
        have apart : other ≠ name := fun same => absent (same ▸ member)
        simp [apart]
      rw [if_neg held, List.filter_cons_of_pos (by simpa using held), later, List.append_assoc,
        List.singleton_append]

/-- The kept names are the wanted ones among those that have been passed, in the order in which
they stood first. -/
structure FirstAppearances (wanted : String → Prop) (passed kept : List String) : Prop where
  mem_iff : ∀ name, name ∈ kept ↔ name ∈ passed ∧ wanted name
  ordered : kept.Pairwise fun earlier later => passed.idxOf earlier < passed.idxOf later

namespace FirstAppearances

variable {wanted : String → Prop} {passed kept other : List String}

theorem nil : FirstAppearances wanted [] [] :=
  ⟨by simp, .nil⟩

theorem ordered_append (first : FirstAppearances wanted passed kept) (rest : List String) :
    kept.Pairwise fun earlier later =>
      (passed ++ rest).idxOf earlier < (passed ++ rest).idxOf later := by
  apply first.ordered.imp_of_mem
  intro earlier later left right before
  rw [List.idxOf_append_of_mem ((first.mem_iff earlier).1 left).1,
    List.idxOf_append_of_mem ((first.mem_iff later).1 right).1]
  exact before

theorem pass (first : FirstAppearances wanted passed kept) {name : String}
    (known : wanted name → name ∈ kept) : FirstAppearances wanted (passed ++ [name]) kept where
  mem_iff one := by
    rw [first.mem_iff, List.mem_append, List.mem_singleton]
    constructor
    · rintro ⟨member, want⟩
      exact ⟨.inl member, want⟩
    · rintro ⟨member | rfl, want⟩
      · exact ⟨member, want⟩
      · exact (first.mem_iff one).1 (known want)
  ordered := first.ordered_append [name]

theorem keep (first : FirstAppearances wanted passed kept) {name : String} (want : wanted name)
    (fresh : name ∉ kept) : FirstAppearances wanted (passed ++ [name]) (kept ++ [name]) where
  mem_iff one := by
    rw [List.mem_append, List.mem_append, List.mem_singleton, first.mem_iff, or_and_right]
    apply or_congr_right
    constructor
    · rintro rfl
      exact ⟨rfl, want⟩
    · exact And.left
  ordered := by
    refine List.pairwise_append.2 ⟨first.ordered_append [name], List.pairwise_singleton _ _, ?_⟩
    intro earlier member later last
    obtain rfl := List.mem_singleton.1 last
    have unseen : later ∉ passed := fun seen => fresh ((first.mem_iff later).2 ⟨seen, want⟩)
    have seen := ((first.mem_iff earlier).1 member).1
    rw [List.idxOf_append_of_mem seen, List.idxOf_append_of_notMem unseen]
    exact Nat.lt_add_right _ (List.idxOf_lt_length_of_mem seen)

theorem walk [DecidablePred wanted] (first : FirstAppearances wanted passed kept)
    (rest : List String) :
    FirstAppearances wanted (passed ++ rest) (addMissing kept (rest.filter (wanted ·))) := by
  induction rest generalizing passed kept with
  | nil => simpa [addMissing] using first
  | cons name rest ih =>
    rw [List.append_cons]
    -- A name is kept, or passed because it is known, or because it is not wanted.
    by_cases want : wanted name
    · rw [List.filter_cons_of_pos (by simpa using want), addMissing]
      by_cases known : name ∈ kept
      · rw [if_pos known]
        exact ih (first.pass fun _ => known)
      · rw [if_neg known]
        exact ih (first.keep want known)
    · rw [List.filter_cons_of_neg (by simpa using want)]
      exact ih (first.pass fun wants => absurd wants want)

theorem nodup (first : FirstAppearances wanted passed kept) : kept.Nodup := by
  refine List.Pairwise.imp ?_ first.ordered
  rintro name _ before rfl
  exact Nat.lt_irrefl _ before

theorem unique (left : FirstAppearances wanted passed kept)
    (right : FirstAppearances wanted passed other) : kept = other := by
  have perm : kept.Perm other := (List.perm_ext_iff_of_nodup left.nodup right.nodup).2 fun name =>
    (left.mem_iff name).trans (right.mem_iff name).symm
  -- Two lists of the same names in one strict order are equal.
  exact perm.eq_of_pairwise (fun _ _ _ _ before behind => absurd behind (Nat.lt_asymm before))
    left.ordered right.ordered

end FirstAppearances

end TableQuery
