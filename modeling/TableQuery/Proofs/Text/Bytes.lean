import Mathlib.Data.List.Basic

/-! The bytes of a text.

A character of ASCII is a single byte, and no byte of another character is one of ASCII. So wherever
a byte of ASCII is met, a character stands there.
-/

set_option autoImplicit false

namespace TableQuery.Text

def bytes (text : List Char) : List UInt8 :=
  text.flatMap String.utf8EncodeChar

variable {text rest : List Char} {c mark : Char} {b : UInt8} {i : Nat}

@[simp] theorem bytes_nil : bytes [] = [] := rfl

@[simp] theorem bytes_cons (c : Char) (text : List Char) :
    bytes (c :: text) = String.utf8EncodeChar c ++ bytes text := rfl

@[simp] theorem bytes_append (first second : List Char) :
    bytes (first ++ second) = bytes first ++ bytes second :=
  List.flatMap_append

theorem bytes_eq_nil_iff : bytes text = [] ↔ text = [] := by
  cases text <;> simp [String.utf8EncodeChar_ne_nil]

theorem toByteArray_bytes (text : String) : (bytes text.toList).toByteArray = text.toByteArray := by
  conv_rhs => rw [← text.ofList_toList, String.toByteArray_ofList]
  rfl

theorem length_bytes (text : String) : (bytes text.toList).length = text.utf8ByteSize := by
  rw [← String.size_toByteArray, ← toByteArray_bytes, List.size_toByteArray]

/-- A byte of ASCII is a character. -/
theorem utf8EncodeChar_of_mem (member : b ∈ String.utf8EncodeChar c) (low : b.toNat < 128) :
    String.utf8EncodeChar c = [b] ∧ c.toNat = b.toNat := by
  unfold String.utf8EncodeChar at member ⊢
  dsimp only at member ⊢
  split at member
  · rename_i ascii
    obtain rfl := List.mem_singleton.1 member
    rw [if_pos ascii]
    refine ⟨rfl, ?_⟩
    rw [UInt8.toNat_ofNat', Nat.mod_eq_of_lt (by omega)]
    rfl
  -- The bytes of all other characters begin with a set bit.
  all_goals
    exfalso
    repeat' split at member
    all_goals
      simp only [List.mem_cons, List.not_mem_nil, or_false] at member
      rcases member with rfl | rfl | rfl | rfl
      all_goals
        rw [UInt8.toNat_ofNat'] at low
        omega

theorem eq_toUInt8_iff (member : b ∈ String.utf8EncodeChar c) (ascii : mark.toNat < 128) :
    b = mark.toUInt8 ↔ c = mark := by
  have size : mark.utf8Size = 1 :=
    Char.utf8Size_eq_one_iff.2 (UInt32.le_iff_toNat_le.2 (Nat.le_of_lt_succ ascii))
  constructor
  · rintro rfl
    have low : mark.toUInt8.toNat = mark.toNat := by
      rw [Char.toUInt8, UInt32.toNat_toUInt8]
      exact Nat.mod_eq_of_lt (Nat.lt_trans ascii (by decide))
    apply Char.toNat_inj.1
    rw [(utf8EncodeChar_of_mem member (low ▸ ascii)).2, low]
  · rintro rfl
    rw [String.utf8EncodeChar_eq_singleton size] at member
    exact List.mem_singleton.1 member

theorem beq_toUInt8 (member : b ∈ String.utf8EncodeChar c) (ascii : mark.toNat < 128) :
    (b == mark.toUInt8) = (c == mark) := by
  rw [Bool.eq_iff_iff, beq_iff_eq, beq_iff_eq, eq_toUInt8_iff member ascii]

theorem exists_head?_bytes (c : Char) (text : List Char) :
    ∃ b ∈ String.utf8EncodeChar c, (bytes (c :: text)).head? = some b := by
  obtain ⟨b, more, encoded⟩ := List.exists_cons_of_ne_nil (String.utf8EncodeChar_ne_nil (c := c))
  exact ⟨b, by simp [encoded], by simp [encoded]⟩

theorem exists_getLast?_bytes (text : List Char) (c : Char) :
    ∃ b ∈ String.utf8EncodeChar c, (bytes (text ++ [c])).getLast? = some b := by
  have nonempty : String.utf8EncodeChar c ≠ [] := String.utf8EncodeChar_ne_nil
  refine ⟨_, List.getLast_mem nonempty, ?_⟩
  rw [bytes_append, bytes_cons, bytes_nil, List.append_nil,
    List.getLast?_append_of_ne_nil _ nonempty, List.getLast?_eq_some_getLast]

theorem exists_of_getElem?_bytes (found : (bytes text)[i]? = some b) (low : b.toNat < 128) :
    ∃ before c after, text = before ++ c :: after ∧ (bytes before).length = i ∧
      String.utf8EncodeChar c = [b] := by
  induction text generalizing i with
  | nil => simp at found
  | cons c text ih =>
    rw [bytes_cons] at found
    by_cases here : i < (String.utf8EncodeChar c).length
    · rw [List.getElem?_append_left here] at found
      have encoded := (utf8EncodeChar_of_mem (List.mem_of_getElem? found) low).1
      rw [encoded, List.length_singleton, Nat.lt_one_iff] at here
      exact ⟨[], c, text, rfl, here.symm, encoded⟩
    · rw [List.getElem?_append_right (Nat.not_lt.1 here)] at found
      obtain ⟨before, other, after, rfl, place, encoded⟩ := ih found
      refine ⟨c :: before, other, after, rfl, ?_, encoded⟩
      rw [bytes_cons, List.length_append, place]
      omega

theorem prefix_of_bytes_prefix (front : bytes text <+: bytes rest) : text <+: rest := by
  obtain ⟨more, same⟩ := front
  apply List.isPrefix_of_utf8Encode_append_eq_utf8Encode more.toByteArray
  rw [List.utf8Encode, List.utf8Encode, ← List.toByteArray_append]
  exact congrArg List.toByteArray same

theorem bytes_injective : Function.Injective bytes := by
  intro first second same
  have front : first <+: second := prefix_of_bytes_prefix (same ▸ List.prefix_rfl)
  obtain ⟨rest, rfl⟩ := front
  rw [bytes_append, List.self_eq_append_right, bytes_eq_nil_iff] at same
  rw [same, List.append_nil]

theorem getElem?_bytes_append (before rest : List Char) :
    (bytes (before ++ rest))[(bytes before).length]? = (bytes rest).head? := by
  rw [bytes_append, List.getElem?_append_right (Nat.le_refl _), Nat.sub_self, List.head?_eq_getElem?]

end TableQuery.Text
