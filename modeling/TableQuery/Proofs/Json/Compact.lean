import TableQuery.Json.Printer
import TableQuery.Proofs.Text.Trimming
import TableQuery.Proofs.Values

/-! Compact JSON text.

The grammar of JSON documents without white space between their parts stands beside the printer. It
says of each text which value it represents: a number is read back as a literal, and a string gives
each of its characters in one way or another. Every value is printed as a text that represents it,
if its numbers have the format of floating-point numbers, and no text of the grammar holds a control
character.
-/

set_option autoImplicit false

namespace TableQuery

namespace Json

/-- What may follow a backslash, and the characters that it stands for there. -/
def marks : List (Char × Char) :=
  [('"', '"'), ('\\', '\\'), ('/', '/'), ('b', '\x08'), ('f', '\x0c'), ('n', '\n'), ('r', '\r'),
   ('t', '\t')]

inductive IsCharacter : Char → List Char → Prop where
  | plain {c : Char} : c ≠ '"' → c ≠ '\\' → 0x20 ≤ c.toNat → IsCharacter c [c]
  | mark {mark c : Char} : (mark, c) ∈ marks → IsCharacter c ['\\', mark]
  | unit {c : Char} {digits : List Char} {values : List Nat} : digits.length = 4 →
      digits.map hexValue? = values.map some →
      values.foldl (fun value digit => 16 * value + digit) 0 = c.toNat →
      IsCharacter c ('\\' :: 'u' :: digits)

inductive IsString : String → List Char → Prop where
  | quoted {characters : List (Char × List Char)} :
      (∀ character ∈ characters, IsCharacter character.1 character.2) →
      IsString (String.ofList (characters.map Prod.fst))
        ('"' :: (characters.map Prod.snd).flatten ++ ['"'])

/-- The value that a text represents. -/
inductive IsCompact : Value → List Char → Prop where
  | null : IsCompact .null "null".toList
  | bool (value : Bool) :
      IsCompact (.bool value) (if value then "true".toList else "false".toList)
  | int {value : Int} {text : List Char} : IsNumber text → Literal.integer? text = some value →
      IsCompact (.int value) text
  | float {value : Double} {text : List Char} : IsNumber text → Literal.integer? text = none →
      Literal.ofText? text = some (.finite value) → IsCompact (.float value) text
  | string {value : String} {text : List Char} : IsString value text →
      IsCompact (.string value) text
  | array {items : List (Value × List Char)} : (∀ item ∈ items, IsCompact item.1 item.2) →
      IsCompact (.array (items.map Prod.fst))
        ('[' :: [','].intercalate (items.map Prod.snd) ++ [']'])
  | object {members : List ((String × List Char) × Value × List Char)} :
      (∀ member ∈ members, IsString member.1.1 member.1.2) →
      (∀ member ∈ members, IsCompact member.2.1 member.2.2) →
      IsCompact (.object (members.map fun member => (member.1.1, member.2.1)))
        ('\x7b' :: [','].intercalate (members.map fun member => member.1.2 ++ ':' :: member.2.2) ++
          ['\x7d'])

theorem hexValue?_digitChar {n : Nat} (digit : n < 16) :
    hexValue? (Nat.digitChar n) = some n := by
  have all : ∀ n : Fin 16, hexValue? (Nat.digitChar n) = some n.val := by decide
  exact all ⟨n, digit⟩

theorem isCharacter_escape (c : Char) : IsCharacter c (escape c) := by
  unfold escape
  split
  · rename_i same
    exact .mark (by simp [marks, same])
  rename_i noQuote
  split
  · rename_i same
    exact .mark (by simp [marks, same])
  rename_i noBackslash
  iterate 5
    split
    · rename_i same
      exact .mark (by simp [marks, same])
  split
  · rename_i control
    have high := @hexValue?_digitChar (c.toNat / 16) (by omega)
    have low := @hexValue?_digitChar (c.toNat % 16) (by omega)
    have values : ['0', '0', Nat.digitChar (c.toNat / 16), Nat.digitChar (c.toNat % 16)].map
        hexValue? = [0, 0, c.toNat / 16, c.toNat % 16].map some := by
      rw [List.map_cons, List.map_cons, List.map_cons, List.map_singleton, high, low]
      rfl
    refine .unit rfl values ?_
    simp only [List.foldl_cons, List.foldl_nil]
    omega
  · rename_i visible
    exact .plain noQuote noBackslash (Nat.le_of_not_lt visible)

theorem isString_quoted (text : String) : IsString text (quoted text) := by
  have written := @IsString.quoted (text.toList.map fun c => (c, escape c))
  simp only [List.forall_mem_map, List.map_map, Function.comp_def, List.map_id'] at written
  rw [String.ofList_toList, ← List.flatMap_def] at written
  exact written fun c _ => isCharacter_escape c

theorem itemChars_eq_map (items : List Value) : itemChars items = items.map chars := by
  induction items with
  | nil => rfl
  | cons item rest ih => rw [itemChars, ih, List.map_cons]

theorem fieldChars_eq_map (fields : List (String × Value)) :
    fieldChars fields = fields.map fun field => quoted field.1 ++ ':' :: chars field.2 := by
  induction fields with
  | nil => rfl
  | cons field rest ih => rw [fieldChars, ih, List.map_cons]

theorem isCompact_chars {value : Value} (representable : value.Representable) :
    IsCompact value (chars value) := by
  induction representable with
  | null => exact .null
  | bool value => cases value <;> exact .bool _
  | int value => exact .int (isNumber_intText value) (Literal.integer?_intText value)
  | float representable =>
    exact .float (Double.isNumber_text _) (Double.integer?_text _)
      (Double.ofText?_text representable)
  | string value => exact .string (isString_quoted value)
  | @array items _ each =>
    have written := @IsCompact.array (items.map fun item => (item, chars item))
    simp only [List.forall_mem_map, List.map_map, Function.comp_def, List.map_id'] at written
    rw [chars, itemChars_eq_map]
    exact written each
  | @object fields _ each =>
    have written := @IsCompact.object
      (fields.map fun field => ((field.1, quoted field.1), field.2, chars field.2))
    simp only [List.forall_mem_map, List.map_map, Function.comp_def, List.map_id'] at written
    rw [chars, fieldChars_eq_map]
    exact written (fun field _ => isString_quoted field.1) each

theorem isCompact_json {value : Value} (representable : value.Representable) :
    IsCompact value value.json.toList := by
  rw [Value.json, String.toList_ofList]
  exact isCompact_chars representable

def Printable (text : List Char) : Prop :=
  ∀ c ∈ text, 0x20 ≤ c.toNat

instance (text : List Char) : Decidable (Printable text) :=
  List.decidableBAll (fun c : Char => 0x20 ≤ c.toNat) text

section
variable {first second : List Char}

theorem printable_append (before : Printable first) (after : Printable second) :
    Printable (first ++ second) :=
  List.forall_mem_append.2 ⟨before, after⟩

theorem printable_cons {c : Char} (visible : 0x20 ≤ c.toNat) (after : Printable second) :
    Printable (c :: second) :=
  List.forall_mem_cons.2 ⟨visible, after⟩

end

theorem printable_intercalate {parts : List (List Char)}
    (each : ∀ part ∈ parts, Printable part) : Printable ([','].intercalate parts) := by
  cases parts with
  | nil => exact List.forall_mem_nil _
  | cons first rest =>
    obtain ⟨here, later⟩ := List.forall_mem_cons.1 each
    rw [Text.intercalate_cons]
    refine printable_append here fun c member => ?_
    obtain ⟨part, inside, member⟩ := List.mem_flatMap.1 member
    exact printable_cons (by decide) (later part inside) c member

theorem le_toNat_of_isDigit {c : Char} (digit : c.isDigit = true) : 0x20 ≤ c.toNat := by
  simp only [Char.isDigit, Bool.and_eq_true, decide_eq_true_eq] at digit
  have first : '0'.toNat ≤ c.toNat := UInt32.le_iff_toNat_le.1 digit.1
  exact Nat.le_trans (by decide) first

theorem printable_of_areDigits {text : List Char} (digits : AreDigits text) : Printable text :=
  fun c member => le_toNat_of_isDigit (digits.digits c member)

theorem printable_of_isFraction {text : List Char} (fraction : IsFraction text) :
    Printable text := by
  cases fraction with
  | absent => exact List.forall_mem_nil _
  | point digits => exact printable_cons (by decide) (printable_of_areDigits digits)

theorem printable_of_isExponent {text : List Char} (exponent : IsExponent text) :
    Printable text := by
  have visible : Printable ['e', 'E'] := by decide
  have printable : ∀ sign ∈ [[], ['+'], ['-']], Printable sign := by decide
  cases exponent with
  | absent => exact List.forall_mem_nil _
  | mark letter sign digits =>
    exact printable_cons (visible _ letter)
      (printable_append (printable _ sign) (printable_of_areDigits digits))

theorem printable_of_isMagnitude {text : List Char} (magnitude : IsMagnitude text) :
    Printable text := by
  cases magnitude with
  | written whole fraction exponent =>
    exact printable_append
      (printable_append (printable_of_areDigits whole.areDigits) (printable_of_isFraction fraction))
      (printable_of_isExponent exponent)

theorem printable_of_isNumber {text : List Char} (number : IsNumber text) : Printable text := by
  cases number with
  | positive magnitude => exact printable_of_isMagnitude magnitude
  | negative magnitude => exact printable_cons (by decide) (printable_of_isMagnitude magnitude)

theorem le_toNat_of_hexValue? {c : Char} {n : Nat} (digit : hexValue? c = some n) :
    0x20 ≤ c.toNat := by
  unfold hexValue? at digit
  split at digit
  · rename_i decimal
    exact le_toNat_of_isDigit decimal
  · split at digit
    · rename_i letter
      have first : 'a'.toNat ≤ c.toNat := UInt32.le_iff_toNat_le.1 letter.1
      exact Nat.le_trans (by decide) first
    · split at digit
      · rename_i letter
        have first : 'A'.toNat ≤ c.toNat := UInt32.le_iff_toNat_le.1 letter.1
        exact Nat.le_trans (by decide) first
      · cases digit

theorem printable_of_isCharacter {c : Char} {text : List Char} (character : IsCharacter c text) :
    Printable text := by
  have visible : Printable (marks.map Prod.fst) := by decide
  cases character with
  | plain _ _ within => exact List.forall_mem_singleton.2 within
  | mark known =>
    have member := List.mem_map_of_mem (f := Prod.fst) known
    exact printable_cons (by decide) (List.forall_mem_singleton.2 (visible _ member))
  | unit _ values _ =>
    refine printable_cons (by decide) (printable_cons (by decide) fun digit member => ?_)
    have valued := List.mem_map_of_mem (f := hexValue?) member
    rw [values] at valued
    obtain ⟨n, -, same⟩ := List.mem_map.1 valued
    exact le_toNat_of_hexValue? same.symm

theorem printable_of_isString {value : String} {text : List Char} (string : IsString value text) :
    Printable text := by
  cases string with
  | quoted characters =>
    refine printable_append (printable_cons (by decide) ?_) (by decide)
    intro c member
    obtain ⟨written, inside, member⟩ := List.mem_flatten.1 member
    obtain ⟨character, listed, rfl⟩ := List.mem_map.1 inside
    exact printable_of_isCharacter (characters character listed) c member

/-- Compact JSON stands on one line. -/
theorem printable_of_isCompact {value : Value} {text : List Char} (compact : IsCompact value text) :
    Printable text := by
  induction compact with
  | null => decide
  | bool value => cases value <;> decide
  | int number => exact printable_of_isNumber number
  | float number => exact printable_of_isNumber number
  | string string => exact printable_of_isString string
  | array _ each =>
    refine printable_append (printable_cons (by decide) (printable_intercalate ?_)) (by decide)
    exact List.forall_mem_map.2 each
  | object keys _ values =>
    refine printable_append (printable_cons (by decide) (printable_intercalate ?_)) (by decide)
    rw [List.forall_mem_map]
    intro member inside
    exact printable_append (printable_of_isString (keys member inside))
      (printable_cons (by decide) (values member inside))

theorem lineFeed_notMem_of_isCompact {value : Value} {text : List Char}
    (compact : IsCompact value text) : '\n' ∉ text := by
  intro member
  exact absurd (printable_of_isCompact compact '\n' member) (by decide)

end Json

end TableQuery
