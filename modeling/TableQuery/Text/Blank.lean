import TableQuery.Text.Interval

/-! White space, in two classes, and cutting text at characters.

`isBlank` is the Unicode property White_Space: trimming and splitting into words use it.
`isSpace` is its ASCII part without the vertical tab: only that part separates keywords.
-/

set_option autoImplicit false

namespace TableQuery.Text

/-- The Unicode property White_Space. -/
def blank : List (Nat × Nat) :=
  [(0x9, 0xD), (0x20, 0x20), (0x85, 0x85), (0xA0, 0xA0), (0x1680, 0x1680), (0x2000, 0x200A),
   (0x2028, 0x2029), (0x202F, 0x202F), (0x205F, 0x205F), (0x3000, 0x3000)]

def isBlank (c : Char) : Bool :=
  covers blank c.toNat

/-- Space, tab, line feed, form feed and carriage return. -/
def isSpace (c : Char) : Bool :=
  c == ' ' || c == '\t' || c == '\n' || c == '\x0c' || c == '\r'

theorem isBlank_of_isSpace {c : Char} (space : isSpace c = true) : isBlank c = true := by
  simp only [isSpace, Bool.or_eq_true, beq_iff_eq] at space
  rcases space with (((rfl | rfl) | rfl) | rfl) | rfl <;> rfl

def trimStart (text : List Char) : List Char :=
  text.dropWhile isBlank

def trimEnd (text : List Char) : List Char :=
  (text.reverse.dropWhile isBlank).reverse

def trim (text : List Char) : List Char :=
  trimEnd (trimStart text)

@[simp] theorem trim_nil : trim [] = [] := rfl

/-- The runs between the characters that satisfy `mark`; there is always at least one. -/
def pieces (mark : Char → Bool) : List Char → List (List Char)
  | [] => [[]]
  | c :: rest =>
    if mark c then [] :: pieces mark rest
    else match pieces mark rest with
      | [] => [[c]]
      | first :: more => (c :: first) :: more

theorem pieces_ne_nil (mark : Char → Bool) (text : List Char) : pieces mark text ≠ [] := by
  cases text with
  | nil => simp [pieces]
  | cons c rest =>
    unfold pieces
    split
    · simp
    · split <;> simp

theorem not_mark_of_mem_pieces {mark : Char → Bool} {text piece : List Char}
    (member : piece ∈ pieces mark text) : ∀ c ∈ piece, mark c = false := by
  induction text generalizing piece with
  | nil => simp_all [pieces]
  | cons c rest ih =>
    unfold pieces at member
    split at member
    · rcases List.mem_cons.1 member with rfl | member
      · simp
      · exact ih member
    · rename_i plain
      split at member
      · simp_all
      · rename_i first more found
        rcases List.mem_cons.1 member with rfl | member
        · have tail : ∀ c ∈ first, mark c = false := ih (by simp [found])
          simp only [List.mem_cons, forall_eq_or_imp]
          exact ⟨by simpa using plain, tail⟩
        · exact ih (by simp [found, member])

def entries (text : List Char) : List (List Char) :=
  pieces (· == ',') text

def words (text : List Char) : List (List Char) :=
  (pieces isBlank text).filter (! ·.isEmpty)

def cutAt (mark : Char) : List Char → Option (List Char × List Char)
  | [] => none
  | c :: rest =>
    if c = mark then some ([], rest)
    else (cutAt mark rest).map fun cut => (c :: cut.1, cut.2)

theorem cutAt_eq_some {mark : Char} {text before after : List Char}
    (cut : cutAt mark text = some (before, after)) :
    text = before ++ mark :: after ∧ mark ∉ before := by
  induction text generalizing before with
  | nil => simp [cutAt] at cut
  | cons c rest ih =>
    unfold cutAt at cut
    split at cut
    · simp_all
    · rename_i other
      obtain ⟨⟨head, tail⟩, found, same⟩ := Option.map_eq_some_iff.1 cut
      simp only [Prod.mk.injEq] at same
      obtain ⟨rfl, rfl⟩ := same
      obtain ⟨rfl, absent⟩ := ih found
      exact ⟨rfl, by simp [absent, Ne.symm other]⟩

/-- Equality up to the case of ASCII letters. -/
def sameLetters (first second : List Char) : Bool :=
  first.map Char.toLower == second.map Char.toLower

end TableQuery.Text
