import Mathlib.Data.List.TakeWhile
import TableQuery.Text.Blank

/-! Trimmed texts, and texts cut into pieces that were put together from them. -/

set_option autoImplicit false

namespace TableQuery.Text

structure Trimmed (text : List Char) : Prop where
  first : ∀ c ∈ text.head?, isBlank c = false
  last : ∀ c ∈ text.getLast?, isBlank c = false

theorem trimStart_eq_self {text : List Char} (first : ∀ c ∈ text.head?, isBlank c = false) :
    trimStart text = text := by
  cases text with
  | nil => rfl
  | cons c rest => simp [trimStart, first c rfl]

theorem trimEnd_eq_self {text : List Char} (last : ∀ c ∈ text.getLast?, isBlank c = false) :
    trimEnd text = text := by
  have reversed : trimStart text.reverse = text.reverse :=
    trimStart_eq_self (by simpa using last)
  rw [trimEnd]
  exact (congrArg List.reverse reversed).trans text.reverse_reverse

theorem Trimmed.trim_eq {text : List Char} (trimmed : Trimmed text) : trim text = text := by
  rw [trim, trimStart_eq_self trimmed.first, trimEnd_eq_self trimmed.last]

theorem trimStart_append {blanks : List Char} (blank : ∀ c ∈ blanks, isBlank c = true)
    (text : List Char) : trimStart (blanks ++ text) = trimStart text :=
  List.dropWhile_append_of_pos blank

theorem trimStart_append_cons {blanks : List Char} (blank : ∀ c ∈ blanks, isBlank c = true) {c : Char}
    (visible : isBlank c = false) (rest : List Char) :
    trimStart (blanks ++ c :: rest) = c :: rest := by
  rw [trimStart_append blank, trimStart, List.dropWhile_cons_of_neg (by simp [visible])]

theorem trimEnd_append {blanks : List Char} (blank : ∀ c ∈ blanks, isBlank c = true)
    (text : List Char) : trimEnd (text ++ blanks) = trimEnd text := by
  rw [trimEnd, List.reverse_append, List.dropWhile_append_of_pos (by simpa using blank), trimEnd]

theorem trim_append {blanks : List Char} (blank : ∀ c ∈ blanks, isBlank c = true)
    (text : List Char) : trim (blanks ++ text) = trim text := by
  rw [trim, trimStart_append blank, trim]

theorem Trimmed.trim_around {text lead trail : List Char} (trimmed : Trimmed text)
    (before : ∀ c ∈ lead, isBlank c = true) (after : ∀ c ∈ trail, isBlank c = true) :
    trim (lead ++ text ++ trail) = text := by
  rw [trim, List.append_assoc, trimStart_append before]
  cases text with
  | nil =>
    have gone := trimStart_append after []
    rw [List.append_nil] at gone
    rw [List.nil_append, gone]
    rfl
  | cons c rest =>
    rw [trimStart_eq_self (by simpa using trimmed.first), trimEnd_append after,
      trimEnd_eq_self trimmed.last]

theorem blank_of_mem_space : ∀ c ∈ [' '], isBlank c = true :=
  List.all_eq_true.1 rfl

theorem Trimmed.trim_after_space {text : List Char} (trimmed : Trimmed text) :
    trim (' ' :: text) = text := by
  have around : trim ([' '] ++ text ++ []) = text :=
    trimmed.trim_around blank_of_mem_space (by simp)
  simpa using around

theorem Trimmed.trim_before_space {text : List Char} (trimmed : Trimmed text) :
    trim (text ++ [' ']) = text := by
  have around : trim ([] ++ text ++ [' ']) = text :=
    trimmed.trim_around (by simp) blank_of_mem_space
  simpa using around

theorem Trimmed.trim_in_spaces {text : List Char} (trimmed : Trimmed text) :
    trim (' ' :: text ++ [' ']) = text := by
  have around : trim ([' '] ++ text ++ [' ']) = text :=
    trimmed.trim_around blank_of_mem_space blank_of_mem_space
  simpa using around

theorem exists_trimStart (text : List Char) :
    ∃ lead, (∀ c ∈ lead, isBlank c = true) ∧ text = lead ++ trimStart text :=
  ⟨text.takeWhile isBlank, fun _ => List.mem_takeWhile_imp, List.takeWhile_append_dropWhile.symm⟩

theorem exists_trimEnd (text : List Char) :
    ∃ trail, (∀ c ∈ trail, isBlank c = true) ∧ text = trimEnd text ++ trail := by
  obtain ⟨lead, blank, same⟩ := exists_trimStart text.reverse
  refine ⟨lead.reverse, by simpa using blank, ?_⟩
  rw [trimEnd, ← List.reverse_append]
  exact List.reverse_eq_iff.1 same

theorem exists_trim (text : List Char) :
    ∃ lead trail, (∀ c ∈ lead, isBlank c = true) ∧ (∀ c ∈ trail, isBlank c = true) ∧
      text = lead ++ trim text ++ trail := by
  obtain ⟨lead, before, first⟩ := exists_trimStart text
  obtain ⟨trail, after, last⟩ := exists_trimEnd (trimStart text)
  refine ⟨lead, trail, before, after, ?_⟩
  rw [trim, List.append_assoc, ← last, ← first]

theorem blank_of_trim_nil {text : List Char} (empty : trim text = []) :
    ∀ c ∈ text, isBlank c = true := by
  obtain ⟨lead, trail, before, after, same⟩ := exists_trim text
  rw [same, empty, List.append_nil]
  exact List.forall_mem_append.2 ⟨before, after⟩

theorem mem_of_mem_trim {text : List Char} {c : Char} (member : c ∈ trim text) : c ∈ text := by
  obtain ⟨lead, trail, -, -, same⟩ := exists_trim text
  rw [same]
  simp [member]

theorem head?_trimStart (text : List Char) : ∀ c ∈ (trimStart text).head?, isBlank c = false := by
  intro c member
  have stop := List.head?_dropWhile_not isBlank text
  rw [trimStart] at member
  rw [member] at stop
  simpa using stop

theorem getLast?_trimEnd (text : List Char) :
    ∀ c ∈ (trimEnd text).getLast?, isBlank c = false := by
  intro c member
  rw [trimEnd, List.getLast?_reverse] at member
  exact head?_trimStart text.reverse c member

theorem trimmed_trim (text : List Char) : Trimmed (trim text) where
  last := getLast?_trimEnd _
  first := by
    intro c member
    obtain ⟨trail, -, same⟩ := exists_trimEnd (trimStart text)
    apply head?_trimStart text c
    rw [same, List.head?_append]
    exact Option.mem_def.2 (by rw [trim] at member; simp [Option.mem_def.1 member])

theorem Trimmed.exists_trail {front rest : List Char} (trimmed : Trimmed (front ++ rest)) :
    ∃ trail, (∀ c ∈ trail, isBlank c = true) ∧ front = trim front ++ trail := by
  obtain ⟨lead, trail, before, after, same⟩ := exists_trim front
  cases lead with
  | nil => exact ⟨trail, after, same⟩
  | cons c lead =>
    -- The first character of the front is the first one of the whole text.
    have blank := before c (by simp)
    rw [same] at trimmed
    rw [trimmed.first c (by simp)] at blank
    cases blank

theorem Trimmed.exists_lead {back rest : List Char} (trimmed : Trimmed (rest ++ back)) :
    ∃ lead, (∀ c ∈ lead, isBlank c = true) ∧ back = lead ++ trim back := by
  obtain ⟨lead, trail, before, after, same⟩ := exists_trim back
  rcases List.eq_nil_or_concat trail with rfl | ⟨inner, c, rfl⟩
  · exact ⟨lead, before, by rwa [List.append_nil] at same⟩
  · have blank := after c (by simp)
    rw [same] at trimmed
    rw [trimmed.last c (by simp)] at blank
    cases blank

theorem Trimmed.trim_front_ne_nil {front rest : List Char} (trimmed : Trimmed (front ++ rest))
    (nonempty : front ≠ []) : trim front ≠ [] := by
  intro empty
  obtain ⟨c, more, rfl⟩ := List.exists_cons_of_ne_nil nonempty
  have visible := trimmed.first c (by simp)
  rw [blank_of_trim_nil empty c List.mem_cons_self] at visible
  cases visible

theorem Trimmed.trim_back_ne_nil {back rest : List Char} (trimmed : Trimmed (rest ++ back))
    (nonempty : back ≠ []) : trim back ≠ [] := by
  intro empty
  obtain rfl | ⟨more, c, rfl⟩ := List.eq_nil_or_concat back
  · exact nonempty rfl
  · have visible := trimmed.last c (by simp)
    rw [blank_of_trim_nil empty c (by simp)] at visible
    cases visible

theorem trimmed_between {front back : List Char} (first : Trimmed front) (last : Trimmed back)
    (front_ne : front ≠ []) (back_ne : back ≠ []) (middle : List Char) :
    Trimmed (front ++ middle ++ back) where
  first := by
    obtain ⟨c, rest, rfl⟩ := List.exists_cons_of_ne_nil front_ne
    simpa using first.first
  last := by
    have same := List.getLast?_eq_some_getLast back_ne
    rw [List.getLast?_append, same, Option.some_or, ← same]
    exact last.last

theorem trimmed_intercalate {texts : List (List Char)} (separator : List Char)
    (trimmed : ∀ text ∈ texts, Trimmed text) (nonempty : ∀ text ∈ texts, text ≠ []) :
    Trimmed (separator.intercalate texts) := by
  -- The last text is an end of the whole, so the induction also needs that it is not empty.
  have both : Trimmed (separator.intercalate texts) ∧
      (texts ≠ [] → separator.intercalate texts ≠ []) := by
    induction texts with
    | nil => exact ⟨⟨by simp, by simp⟩, absurd rfl⟩
    | cons first rest ih =>
      have here := trimmed first (by simp)
      have full := nonempty first (by simp)
      cases rest with
      | nil => simpa using ⟨here, full⟩
      | cons second more =>
        obtain ⟨later, filled⟩ := ih (fun text member => trimmed text (by simp [member]))
          (fun text member => nonempty text (by simp [member]))
        rw [List.intercalate_cons_cons]
        exact ⟨trimmed_between here later full (filled (by simp)) separator, by simp [full]⟩
  exact both.1

theorem trimmed_of_solid {text : List Char} (solid : ∀ c ∈ text, isBlank c = false) :
    Trimmed text where
  first c member := solid c (List.mem_of_head? member)
  last c member := solid c (List.mem_of_getLast? member)

theorem trimmed_of_all {text : List Char} (solid : (text.all fun c => !isBlank c) = true) :
    Trimmed text :=
  trimmed_of_solid (by simpa using solid)

theorem mem_of_mem_pieces {mark : Char → Bool} {text piece : List Char} {c : Char}
    (member : piece ∈ pieces mark text) (inside : c ∈ piece) : c ∈ text := by
  induction text generalizing piece with
  | nil => simp_all [pieces]
  | cons first rest ih =>
    unfold pieces at member
    split at member
    · rcases List.mem_cons.1 member with rfl | member
      · cases inside
      · exact List.mem_cons_of_mem _ (ih member inside)
    · split at member
      · simp_all
      · rename_i head more found
        rcases List.mem_cons.1 member with rfl | member
        · rcases List.mem_cons.1 inside with rfl | inside
          · exact List.mem_cons_self
          · exact List.mem_cons_of_mem _ (ih (by simp [found]) inside)
        · exact List.mem_cons_of_mem _ (ih (by simp [found, member]) inside)

theorem pieces_eq_singleton {mark : Char → Bool} {text : List Char}
    (free : ∀ c ∈ text, mark c = false) : pieces mark text = [text] := by
  induction text with
  | nil => rfl
  | cons c rest ih =>
    rw [pieces, free c (by simp), ih fun other member => free other (List.mem_cons_of_mem _ member)]
    rfl

theorem pieces_eq_splitOnP (mark : Char → Bool) (text : List Char) :
    pieces mark text = text.splitOnP mark := by
  induction text with
  | nil => rw [pieces, List.splitOnP_nil]
  | cons c rest ih =>
    rw [pieces, List.splitOnP_cons_eq_if_modifyHead, ih]
    cases found : rest.splitOnP mark with
    | nil => exact absurd found (List.splitOnP_ne_nil mark rest)
    | cons first more => rfl

theorem append_of_pieces {mark : Char} {text first second : List Char}
    (cut : pieces (· == mark) text = [first, second]) : text = first ++ mark :: second := by
  have joined : [mark].intercalate (text.splitOn mark) = text := List.intercalate_splitOn mark
  rw [List.splitOn_eq_splitOnP, ← pieces_eq_splitOnP, cut] at joined
  simpa using joined.symm

theorem pieces_append {mark : Char → Bool} {c : Char} (marked : mark c = true)
    (first rest : List Char) :
    pieces mark (first ++ c :: rest) = pieces mark first ++ pieces mark rest := by
  induction first with
  | nil => simp [pieces, marked]
  | cons other first ih =>
    rw [List.cons_append, pieces, pieces, ih]
    split
    · rfl
    · cases found : pieces mark first with
      | nil => exact absurd found (pieces_ne_nil mark first)
      | cons head more => rfl

/-- A text without a mark goes to the first piece of what follows it. -/
theorem pieces_append_of_free {mark : Char → Bool} {front : List Char}
    (free : ∀ c ∈ front, mark c = false) (text : List Char) :
    pieces mark (front ++ text) = (pieces mark text).modifyHead (front ++ ·) := by
  induction front with
  | nil =>
    rw [List.nil_append]
    cases pieces mark text <;> rfl
  | cons c front ih =>
    rw [List.forall_mem_cons] at free
    rw [List.cons_append, pieces, free.1, ih free.2]
    cases found : pieces mark text with
    | nil => exact absurd found (pieces_ne_nil mark text)
    | cons first more => rfl

theorem intercalate_cons (separator first : List Char) (rest : List (List Char)) :
    separator.intercalate (first :: rest) = first ++ rest.flatMap (separator ++ ·) := by
  induction rest generalizing first with
  | nil => simp
  | cons second rest ih => simp [List.intercalate_cons_cons, ih]

theorem entries_eq_singleton {text : List Char} (free : ',' ∉ text) : entries text = [text] := by
  refine pieces_eq_singleton fun c inside => beq_false_of_ne ?_
  rintro rfl
  exact free inside

theorem words_append {c : Char} (blank : isBlank c = true) (first rest : List Char) :
    words (first ++ c :: rest) = words first ++ words rest := by
  rw [words, pieces_append blank, List.filter_append, words, words]

theorem words_append_blanks {gap : List Char} (blank : ∀ c ∈ gap, isBlank c = true)
    (nonempty : gap ≠ []) (first rest : List Char) :
    words (first ++ (gap ++ rest)) = words first ++ words rest := by
  induction gap generalizing first with
  | nil => exact absurd rfl nonempty
  | cons c gap ih =>
    rw [List.forall_mem_cons] at blank
    rw [List.cons_append, words_append blank.1]
    cases gap with
    | nil => rfl
    | cons other gap =>
      have later := ih blank.2 (by simp) []
      rw [List.nil_append] at later
      rw [later]
      rfl

theorem words_around {lead trail : List Char} (before : ∀ c ∈ lead, isBlank c = true)
    (after : ∀ c ∈ trail, isBlank c = true) (text : List Char) :
    words (lead ++ text ++ trail) = words text := by
  have behind : words (lead ++ text ++ trail) = words (lead ++ text) := by
    by_cases empty : trail = []
    · rw [empty, List.append_nil]
    · have apart := words_append_blanks after empty (lead ++ text) []
      rw [List.append_nil] at apart
      rw [apart]
      exact List.append_nil _
  have front : words (lead ++ text) = words text := by
    by_cases empty : lead = []
    · rw [empty, List.nil_append]
    · exact words_append_blanks before empty [] text
  rw [behind, front]

theorem words_trim (text : List Char) : words (trim text) = words text := by
  obtain ⟨lead, trail, before, after, same⟩ := exists_trim text
  have around := words_around before after (trim text)
  rw [← same] at around
  exact around.symm

theorem words_eq_singleton {word : List Char} (nonempty : word ≠ [])
    (free : ∀ c ∈ word, isBlank c = false) : words word = [word] := by
  rw [words, pieces_eq_singleton free]
  simp [nonempty]

theorem words_nil : words [] = [] := rfl

theorem exists_solid {text : List Char} (nonempty : text ≠ [])
    (first : ∀ c ∈ text.head?, isBlank c = false) :
    ∃ word rest, text = word ++ rest ∧ word ≠ [] ∧ (∀ c ∈ word, isBlank c = false) ∧
      ∀ c ∈ rest.head?, isBlank c = true := by
  refine ⟨text.takeWhile (!isBlank ·), text.dropWhile (!isBlank ·),
    List.takeWhile_append_dropWhile.symm, ?_, ?_, ?_⟩
  · obtain ⟨c, more, rfl⟩ := List.exists_cons_of_ne_nil nonempty
    rw [List.takeWhile_cons_of_pos (by simp [first c rfl])]
    simp
  · intro c member
    simpa using List.mem_takeWhile_imp member
  · intro c member
    have stop := List.head?_dropWhile_not (!isBlank ·) text
    rw [member] at stop
    simpa using stop

theorem words_append_of_solid {word rest : List Char} (nonempty : word ≠ [])
    (solid : ∀ c ∈ word, isBlank c = false) (stop : ∀ c ∈ rest.head?, isBlank c = true) :
    words (word ++ rest) = word :: words rest := by
  have alone := words_eq_singleton nonempty solid
  cases rest with
  | nil => rw [List.append_nil, alone, words_nil]
  | cons c rest =>
    have behind : words ([] ++ c :: rest) = words [] ++ words rest := words_append (stop c rfl) [] rest
    rw [words_append (stop c rfl), alone, ← List.nil_append (c :: rest), behind]
    rfl

/-- A text without words is white space. In any other one the first word stands behind white space,
and in front of the other words. -/
theorem words_cases (text : List Char) :
    (words text = [] ∧ ∀ c ∈ text, isBlank c = true) ∨
      ∃ lead word rest, text = lead ++ word ++ rest ∧ (∀ c ∈ lead, isBlank c = true) ∧ word ≠ [] ∧
        (∀ c ∈ word, isBlank c = false) ∧ (∀ c ∈ rest.head?, isBlank c = true) ∧
        words text = word :: words rest := by
  obtain ⟨lead, before, same⟩ := exists_trimStart text
  have around : words (lead ++ trimStart text ++ []) = words (trimStart text) :=
    words_around before (by simp) _
  rw [List.append_nil, ← same] at around
  by_cases empty : trimStart text = []
  · rw [empty, List.append_nil] at same
    rw [empty] at around
    exact .inl ⟨around, same ▸ before⟩
  · obtain ⟨word, rest, whole, nonempty, solid, stop⟩ := exists_solid empty (head?_trimStart text)
    rw [whole, words_append_of_solid nonempty solid stop] at around
    rw [whole, ← List.append_assoc] at same
    exact .inr ⟨lead, word, rest, same, before, nonempty, solid, stop, around⟩

theorem blank_of_words_nil {text : List Char} (none : words text = []) :
    ∀ c ∈ text, isBlank c = true := by
  obtain ⟨-, blank⟩ | ⟨lead, word, rest, -, -, -, -, -, same⟩ := words_cases text
  · exact blank
  · rw [none] at same
    cases same

theorem trim_of_words_singleton {text word : List Char} (single : words text = [word]) :
    trim text = word := by
  obtain ⟨none, -⟩ | ⟨lead, first, rest, rfl, before, nonempty, solid, stop, same⟩ := words_cases text
  · rw [none] at single
    cases single
  · rw [same, List.cons.injEq] at single
    obtain ⟨rfl, last⟩ := single
    exact (trimmed_of_solid solid).trim_around before (blank_of_words_nil last)

theorem trim_of_words_pair {text first second : List Char} (pair : words text = [first, second]) :
    ∃ gap, gap ≠ [] ∧ (∀ c ∈ gap, isBlank c = true) ∧ trim text = first ++ gap ++ second := by
  obtain ⟨none, -⟩ | ⟨lead, word, rest, rfl, before, nonempty, solid, stop, same⟩ := words_cases text
  · rw [none] at pair
    cases pair
  · rw [same, List.cons.injEq] at pair
    obtain ⟨rfl, later⟩ := pair
    obtain ⟨none, -⟩ | ⟨gap, word', rest', rfl, blank, nonempty', solid', stop', same'⟩ := words_cases rest
    · rw [none] at later
      cases later
    · rw [same', List.cons.injEq] at later
      obtain ⟨rfl, last⟩ := later
      have ends := trimmed_between (trimmed_of_solid solid) (trimmed_of_solid solid') nonempty nonempty' gap
      refine ⟨gap, ?_, blank, ?_⟩
      · rintro rfl
        obtain ⟨c, more, rfl⟩ := List.exists_cons_of_ne_nil nonempty'
        have visible := solid' c List.mem_cons_self
        rw [stop c rfl] at visible
        cases visible
      · simpa using ends.trim_around before (blank_of_words_nil last)

theorem not_blank_of_mem_words {text word : List Char} (member : word ∈ words text) :
    word ≠ [] ∧ ∀ c ∈ word, isBlank c = false ∧ c ∈ text := by
  rw [words, List.mem_filter] at member
  obtain ⟨piece, nonempty⟩ := member
  refine ⟨by simpa using nonempty, fun c inside => ?_⟩
  exact ⟨not_mark_of_mem_pieces piece c inside, mem_of_mem_pieces piece inside⟩

theorem cutAt_append {mark : Char} {before : List Char} (absent : mark ∉ before)
    (after : List Char) : cutAt mark (before ++ mark :: after) = some (before, after) := by
  induction before with
  | nil => simp [cutAt]
  | cons c before ih =>
    rw [List.mem_cons, not_or] at absent
    simp [cutAt, Ne.symm absent.1, ih absent.2]

end TableQuery.Text
