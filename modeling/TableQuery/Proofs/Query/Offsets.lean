import TableQuery.Proofs.Query.Occurrences
import TableQuery.Proofs.Query.Keywords
import Mathlib.Data.List.Induction

/-! Keyword searches told in bytes.

Here an offset counts bytes, and a place in a text is an offset. Quotes, white space and the letters
of keywords are bytes of ASCII, which are part of no other character. So the rule for keywords reads
the same in bytes and in characters, and both ends of a keyword are borders between characters.
-/

set_option autoImplicit false

namespace TableQuery.Query

open Text

def isSpaceByte (b : UInt8) : Bool :=
  b == ' '.toUInt8 || b == '\t'.toUInt8 || b == '\n'.toUInt8 || b == '\x0c'.toUInt8 ||
    b == '\r'.toUInt8

/-- A byte behind which a token starts. -/
def startsTokenByte (b : UInt8) : Bool :=
  isSpaceByte b || b == '='.toUInt8 || b == '<'.toUInt8 || b == '>'.toUInt8 || b == '!'.toUInt8 ||
    b == '('.toUInt8 || b == ','.toUInt8

def togglesAt (text : List UInt8) (offset : Nat) (inside : Bool) : Bool :=
  text[offset]? == some '\''.toUInt8 &&
    (inside || (offset == 0 || text[offset - 1]?.any startsTokenByte))

/-- Whether a literal is open in front of the offset, its quotes counted from the start. -/
def insideAt (text : List UInt8) : Nat → Bool
  | 0 => false
  | offset + 1 => insideAt text offset != togglesAt text offset (insideAt text offset)

structure KeywordAt (phrase : Phrase) (text : List UInt8) (start stop : Nat) : Prop where
  later : 1 ≤ start
  space : text[start - 1]?.any isSpaceByte = true
  outside : insideAt text start = false
  plain : togglesAt text start false = false
  /-- The words in any letter case, with white space between them. -/
  spelled : ∃ written, Spells phrase written ∧ text.extract start stop = bytes written
  within : stop ≤ text.length
  ends : stop = text.length ∨ text[stop]?.any isSpaceByte = true

structure FirstKeyword (phrase : Phrase) (skip : Nat) (text : List UInt8) (start stop : Nat) :
    Prop where
  stands : KeywordAt phrase text start stop
  late : skip ≤ start
  least : ∀ other stop, KeywordAt phrase text other stop → skip ≤ other → start ≤ other

def Cut.start (cut : Cut) : Nat :=
  (bytes cut.before).length

def Cut.stop (cut : Cut) : Nat :=
  cut.start + (bytes cut.keyword).length

/-- Both ends of the keyword are borders between characters, and the parts around it are slices of
the text. -/
structure Cut.Slices (cut : Cut) (text : String) : Prop where
  start : (⟨cut.start⟩ : String.Pos.Raw).IsValid text
  stop : (⟨cut.stop⟩ : String.Pos.Raw).IsValid text
  order : cut.start ≤ cut.stop
  before : bytes cut.before = (bytes text.toList).take cut.start
  keyword : bytes cut.keyword = (bytes text.toList).extract cut.start cut.stop
  after : bytes cut.after = (bytes text.toList).drop cut.stop

/-! Bytes of ASCII tell what stands at an offset. -/

section Marks
variable {b : UInt8} {c : Char} {place : Place} {before rest : List Char}

theorem isSpaceByte_eq (member : b ∈ String.utf8EncodeChar c) : isSpaceByte b = isSpace c := by
  simp (disch := decide) only [isSpaceByte, isSpace, beq_toUInt8 member]

theorem startsTokenByte_eq (member : b ∈ String.utf8EncodeChar c) (inside : Bool) :
    startsTokenByte b = Place.startsToken ⟨inside, some c⟩ := by
  simp (disch := decide) only [startsTokenByte, Place.startsToken, isSpaceByte_eq member,
    beq_toUInt8 member]

theorem lt_of_isSpaceByte (space : isSpaceByte b = true) : b.toNat < 128 := by
  simp only [isSpaceByte, Bool.or_eq_true, beq_iff_eq] at space
  rcases space with (((rfl | rfl) | rfl) | rfl) | rfl <;> decide

theorem head?_bytes_isSpace (text : List Char) :
    (bytes text).head?.any isSpaceByte = text.head?.any isSpace := by
  cases text with
  | nil => rfl
  | cons c text =>
    obtain ⟨b, member, first⟩ := exists_head?_bytes c text
    rw [first, Option.any_some, isSpaceByte_eq member]
    rfl

theorem getElem?_before (nonempty : before ≠ []) (rest : List Char) :
    (bytes (before ++ rest))[(bytes before).length - 1]? = (bytes before).getLast? := by
  have filled : 0 < (bytes before).length := by
    obtain ⟨c, more, rfl⟩ := List.exists_cons_of_ne_nil nonempty
    have size := Char.utf8Size_pos c
    rw [bytes_cons, List.length_append, String.length_utf8EncodeChar]
    omega
  rw [bytes_append, List.getElem?_append_left (Nat.sub_lt filled Nat.one_pos),
    List.getLast?_eq_getElem?]

theorem startsToken_eq (before rest : List Char) :
    ((bytes before).length == 0 ||
        (bytes (before ++ rest))[(bytes before).length - 1]?.any startsTokenByte) =
      (Place.start.after before).startsToken := by
  rcases List.eq_nil_or_concat' before with rfl | ⟨front, c, rfl⟩
  · rfl
  · obtain ⟨b, member, last⟩ := exists_getLast?_bytes front c
    have filled : ((bytes (front ++ [c])).length == 0) = false := by
      simp [Nat.ne_of_gt (Char.utf8Size_pos c)]
    rw [getElem?_before (by simp), last, filled, Option.any_some, Bool.false_or,
      startsTokenByte_eq member ((Place.start.after (front ++ [c])).inside), Place.after_append]
    rfl

theorem togglesAt_eq (before : List Char) (c : Char) (rest : List Char) :
    togglesAt (bytes (before ++ c :: rest)) (bytes before).length
        (Place.start.after before).inside = (Place.start.after before).toggles c := by
  obtain ⟨b, member, first⟩ := exists_head?_bytes c rest
  have quote : (some b == some '\''.toUInt8) = (c == '\'') := by
    exact beq_toUInt8 member (by decide)
  rw [togglesAt, Place.toggles, getElem?_bytes_append, first, quote, startsToken_eq]

theorem insideAt_add {text : List UInt8} {offset : Nat} (count : Nat)
    (plain : ∀ i < count, text[offset + i]? ≠ some '\''.toUInt8) :
    insideAt text (offset + count) = insideAt text offset := by
  induction count with
  | zero => rfl
  | succ count ih =>
    have here : togglesAt text (offset + count) (insideAt text (offset + count)) = false := by
      rw [togglesAt, beq_false_of_ne (plain count (Nat.lt_succ_self count))]
      rfl
    rw [← Nat.add_assoc, insideAt, here, Bool.bne_false,
      ih fun i below => plain i (Nat.lt_succ_of_lt below)]

theorem insideAt_eq (before rest : List Char) :
    insideAt (bytes (before ++ rest)) (bytes before).length = (Place.start.after before).inside := by
  -- Of the bytes of the last character only a quote, which is a single one, counts.
  induction before using List.reverseRecOn generalizing rest with
  | nil => rfl
  | append_singleton before c ih =>
    rw [List.append_assoc, List.singleton_append, bytes_append before [c], List.length_append,
      Place.after_append, Place.after_cons, Place.after_nil]
    by_cases quote : c = '\''
    · subst quote
      have single : (bytes ['\'']).length = 1 := rfl
      rw [single, insideAt, ih, togglesAt_eq]
      rfl
    · rw [insideAt_add, ih, Place.next_inside quote]
      intro i below
      have here : (bytes (before ++ c :: rest))[(bytes before).length + i]? =
          (String.utf8EncodeChar c)[i]? := by
        rw [bytes_append, List.getElem?_append_right (Nat.le_add_right _ _),
          Nat.add_sub_cancel_left, bytes_cons, List.getElem?_append_left]
        simpa using below
      rw [here]
      intro found
      exact quote ((eq_toUInt8_iff (List.mem_of_getElem? found) (by decide)).1 rfl)

end Marks

section Search
variable {Meaning : Type} {keywords : List (Keyword Meaning)} {meaning : Meaning} {phrase : Phrase}
  {skip start stop : Nat} {place : Place} {text : List Char} {cut : Cut}

theorem endsKeyword_iff (front after : List Char) :
    endsKeyword after = true ↔ (bytes front).length = (bytes (front ++ after)).length ∨
      (bytes (front ++ after))[(bytes front).length]?.any isSpaceByte = true := by
  rw [getElem?_bytes_append, head?_bytes_isSpace, bytes_append, List.length_append]
  cases after with
  | nil => simp [endsKeyword]
  | cons c after =>
    have size := Char.utf8Size_pos c
    have short : (bytes front).length ≠ (bytes front).length + (bytes (c :: after)).length := by
      rw [bytes_cons, List.length_append, String.length_utf8EncodeChar]
      omega
    rw [endsKeyword, List.head?_cons, Option.any_some, or_iff_right short]

/-- White space in front of an offset is a whole character, so the offset is a border. -/
theorem exists_before (later : 1 ≤ start)
    (space : (bytes text)[start - 1]?.any isSpaceByte = true) :
    ∃ before rest, text = before ++ rest ∧ (bytes before).length = start ∧
      before.getLast?.any isSpace = true := by
  obtain ⟨b, found, blank⟩ := (Option.any_eq_true _ _).1 space
  obtain ⟨front, c, rest, rfl, place, encoded⟩ :=
    exists_of_getElem?_bytes found (lt_of_isSpaceByte blank)
  refine ⟨front ++ [c], rest, by simp, ?_, ?_⟩
  · rw [bytes_append, bytes_cons, encoded, bytes_nil, List.length_append, place]
    exact Nat.sub_add_cancel later
  · rw [List.getLast?_append, List.getLast?_singleton, Option.some_or, Option.any_some,
      ← isSpaceByte_eq (b := b) (by simp [encoded]), blank]

/-- The rule for keywords reads the same in bytes and in characters. -/
theorem keywordAt_iff (lettered : phrase.Lettered) :
    KeywordAt phrase (bytes text) start stop ↔
      ∃ before written after, text = before ++ (written ++ after) ∧
        start = (bytes before).length ∧ stop = start + (bytes written).length ∧ Closed before ∧
        before.getLast?.any isSpace = true ∧ Spells phrase written ∧ endsKeyword after = true := by
  constructor
  · intro here
    obtain ⟨written, spelled, cut⟩ := here.spelled
    -- White space makes the offset a border, and behind it the phrase is whole characters.
    obtain ⟨before, rest, rfl, rfl, space⟩ := exists_before here.later here.space
    rw [bytes_append, List.extract_eq_take_drop, List.drop_left] at cut
    obtain ⟨after, rfl⟩ := prefix_of_bytes_prefix (cut ▸ List.take_prefix _ _)
    have filled : 0 < (bytes written).length := by
      rw [List.length_pos_iff, ne_eq, bytes_eq_nil_iff]
      exact spelled.ne_nil lettered
    have size := congrArg List.length cut
    have within := here.within
    rw [List.length_take] at size
    rw [bytes_append, List.length_append] at within
    have last : stop = (bytes before).length + (bytes written).length := by omega
    refine ⟨before, written, after, rfl, rfl, last, ?_, space, spelled, ?_⟩
    · exact (insideAt_eq before _).symm.trans here.outside
    · rw [endsKeyword_iff (before ++ written), List.append_assoc, bytes_append before written,
        List.length_append, ← last]
      exact here.ends
  · intro split
    obtain ⟨before, written, after, rfl, rfl, rfl, closed, space, spelled, ends⟩ := split
    have nonempty : before ≠ [] := by
      rintro rfl
      cases space
    refine ⟨?_, ?_, ?_, ?_, ⟨written, spelled, ?_⟩, ?_, ?_⟩
    · rw [Nat.succ_le_iff, List.length_pos_iff, ne_eq, bytes_eq_nil_iff]
      exact nonempty
    · obtain ⟨front, c, rfl⟩ := (List.eq_nil_or_concat' before).resolve_left nonempty
      obtain ⟨b, member, last⟩ := exists_getLast?_bytes front c
      rw [getElem?_before nonempty, last, Option.any_some, isSpaceByte_eq member]
      simpa using space
    · exact (insideAt_eq before _).trans closed
    · have previous : (Place.start.after before).previous.any isSpace = true := by
        rwa [Place.previous_after, Place.start, Option.or_none]
      obtain ⟨c, more, rfl, admitted⟩ := spelled.admitsKeyword lettered closed previous
      have toggles := togglesAt_eq before c (more ++ after)
      simp only [Place.admitsKeyword, Place.isPlain, Bool.and_eq_true, Bool.not_eq_true'] at admitted
      rw [admitted.1.1, admitted.1.2] at toggles
      exact toggles
    · rw [bytes_append, List.extract_eq_take_drop, List.drop_left, Nat.add_sub_cancel_left,
        bytes_append, List.take_left]
    · simp only [bytes_append, List.length_append]
      omega
    · rw [endsKeyword_iff (before ++ written), List.append_assoc, bytes_append before written,
        List.length_append] at ends
      exact ends

theorem KeywordAt.stop_unique {other : Nat} (lettered : phrase.Lettered)
    (here : KeywordAt phrase (bytes text) start stop)
    (there : KeywordAt phrase (bytes text) start other) : stop = other := by
  obtain ⟨before, written, after, rfl, rfl, rfl, -, -, spelled, ends⟩ := (keywordAt_iff lettered).1 here
  obtain ⟨before', written', after', same, place, rfl, -, -, spelled', ends'⟩ :=
    (keywordAt_iff lettered).1 there
  obtain ⟨front, rest⟩ := List.append_inj (by simpa using congrArg bytes same) place
  obtain rfl := bytes_injective front
  have matched := spelled.matchPhrase?_eq lettered ends
  rw [List.append_cancel_left same, spelled'.matchPhrase?_eq lettered ends'] at matched
  cases matched
  rfl

theorem findFrom?_late (found : findFrom? keywords skip place text = some (meaning, cut)) :
    skip ≤ cut.start := by
  induction text generalizing skip place cut with
  | nil => cases found
  | cons c text ih =>
    rw [findFrom?] at found
    dsimp only at found
    split at found
    · rename_i here
      split at here
      · rename_i allowed
        exact allowed.1 ▸ Nat.zero_le _
      · cases here
    · obtain ⟨⟨_, inner⟩, later, same⟩ := Option.map_eq_some_iff.1 found
      cases same
      have late := ih later
      simp only [Cut.start, bytes_cons, List.length_append, String.length_utf8EncodeChar] at late ⊢
      omega

theorem keywordAt_of_findFrom? (lettered : phrase.Lettered)
    (found : findFrom? [⟨(), phrase⟩] skip .start text = some ((), cut)) :
    KeywordAt phrase (bytes text) cut.start cut.stop := by
  obtain ⟨keyword, member, whole, split⟩ := exists_spelled (by simpa using lettered.nonempty) found
  obtain rfl := List.mem_singleton.1 member
  rw [List.append_assoc] at whole
  exact (keywordAt_iff lettered).2 ⟨cut.before, cut.keyword, cut.after, whole, rfl, rfl, split⟩

theorem KeywordAt.exists_findFrom? (lettered : phrase.Lettered)
    (here : KeywordAt phrase (bytes text) start stop) (late : skip ≤ start) :
    ∃ cut, findFrom? [⟨(), phrase⟩] skip .start text = some ((), cut) ∧ cut.start ≤ start := by
  obtain ⟨before, written, after, rfl, rfl, -, closed, space, spelled, ends⟩ :=
    (keywordAt_iff lettered).1 here
  have previous : (Place.start.after before).previous.any isSpace = true := by
    rwa [Place.previous_after, Place.start, Option.or_none]
  obtain ⟨cut, found, early⟩ := Query.exists_findFrom? late lettered closed previous spelled ends
  have front : cut.before <+: before := by
    refine List.prefix_of_prefix_length_le ?_ (List.prefix_append _ (written ++ after)) early
    rw [← (findFrom?_whole found).1, Cut.whole, List.append_assoc]
    exact List.prefix_append _ _
  obtain ⟨more, rfl⟩ := front
  exact ⟨cut, found, by simp [Cut.start]⟩

theorem firstKeyword_iff (lettered : phrase.Lettered) :
    FirstKeyword phrase skip (bytes text) start stop ↔
      ∃ cut, findFrom? [⟨(), phrase⟩] skip .start text = some ((), cut) ∧ cut.start = start ∧
        cut.stop = stop := by
  constructor
  · intro first
    obtain ⟨cut, found, early⟩ := first.stands.exists_findFrom? lettered first.late
    have here := keywordAt_of_findFrom? lettered found
    have same : cut.start = start :=
      Nat.le_antisymm early (first.least _ _ here (findFrom?_late found))
    exact ⟨cut, found, same, here.stop_unique lettered (same ▸ first.stands)⟩
  · rintro ⟨cut, found, rfl, rfl⟩
    refine ⟨keywordAt_of_findFrom? lettered found, findFrom?_late found, fun other stop there late => ?_⟩
    obtain ⟨cut', found', early⟩ := there.exists_findFrom? lettered late
    rw [found] at found'
    cases found'
    exact early

theorem findFrom?_eq_none_iff (lettered : phrase.Lettered) :
    findFrom? [⟨(), phrase⟩] skip .start text = none ↔
      ∀ start stop, KeywordAt phrase (bytes text) start stop → start < skip := by
  constructor
  · intro absent start stop here
    by_contra late
    obtain ⟨cut, found, -⟩ := here.exists_findFrom? lettered (Nat.not_lt.1 late)
    rw [absent] at found
    cases found
  · intro early
    apply Option.eq_none_iff_forall_not_mem.2
    rintro ⟨_, cut⟩ found
    have below := early _ _ (keywordAt_of_findFrom? lettered found)
    exact Nat.not_lt.2 (findFrom?_late found) below

theorem isValid_of_append {text : String} {front rest : List Char}
    (split : text.toList = front ++ rest) :
    (⟨(bytes front).length⟩ : String.Pos.Raw).IsValid text := by
  refine String.Pos.Raw.isValid_iff_exists_append.2 ⟨.ofList front, .ofList rest, ?_, ?_⟩
  · rw [← String.ofList_append, ← split, String.ofList_toList]
  · rw [← String.toList_ofList (l := front), length_bytes, String.toList_ofList]
    rfl

theorem Cut.slices_of_whole {text : String} (whole : cut.whole = text.toList) :
    cut.Slices text := by
  have size : (bytes (cut.before ++ cut.keyword)).length = cut.stop := by
    rw [bytes_append, List.length_append, stop, start]
  refine ⟨?_, ?_, Nat.le_add_right _ _, ?_, ?_, ?_⟩
  · have split : text.toList = cut.before ++ (cut.keyword ++ cut.after) := by
      rw [← whole, Cut.whole, List.append_assoc]
    exact isValid_of_append split
  · rw [← size]
    exact isValid_of_append whole.symm
  all_goals rw [← whole, Cut.whole]
  · rw [List.append_assoc, bytes_append, start, List.take_left]
  · rw [List.append_assoc, bytes_append, List.extract_eq_take_drop, start, List.drop_left,
      stop, start, Nat.add_sub_cancel_left, bytes_append, List.take_left]
  · rw [← size, bytes_append (cut.before ++ cut.keyword), List.drop_left]

/-- A search finds the phrase at the first offset from `skip` on where it stands, finds nothing only
where it stands nowhere there, and cuts the text at borders between characters. -/
theorem findFrom?_first (lettered : phrase.Lettered) (skip : Nat) (text : String) :
    (∀ start stop, FirstKeyword phrase skip (bytes text.toList) start stop ↔
        ∃ cut, findFrom? [⟨(), phrase⟩] skip .start text.toList = some ((), cut) ∧
          cut.start = start ∧ cut.stop = stop) ∧
      (findFrom? [⟨(), phrase⟩] skip .start text.toList = none ↔
        ∀ start stop, KeywordAt phrase (bytes text.toList) start stop → start < skip) ∧
      ∀ cut, findFrom? [⟨(), phrase⟩] skip .start text.toList = some ((), cut) →
        cut.Slices text :=
  ⟨fun _ _ => firstKeyword_iff lettered, findFrom?_eq_none_iff lettered,
    fun _ found => Cut.slices_of_whole (findFrom?_whole found).1⟩

theorem findFrom?_first_of_near_matches :
    Phrase.Lettered ["ORDER", "BY"] ∧
      FirstKeyword ["ORDER", "BY"] 2
        (bytes "é order bys 'x ORDER BY' fürORDER BY ORDER \t bY\nü".toList) 39 49 := by
  have lettered : Phrase.Lettered ["ORDER", "BY"] := by decide
  refine ⟨lettered, ((findFrom?_first lettered 2 _).1 39 49).2 ⟨?_, ?_⟩⟩
  · exact ⟨"é order bys 'x ORDER BY' fürORDER BY ".toList, "ORDER \t bY".toList, "\nü".toList⟩
  · decide +kernel

end Search

end TableQuery.Query
