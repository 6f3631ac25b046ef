import TableQuery.Proofs.Query.Occurrences
import TableQuery.Proofs.Query.Keywords

/-! Cutting a text at words, in one pass.

A search starts anew behind each word that it finds, and knows nothing of the quotes in front of it.
That makes no difference: no literal is open where a word stands, and white space follows it. So the
cuts are those of a single pass over the whole text.
-/

set_option autoImplicit false

namespace TableQuery.Query

open Text

variable {Meaning : Type} {keywords : List (Keyword Meaning)} {words : List String}
  {place : Place} {text front stretch rest : List Char}

/-- A stretch of a text, by the numbers of characters in front of it and up to its end. -/
structure Span where
  start : Nat
  stop : Nat
  deriving DecidableEq, Repr

def Span.shift (count : Nat) (span : Span) : Span :=
  ⟨count + span.start, count + span.stop⟩

/-- The phrase stands there: outside literals, after white space, and before white space or the
end. -/
structure StandsAt (phrase : Phrase) (text : List Char) (span : Span) : Prop where
  outside : Closed (text.take span.start)
  space : (text.take span.start).getLast?.any isSpace = true
  spelled : Spells phrase (text.extract span.start span.stop)
  within : span.stop ≤ text.length
  ends : endsKeyword (text.drop span.stop) = true

/-- Where the keywords stand in the text. One pass finds them all: the place counts the quotes on,
also in the keywords themselves. -/
def spans (keywords : List (Keyword Meaning)) : (offset : Nat) → Place → List Char → List Span
  | _, _, [] => []
  | offset, place, c :: text =>
    let later := spans keywords (offset + 1) (place.next c) text
    match if place.admitsKeyword c then matchAny? keywords (c :: text) else none with
    | some (_, written, _) => ⟨offset, offset + written.length⟩ :: later
    | none => later

def piecesAround (text : List Char) : (start : Nat) → List Span → List (List Char)
  | start, [] => [text.drop start]
  | start, span :: more => text.extract start span.start :: piecesAround text span.stop more

def separators (text : List Char) (cuts : List Span) : List (List Char) :=
  cuts.map fun span => text.extract span.start span.stop

def rejoin (pieces separators : List (List Char)) : List Char :=
  (List.zipWith (· ++ ·) pieces (separators ++ [[]])).flatten

theorem spans_shift (count offset : Nat) (place : Place) (text : List Char) :
    spans keywords (count + offset) place text =
      (spans keywords offset place text).map (Span.shift count) := by
  induction text generalizing offset place with
  | nil => rfl
  | cons c text ih =>
    simp only [spans]
    rw [Nat.add_assoc, ih]
    split
    · rw [List.map_cons, Span.shift, Nat.add_assoc]
    · rfl

theorem spans_of_passes (passes : Passes keywords place stretch rest) (offset : Nat) :
    spans keywords offset place (stretch ++ rest) =
      spans keywords (offset + stretch.length) (place.after stretch) rest := by
  induction stretch generalizing offset place with
  | nil => rfl
  | cons c stretch ih =>
    obtain ⟨here, later⟩ := passes
    have silent : (if place.admitsKeyword c then matchAny? keywords (c :: (stretch ++ rest))
        else none) = none := ite_eq_right_iff.2 here
    rw [List.cons_append, spans, silent, ih later, Place.after_cons, List.length_cons,
      Nat.add_assoc, Nat.add_comm 1]

theorem spans_of_none (absent : find? keywords text = none) :
    spans keywords 0 .start text = [] := by
  have passes := spans_of_passes (passes_iff_findFrom?.2 absent) 0
  rw [List.append_nil] at passes
  rw [passes]
  rfl

/-- Behind a keyword the pass goes on as it began. -/
theorem spans_of_border (lettered : ∀ keyword ∈ keywords, keyword.phrase.Lettered)
    (ends : endsKeyword rest = true) (outside : place.inside = false) (offset : Nat) :
    spans keywords offset place rest = spans keywords offset .start rest := by
  cases rest with
  | nil => rfl
  | cons c rest =>
    have silent : matchAny? keywords (c :: rest) = none :=
      matchAny?_unlettered lettered (not_isAlpha_of_isSpace ends)
    have plain : c ≠ '\'' := by
      rintro rfl
      cases ends
    have same : place.next c = Place.start.next c := by
      rw [Place.next, Place.next, Place.toggles, Place.toggles, beq_false_of_ne plain, outside]
      rfl
    simp only [spans, silent, ite_self, same]

/-- Of two finds the one that stands first; the first one, if both stand at one place. -/
def earlier : Option (Meaning × Cut) → Option (Meaning × Cut) → Option (Meaning × Cut)
  | some one, some other =>
    if other.2.before.length < one.2.before.length then some other else some one
  | some one, none => some one
  | none, found => found

theorem earlier_here {one : Meaning × Cut} (here : one.2.before = [])
    (second : Option (Meaning × Cut)) : earlier (some one) second = some one := by
  cases second with
  | none => rfl
  | some other => simp [earlier, here]

theorem earlier_behind (c : Char) (first second : Option (Meaning × Cut)) :
    earlier (first.map fun found => (found.1, { found.2 with before := c :: found.2.before }))
        (second.map fun found => (found.1, { found.2 with before := c :: found.2.before })) =
      (earlier first second).map fun found =>
        (found.1, { found.2 with before := c :: found.2.before }) := by
  cases first with
  | none => rfl
  | some one =>
    cases second with
    | none => rfl
    | some other =>
      simp only [Option.map_some, earlier, List.length_cons, Nat.add_lt_add_iff_right]
      split <;> rfl

theorem findFrom?_eq_earlier (keyword : Keyword Meaning) (keywords : List (Keyword Meaning))
    (skip : Nat) (place : Place) (text : List Char) :
    findFrom? (keyword :: keywords) skip place text =
      earlier (findFrom? [keyword] skip place text) (findFrom? keywords skip place text) := by
  induction text generalizing skip place with
  | nil => rfl
  | cons c text ih =>
    simp only [findFrom?]
    rw [ih]
    -- At each character the first keyword is tried before the others.
    by_cases allowed : skip = 0 ∧ place.admitsKeyword c = true
    · simp only [if_pos allowed, matchAny?]
      cases matchPhrase? keyword.phrase (c :: text) with
      | some split => exact (earlier_here rfl _).symm
      | none =>
        cases matchAny? keywords (c :: text) with
        | none => exact (earlier_behind c _ _).symm
        | some found =>
          -- What the first keyword finds stands further on.
          cases findFrom? [keyword] (skip - c.utf8Size) (place.next c) text <;> rfl
    · simp only [if_neg allowed]
      exact (earlier_behind c _ _).symm

theorem exists_word (lettered : ∀ word ∈ words, Phrase.Lettered [word]) {cut : Cut}
    (found : find? (singles words) text = some ((), cut)) :
    ∃ word ∈ words, sameLetters word.toList cut.keyword = true ∧
      endsKeyword cut.after = true := by
  have filled : ∀ keyword ∈ singles words, keyword.phrase ≠ [] :=
    fun keyword member => (lettered_singles lettered keyword member).nonempty
  obtain ⟨keyword, member, -, -, -, spelled, ends⟩ := exists_spelled filled found
  obtain ⟨word, listed, rfl⟩ := List.mem_map.1 member
  cases spelled with
  | last same => exact ⟨word, listed, same, ends⟩

/-- The first span is the one that a search finds, and the others are found behind it. -/
theorem spans_of_some (lettered : ∀ word ∈ words, Phrase.Lettered [word]) {cut : Cut}
    (found : find? (singles words) text = some ((), cut)) :
    spans (singles words) 0 .start text =
      ⟨cut.before.length, (cut.before ++ cut.keyword).length⟩ ::
        (spans (singles words) 0 .start cut.after).map
          (Span.shift (cut.before ++ cut.keyword).length) := by
  obtain ⟨word, listed, same, ends⟩ := exists_word lettered found
  have solid := solid_of_sameLetters (lettered word listed) same
  have free := no_quote_of_sameLetters (lettered word listed) same
  obtain ⟨matched, c, first, admitted⟩ := findFrom?_found found
  have whole : text = cut.before ++ (cut.keyword ++ cut.after) := by
    rw [← List.append_assoc]
    exact (find?_whole found).symm
  rw [whole, spans_of_passes (findFrom?_passes found), Nat.zero_add]
  have filled : cut.keyword ≠ [] := (Spells.last same).ne_nil (lettered word listed)
  obtain ⟨d, more, written⟩ := List.exists_cons_of_ne_nil filled
  rw [written] at solid free matched first
  rw [List.mem_cons, not_or] at free
  rw [List.forall_mem_cons] at solid
  cases first
  -- In the word itself no other one begins.
  have inner : Passes (singles words) ((Place.start.after cut.before).next c) more cut.after := by
    refine passes_solid solid.2 fun space => ?_
    rw [Place.next, Option.any_some, solid.1] at space
    cases space
  have outside : (((Place.start.after cut.before).next c).after more).inside = false := by
    rw [Place.after_inside free.2, Place.next_inside (Ne.symm free.1)]
    exact Place.outside_of_admitsKeyword admitted
  rw [written, List.cons_append, spans, if_pos admitted, ← List.cons_append, matched,
    spans_of_passes inner, spans_of_border (lettered_singles lettered) ends outside,
    ← Nat.add_zero (_ + more.length), spans_shift]
  simp only [List.length_append, List.length_cons, Nat.add_assoc, Nat.add_comm 1]

theorem mem_spans_cons {offset : Nat} {span : Span} {c : Char} :
    span ∈ spans keywords offset place (c :: text) ↔
      (place.admitsKeyword c = true ∧ ∃ meaning written rest,
        matchAny? keywords (c :: text) = some (meaning, written, rest) ∧
          span = ⟨offset, offset + written.length⟩) ∨
        span ∈ spans keywords (offset + 1) (place.next c) text := by
  rw [spans]
  by_cases admitted : place.admitsKeyword c = true
  · rw [if_pos admitted]
    cases matchAny? keywords (c :: text) with
    | none => simp
    | some found =>
      obtain ⟨meaning, written, rest⟩ := found
      simp [admitted]
  · simp [admitted]

/-- The pass comes to every place in the text, and by then it has counted the quotes in front. -/
theorem mem_spans_iff {offset : Nat} {span : Span} :
    span ∈ spans keywords offset place text ↔
      ∃ before behind meaning written rest, text = before ++ behind ∧
        (∃ c ∈ behind.head?, (place.after before).admitsKeyword c = true) ∧
        matchAny? keywords behind = some (meaning, written, rest) ∧
        span = ⟨offset + before.length, offset + before.length + written.length⟩ := by
  -- Offset and place move on with each character, so both are general.
  induction text generalizing offset place with
  | nil =>
    simp only [spans, List.not_mem_nil, false_iff]
    rintro ⟨before, behind, -, -, -, whole, ⟨c, first, -⟩, -⟩
    rw [(List.append_eq_nil_iff.1 whole.symm).2] at first
    cases first
  | cons c text ih =>
    rw [mem_spans_cons]
    constructor
    · rintro (⟨admitted, meaning, written, rest, matched, rfl⟩ | later)
      · exact ⟨[], c :: text, meaning, written, rest, rfl, ⟨c, rfl, admitted⟩, matched, rfl⟩
      · obtain ⟨before, behind, meaning, written, rest, rfl, first, matched, rfl⟩ := ih.1 later
        refine ⟨c :: before, behind, meaning, written, rest, rfl, first, matched, ?_⟩
        simp only [List.length_cons, Nat.add_assoc, Nat.add_comm 1]
    · rintro ⟨before, behind, meaning, written, rest, whole, ⟨d, first, admitted⟩, matched, rfl⟩
      cases before with
      | nil =>
        rw [List.nil_append] at whole
        subst whole
        cases first
        exact .inl ⟨admitted, meaning, written, rest, matched, rfl⟩
      | cons e before =>
        rw [List.cons_append, List.cons.injEq] at whole
        obtain ⟨rfl, rfl⟩ := whole
        refine .inr (ih.2 ⟨before, behind, meaning, written, rest, rfl, ⟨d, first, admitted⟩,
          matched, ?_⟩)
        simp only [List.length_cons, Nat.add_assoc, Nat.add_comm 1]

/-- Where a phrase stands, it parts the text. -/
theorem standsAt_iff {phrase : Phrase} {span : Span} (lettered : phrase.Lettered) :
    StandsAt phrase text span ↔ ∃ before written after, text = before ++ (written ++ after) ∧
      span = ⟨before.length, before.length + written.length⟩ ∧ Closed before ∧
      before.getLast?.any isSpace = true ∧ Spells phrase written ∧ endsKeyword after = true := by
  constructor
  · rintro ⟨outside, space, spelled, within, ends⟩
    have filled := List.length_pos_iff.2 (spelled.ne_nil lettered)
    rw [List.extract_eq_take_drop, List.length_take, List.length_drop] at filled
    refine ⟨text.take span.start, text.extract span.start span.stop, text.drop span.stop, ?_, ?_,
      outside, space, spelled, ends⟩
    · have behind : text.drop span.stop = (text.drop span.start).drop (span.stop - span.start) := by
        rw [List.drop_drop, Nat.add_sub_cancel' (by omega)]
      rw [List.extract_eq_take_drop, behind, List.take_append_drop, List.take_append_drop]
    · rw [List.extract_eq_take_drop, List.length_take, List.length_take, List.length_drop]
      rcases span with ⟨start, stop⟩
      rw [Span.mk.injEq]
      dsimp only at filled within ⊢
      omega
  · rintro ⟨before, written, after, rfl, rfl, outside, space, spelled, ends⟩
    constructor
    · simpa using outside
    · simpa using space
    · simpa using spelled
    · simp
    · simpa using ends

theorem mem_spans_singles_iff (lettered : ∀ word ∈ words, Phrase.Lettered [word]) {span : Span} :
    span ∈ spans (singles words) 0 .start text ↔
      ∃ word ∈ words, StandsAt [word] text span := by
  rw [mem_spans_iff]
  constructor
  · rintro ⟨before, behind, meaning, written, rest, rfl, ⟨c, first, admitted⟩, matched, rfl⟩
    obtain ⟨keyword, member, -, here⟩ := exists_of_matchAny? matched
    obtain ⟨word, listed, rfl⟩ := List.mem_map.1 member
    obtain ⟨spelled, ends⟩ := spells_of_matchPhrase? (lettered word listed).nonempty here
    have space := Place.previous_of_admitsKeyword admitted
    rw [Place.previous_after, Place.start, Option.or_none] at space
    refine ⟨word, listed, (standsAt_iff (lettered word listed)).2 ⟨before, written, rest, ?_, ?_,
      Place.outside_of_admitsKeyword admitted, space, spelled, ends⟩⟩
    · rw [matchPhrase?_append here]
    · rw [Nat.zero_add]
  · rintro ⟨word, listed, stands⟩
    obtain ⟨before, written, after, rfl, rfl, outside, space, spelled, ends⟩ :=
      (standsAt_iff (lettered word listed)).1 stands
    have behind : (Place.start.after before).previous.any isSpace = true := by
      rw [Place.previous_after, Place.start, Option.or_none, space]
    obtain ⟨c, more, rfl, admitted⟩ :=
      spelled.admitsKeyword (lettered word listed) outside behind
    cases spelled with
    | last same =>
      refine ⟨before, _, (), _, after, rfl, ⟨c, rfl, admitted⟩,
        matchAny?_spelled lettered listed same ends, ?_⟩
      rw [Nat.zero_add]

/-! Pieces of a text in front of which another one stands. -/

theorem extract_append_shift (front text : List Char) (start stop : Nat) :
    (front ++ text).extract (front.length + start) (front.length + stop) =
      text.extract start stop := by
  rw [List.extract_eq_take_drop, List.extract_eq_take_drop, List.drop_append,
    List.drop_eq_nil_of_le (Nat.le_add_right _ _), List.nil_append, Nat.add_sub_cancel_left,
    Nat.add_sub_add_left]

theorem piecesAround_shift (front text : List Char) (start : Nat) (cuts : List Span) :
    piecesAround (front ++ text) (front.length + start) (cuts.map (Span.shift front.length)) =
      piecesAround text start cuts := by
  induction cuts generalizing start with
  | nil => simp [piecesAround, List.drop_append]
  | cons span more ih =>
    rw [List.map_cons, piecesAround, piecesAround, ← ih]
    simp only [Span.shift, extract_append_shift]

theorem separators_shift (front text : List Char) (cuts : List Span) :
    separators (front ++ text) (cuts.map (Span.shift front.length)) = separators text cuts := by
  rw [separators, List.map_map]
  exact List.map_congr_left fun span _ => extract_append_shift front text span.start span.stop

theorem length_piecesAround (text : List Char) (start : Nat) (cuts : List Span) :
    (piecesAround text start cuts).length = cuts.length + 1 := by
  induction cuts generalizing start with
  | nil => rfl
  | cons span more ih => rw [piecesAround, List.length_cons, ih, List.length_cons]

/-! The pass makes the cuts of repeated searches. -/

variable (lettered : ∀ word ∈ words, Phrase.Lettered [word])
include lettered

theorem separate_eq_pieces (text : List Char) :
    separate (singles words) text =
      (piecesAround text 0 (spans (singles words) 0 .start text)).map trim := by
  induction text using separate.induct (singles words) with
  | case1 text absent =>
    rw [separate_of_none absent, spans_of_none absent]
    rfl
  | case2 text _ cut found ih =>
    -- The pass behind a cut is the pass over the rest, shifted by what stands in front.
    have behind := piecesAround_shift (cut.before ++ cut.keyword) cut.after 0
      (spans (singles words) 0 .start cut.after)
    rw [Nat.add_zero] at behind
    rw [separate_of_some found, ih, spans_of_some lettered found, piecesAround, List.map_cons,
      ← find?_whole found, Cut.whole, behind]
    simp

theorem rejoin_pieces (text : List Char) :
    rejoin (piecesAround text 0 (spans (singles words) 0 .start text))
      (separators text (spans (singles words) 0 .start text)) = text := by
  induction text using separate.induct (singles words) with
  | case1 text absent =>
    rw [spans_of_none absent]
    simp [rejoin, piecesAround, separators]
  | case2 text _ cut found ih =>
    have pieces := piecesAround_shift (cut.before ++ cut.keyword) cut.after 0
      (spans (singles words) 0 .start cut.after)
    have between := separators_shift (cut.before ++ cut.keyword) cut.after
      (spans (singles words) 0 .start cut.after)
    rw [Nat.add_zero] at pieces
    rw [rejoin] at ih
    rw [spans_of_some lettered found, ← find?_whole found, Cut.whole, piecesAround, pieces, rejoin,
      separators, List.map_cons, ← separators, between, List.cons_append, List.zipWith_cons_cons,
      List.flatten_cons, ih]
    simp

theorem pairwise_spans (text : List Char) :
    (spans (singles words) 0 .start text).Pairwise fun first second => first.stop < second.start := by
  induction text using separate.induct (singles words) with
  | case1 text absent =>
    rw [spans_of_none absent]
    exact .nil
  | case2 text _ cut found ih =>
    rw [spans_of_some lettered found, List.pairwise_cons, List.pairwise_map]
    constructor
    · intro span member
      obtain ⟨later, inside, rfl⟩ := List.mem_map.1 member
      obtain ⟨word, listed, stands⟩ := (mem_spans_singles_iff lettered).1 inside
      -- No word stands at the very start of a text.
      have positive : 0 < later.start := by
        apply Nat.pos_of_ne_zero
        intro first
        have space := stands.space
        rw [first] at space
        cases space
      exact Nat.lt_add_of_pos_right positive
    · exact ih.imp fun apart => Nat.add_lt_add_left apart _

omit lettered in
/-- The pieces between connectives are those of one pass over the text. Each search takes the
earlier one of the first AND and the first OR, and it finds no piece that the pass would not. The
pass comes to every place where AND or OR stands, once and in order, and pieces and connectives make
up the text. -/
theorem separate_eq_onePass (text : List Char) :
    let cuts := spans connectives 0 .start text
    (∀ rest, find? connectives rest =
        earlier (find? (singles ["AND"]) rest) (find? (singles ["OR"]) rest)) ∧
      separate connectives text = (piecesAround text 0 cuts).map trim ∧
      (piecesAround text 0 cuts).length = cuts.length + 1 ∧
      rejoin (piecesAround text 0 cuts) (separators text cuts) = text ∧
      cuts.Pairwise (fun first second => first.stop < second.start) ∧
      ∀ span, span ∈ cuts ↔ ∃ word ∈ ["AND", "OR"], StandsAt [word] text span := by
  have lettered : ∀ word ∈ ["AND", "OR"], Phrase.Lettered [word] := by decide
  exact ⟨findFrom?_eq_earlier _ _ 0 .start, separate_eq_pieces lettered text,
    length_piecesAround text 0 _, rejoin_pieces lettered text, pairwise_spans lettered text,
    fun _ => mem_spans_singles_iff lettered⟩

example : spans connectives 0 .start "a = 'b AND c' and d = O'OR e or f".toList =
    [⟨14, 17⟩, ⟨29, 31⟩] := by
  decide +kernel

end TableQuery.Query
