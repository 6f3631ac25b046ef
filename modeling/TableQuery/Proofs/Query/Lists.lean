import TableQuery.Proofs.Query.Passages
import TableQuery.Proofs.Request.WellFormed

/-! The lists of a query: names to group by, and keys to order by.

A list is written with commas, and white space around a comma is free. Reading gives back what was
written. In a list of names no phrase of two words is found, for a comma stands between any two
names.
-/

set_option autoImplicit false

namespace TableQuery

open Query Text

variable {Part : Type} {spelled : Part → List Char → Prop} {parts : List Part}
  {list gap : List Char}

inductive ListText (spelled : Part → List Char → Prop) : List Part → List Char → Prop
  | last {part : Part} {item : List Char} (here : spelled part item) : ListText spelled [part] item
  | more {part : Part} {parts : List Part} {item before after rest : List Char}
      (here : spelled part item) (gaps : IsGap before ∧ IsGap after)
      (later : ListText spelled parts rest) :
      ListText spelled (part :: parts) (item ++ before ++ ',' :: (after ++ rest))

/-- The entries of the list are the parts, one by one, each written in one of its own ways. -/
def EntriesOf (spelled : Part → List Char → Prop) (parts : List Part) (list : List Char) : Prop :=
  List.Forall₂ (fun entry part => spelled part (trim entry)) (entries list) parts

def NameText (name : String) (text : List Char) : Prop :=
  text = name.toList

/-- An order key is written as its field, with a direction in any letter case behind white space.
The ascending direction may be left out. -/
inductive KeyText (key : OrderKey) : List Char → Prop
  | bare (ascending : key.direction = .ascending) : KeyText key key.field.toList
  | directed {gap word : List Char} (run : IsGap gap) (nonempty : gap ≠ [])
      (same : sameLetters key.direction.keyword.toList word = true) :
      KeyText key (key.field.toList ++ gap ++ word)

/-- A name that can be written in a list: it has no white space, comma or quote. -/
structure IsListName (name : String) : Prop where
  nonempty : name.toList ≠ []
  solid : ∀ c ∈ name.toList, isBlank c = false ∧ c ≠ ',' ∧ c ≠ '\''

instance (name : String) : Decidable (IsListName name) :=
  decidable_of_iff
    (name.toList ≠ [] ∧ (name.toList.all fun c => !isBlank c && c != ',' && c != '\'') = true)
    ⟨fun parts => ⟨parts.1, by simpa [and_assoc] using parts.2⟩,
      fun plain => ⟨plain.nonempty, by simpa [and_assoc] using plain.solid⟩⟩

theorem IsListName.trimmed {name : String} (plain : IsListName name) : Trimmed name.toList :=
  trimmed_of_solid fun c member => (plain.solid c member).1

theorem IsListName.no_comma {name : String} (plain : IsListName name) : ',' ∉ name.toList :=
  fun comma => (plain.solid _ comma).2.1 rfl

theorem IsListName.isEntry {name : String} (plain : IsListName name) : IsEntry name :=
  ⟨⟨plain.nonempty, plain.trimmed⟩, plain.no_comma⟩

theorem IsListName.isOrderField {name : String} (plain : IsListName name) : IsOrderField name :=
  ⟨plain.nonempty, fun c member => (plain.solid c member).1, plain.no_comma⟩

theorem IsListName.no_quote {name : String} (plain : IsListName name) : '\'' ∉ name.toList :=
  fun quote => (plain.solid _ quote).2.2 rfl

theorem IsListName.not_space {name : String} (plain : IsListName name) :
    ∀ c ∈ name.toList, isSpace c = false :=
  fun c member => not_space_of_not_blank (plain.solid c member).1

theorem Query.IsGap.no_comma (run : IsGap gap) : ',' ∉ gap := by
  intro comma
  cases run _ comma

theorem unlettered_of_separator {before after : List Char} (gaps : IsGap before ∧ IsGap after) :
    ∀ c ∈ before ++ ',' :: after, c.isAlpha = false := by
  rw [List.forall_mem_append, List.forall_mem_cons]
  exact ⟨gaps.1.unlettered, by decide, gaps.2.unlettered⟩

theorem entriesOf_gap_iff (run : IsGap gap) :
    EntriesOf spelled parts (gap ++ list) ↔ EntriesOf spelled parts list := by
  have unmarked : ∀ c ∈ gap, (c == ',') = false := by
    intro c member
    apply beq_false_of_ne
    rintro rfl
    exact run.no_comma member
  rw [EntriesOf, EntriesOf, entries, entries, pieces_append_of_free unmarked]
  cases pieces (· == ',') list with
  | nil => rfl
  | cons first more => cases parts <;> simp [trim_append run.blank]

theorem EntriesOf.forall₂ {relation : List Char → Part → Prop}
    (listed : EntriesOf spelled parts list)
    (related : ∀ part ∈ parts, ∀ entry, spelled part (trim entry) → relation entry part) :
    List.Forall₂ relation (entries list) parts := by
  have kept := (List.forall₂_and_left _ _).2 ⟨fun _ member => member, listed.flip⟩
  exact kept.flip.imp fun entry part held => related part held.1 entry held.2

theorem EntriesOf.mapM_eq {read : List Char → Except Rejection Part}
    (listed : EntriesOf spelled parts list)
    (reads : ∀ part ∈ parts, ∀ entry, spelled part (trim entry) → read entry = .ok part) :
    (entries list).mapM read = .ok parts :=
  mapM_ok_iff.2 (listed.forall₂ reads)

theorem EntriesOf.of_mapM {read : List Char → Except Rejection Part}
    (collected : (entries list).mapM read = .ok parts)
    (reads : ∀ entry ∈ entries list, ∀ part, read entry = .ok part → spelled part (trim entry)) :
    EntriesOf spelled parts list := by
  have kept := (List.forall₂_and_left _ _).2 ⟨fun _ member => member, mapM_ok_iff.1 collected⟩
  exact kept.imp fun entry part held => reads entry held.1 part held.2

/-- A phrase of two words does not begin with a chunk that something else than its second word
follows. -/
theorem matchPhrase?_pair {first second : String} {chunk after : List Char}
    (lettered : Phrase.Lettered [first, second]) (solid : ∀ c ∈ chunk, isSpace c = false)
    (run : IsGap gap) (stop : ∀ c ∈ after.head?, c.isAlpha = false ∧ isSpace c = false) :
    matchPhrase? [first, second] (chunk ++ (gap ++ after)) = none := by
  have unlettered : ∀ c ∈ (gap ++ after).head?, c.isAlpha = false := by
    cases gap with
    | nil => exact fun c member => (stop c member).1
    | cons c more =>
      rintro _ ⟨⟩
      exact run.unlettered c List.mem_cons_self
  have behind : matchPhrase? [second] (gap ++ after |>.dropWhile isSpace) = none := by
    rw [run.dropWhile_append fun c first => (stop c first).2]
    cases after with
    | nil => exact matchPhrase?_nil lettered.tail
    | cons c after => exact matchPhrase?_unlettered lettered.tail (stop c rfl).1
  have letters := (lettered.words first List.mem_cons_self).2
  rw [matchPhrase?, matchWord?_append_of_stop letters unlettered]
  -- If the first word is matched, something else than the second one follows the gap.
  cases found : matchWord? first.toList chunk with
  | none => rfl
  | some split =>
    obtain ⟨written, back⟩ := split
    have whole := matchWord?_append found
    cases back with
    | nil => simp [behind]
    | cons c back =>
      have space := solid c (by simp [← whole])
      simp [space]

/-- All white space of the text may stand around keywords. -/
def OnlySpaces (text : List Char) : Prop :=
  ∀ c ∈ text, isBlank c = true → isSpace c = true

instance (text : List Char) : Decidable (OnlySpaces text) :=
  decidable_of_iff ((text.all fun c => !isBlank c || isSpace c) = true) (by
    rw [List.all_eq_true]
    exact forall₂_congr fun c _ => by cases isBlank c <;> simp)

theorem OnlySpaces.of_subset {part text : List Char} (plain : OnlySpaces text)
    (within : part ⊆ text) : OnlySpaces part :=
  fun c member => plain c (within member)

namespace ListText

theorem trimmed (listed : ListText spelled parts list)
    (trimmed : ∀ part ∈ parts, ∀ item, spelled part item → Trimmed item ∧ item ≠ []) :
    Trimmed list ∧ list ≠ [] := by
  induction listed with
  | last here => exact trimmed _ List.mem_cons_self _ here
  | @more part parts item before after rest here gaps later ih =>
    rw [List.forall_mem_cons] at trimmed
    obtain ⟨first, filled⟩ := trimmed.1 _ here
    obtain ⟨last, filled'⟩ := ih trimmed.2
    have whole := trimmed_between first last filled filled' (before ++ ',' :: after)
    constructor
    · simpa using whole
    · simp [filled]

theorem entriesOf (listed : ListText spelled parts list)
    (items : ∀ part ∈ parts, ∀ item, spelled part item → Trimmed item ∧ ',' ∉ item) :
    EntriesOf spelled parts list := by
  induction listed with
  | @last part item here =>
    obtain ⟨around, alone⟩ := items _ List.mem_cons_self _ here
    rw [EntriesOf, entries_eq_singleton alone]
    exact .cons (around.trim_eq.symm ▸ here) .nil
  | @more part parts item before after rest here gaps later ih =>
    rw [List.forall_mem_cons] at items
    obtain ⟨trimmed, free⟩ := items.1 _ here
    have alone : ',' ∉ item ++ before := by
      rw [List.mem_append, not_or]
      exact ⟨free, gaps.1.no_comma⟩
    have around : trim ([] ++ item ++ before) = item := trimmed.trim_around nofun gaps.1.blank
    rw [EntriesOf, entries, pieces_append rfl, ← entries, ← entries, entries_eq_singleton alone]
    exact .cons (around.symm ▸ here) ((entriesOf_gap_iff gaps.2).2 (ih items.2))

theorem intercalate {write : Part → List Char} (nonempty : parts ≠ [])
    (items : ∀ part ∈ parts, spelled part (write part)) :
    ListText spelled parts ([',', ' '].intercalate (parts.map write)) := by
  induction parts with
  | nil => exact absurd rfl nonempty
  | cons part parts ih =>
    rw [List.forall_mem_cons] at items
    cases parts with
    | nil => simpa using ListText.last items.1
    | cons next parts =>
      have gaps : IsGap [] ∧ IsGap [' '] := by decide
      have whole := ListText.more items.1 gaps (ih (by simp) items.2)
      simpa [List.intercalate_cons_cons] using whole

theorem no_quote (listed : ListText spelled parts list)
    (items : ∀ part ∈ parts, ∀ item, spelled part item → '\'' ∉ item) : '\'' ∉ list := by
  induction listed with
  | last here => exact items _ List.mem_cons_self _ here
  | more here gaps later ih =>
    rw [List.forall_mem_cons] at items
    simp only [List.mem_append, List.mem_cons, not_or]
    exact ⟨⟨items.1 _ here, gaps.1.no_quote⟩, by decide, gaps.2.no_quote, ih items.2⟩

/-- No phrase of two words begins in a written list, for a comma stands between any two names. -/
theorem passes {first second : String} (listed : ListText spelled parts list)
    (lettered : Phrase.Lettered [first, second])
    (solid : ∀ part ∈ parts, ∀ item, spelled part item → ∀ c ∈ item, isSpace c = false)
    (place : Place) : Passes [⟨(), [first, second]⟩] place list [] := by
  have keywords : ∀ keyword ∈ [(⟨(), [first, second]⟩ : Keyword Unit)], keyword.phrase.Lettered :=
    List.forall_mem_singleton.2 lettered
  induction listed generalizing place with
  | last here =>
    have dense := solid _ List.mem_cons_self _ here
    refine passes_solid dense fun _ => matchAny?_eq_none_iff.2 (List.forall_mem_singleton.2 ?_)
    exact matchPhrase?_pair lettered dense (nofun : IsGap []) nofun
  | @more part parts item before after rest here gaps later ih =>
    rw [List.forall_mem_cons] at solid
    have dense := solid.1 _ here
    have comma : ∀ c ∈ (',' :: (after ++ rest)).head?, c.isAlpha = false ∧ isSpace c = false := by
      rintro c ⟨⟩
      decide
    have border := unlettered_of_separator gaps
    have whole : item ++ before ++ ',' :: (after ++ rest) =
        item ++ (before ++ ',' :: after) ++ rest := by
      simp
    rw [whole, passes_append_iff, passes_append_iff]
    refine ⟨⟨passes_solid dense fun _ => ?_, passes_unlettered keywords border⟩, ih solid.2 _⟩
    refine matchAny?_eq_none_iff.2 (List.forall_mem_singleton.2 ?_)
    simpa using matchPhrase?_pair lettered dense gaps.1 comma

end ListText

namespace Query

theorem groupEntry_eq_ok_iff {whole entry : List Char} {name : String} :
    groupEntry whole entry = .ok name ↔ NameText name (trim entry) ∧ name.toList ≠ [] := by
  simp only [groupEntry, NameText]
  split
  · rename_i empty
    rw [List.isEmpty_iff] at empty
    simp only [reduceCtorEq, false_iff, empty, not_and, not_not]
    exact Eq.symm
  · rename_i filled
    rw [List.isEmpty_iff] at filled
    rw [Except.ok.injEq]
    constructor
    · rintro rfl
      simpa using filled
    · intro held
      rw [held.1, String.ofList_toList]

theorem entriesOf_names {names : List String} (listed : ListText NameText names list)
    (entry : ∀ name ∈ names, IsEntry name) : EntriesOf NameText names list :=
  listed.entriesOf fun name member _ text =>
    text ▸ ⟨(entry name member).trimmed, (entry name member).free⟩

theorem readGroupBy_of_listText {names : List String} (listed : ListText NameText names list)
    (entry : ∀ name ∈ names, IsEntry name) (run : IsGap gap) :
    readGroupBy (gap ++ list) = .ok names :=
  ((entriesOf_gap_iff run).2 (entriesOf_names listed entry)).mapM_eq fun name member _ text =>
    groupEntry_eq_ok_iff.2 ⟨text, (entry name member).nonempty⟩

theorem fieldNames?_of_listText {names : List String} (listed : ListText NameText names list)
    (entry : ∀ name ∈ names, IsEntry name) : fieldNames? list = some names := by
  refine mapM_some_iff.2 ((entriesOf_names listed entry).forall₂ ?_)
  intro name member item text
  have same : trim item = name.toList := text
  simp [same, (entry name member).nonempty]

theorem entries_of_readGroupBy {names : List String} (read : readGroupBy list = .ok names) :
    EntriesOf NameText names list :=
  .of_mapM read fun _ _ _ here => (groupEntry_eq_ok_iff.1 here).1

theorem direction?_of_sameLetters {direction : Direction} {word : List Char}
    (same : sameLetters direction.keyword.toList word = true) :
    direction? word = some direction := by
  cases direction with
  | ascending => simp [direction?, same]
  | descending =>
    have other : sameLetters Direction.ascending.keyword.toList word = false := by
      apply Bool.eq_false_iff.2
      intro equal
      rw [sameLetters, beq_iff_eq] at same equal
      have clash := equal.trans same.symm
      revert clash
      decide
    simp [direction?, same, other]

end Query

namespace KeyText

variable {key : OrderKey} {item : List Char}

theorem solid_of_direction {direction : Direction} {word : List Char}
    (same : sameLetters direction.keyword.toList word = true) :
    word ≠ [] ∧ ∀ c ∈ word, isBlank c = false ∧ c ≠ ',' := by
  rw [sameLetters, beq_iff_eq] at same
  have letters : ∀ letter ∈ direction.keyword.toList.map Char.toLower,
      (!isBlank letter && letter != ',') = true := List.all_eq_true.1 (by cases direction <;> rfl)
  constructor
  · rintro rfl
    cases direction <;> cases same
  · intro c member
    have lowered := letters c.toLower (same ▸ List.mem_map_of_mem member)
    rw [Bool.and_eq_true, Bool.not_eq_true', bne_iff_ne] at lowered
    obtain ⟨visible, plain⟩ := lowered
    constructor
    · apply Bool.eq_false_iff.2
      intro blank
      rw [toLower_of_isBlank blank, blank] at visible
      cases visible
    · rintro rfl
      exact plain rfl

theorem trimmed (text : KeyText key item) (field : IsOrderField key.field) :
    Trimmed item ∧ item ≠ [] := by
  have name := trimmed_of_solid field.solid
  cases text with
  | bare => exact ⟨name, field.nonempty⟩
  | directed run nonempty same =>
    obtain ⟨filled, solid⟩ := solid_of_direction same
    have word := trimmed_of_solid fun c member => (solid c member).1
    exact ⟨trimmed_between name word field.nonempty filled _, by simp [field.nonempty]⟩

theorem no_comma (text : KeyText key item) (field : IsOrderField key.field) : ',' ∉ item := by
  cases text with
  | bare => exact field.free
  | directed run nonempty same =>
    rw [List.mem_append, List.mem_append, not_or, not_or]
    refine ⟨⟨field.free, fun comma => ?_⟩, fun comma => ?_⟩
    · cases run _ comma
    · exact ((solid_of_direction same).2 _ comma).2 rfl

theorem orderEntry_eq {whole entry : List Char} (text : KeyText key (trim entry))
    (field : IsOrderField key.field) : orderEntry whole entry = .ok key := by
  have first := words_eq_singleton field.nonempty field.solid
  obtain ⟨name, direction⟩ := key
  rw [orderEntry, ← words_trim]
  generalize trim entry = item at text
  cases text with
  | bare ascending =>
    obtain rfl : direction = .ascending := ascending
    simp [first]
  | @directed gap word run nonempty same =>
    obtain ⟨filled, solid⟩ := solid_of_direction same
    have last := words_eq_singleton filled fun c member => (solid c member).1
    rw [List.append_assoc, words_append_blanks run.blank nonempty, first, last]
    simp [direction?_of_sameLetters same]

theorem of_orderEntry {whole entry : List Char} (read : orderEntry whole entry = .ok key)
    (plain : OnlySpaces entry) : KeyText key (trim entry) := by
  rw [orderEntry] at read
  split at read
  · cases read
  · rename_i field single
    cases read
    have bare : KeyText ⟨String.ofList field, .ascending⟩ (String.ofList field).toList := .bare rfl
    rw [String.toList_ofList] at bare
    rwa [trim_of_words_singleton single]
  · rename_i field word more several
    split at read
    · cases read
    · rename_i direction named
      split at read
      · cases read
        obtain ⟨gap, nonempty, blank, same⟩ := trim_of_words_pair several
        have within : gap ⊆ entry := fun c member => mem_of_mem_trim (by simp [same, member])
        have run : IsGap gap := fun c member => plain c (within member) (blank c member)
        have spelled : sameLetters direction.keyword.toList word = true := by
          simpa using List.find?_some named
        have directed : KeyText ⟨String.ofList field, direction⟩
            ((String.ofList field).toList ++ gap ++ word) := .directed run nonempty spelled
        rw [String.toList_ofList] at directed
        rwa [same]
      · cases read

end KeyText

theorem Query.readOrderBy_of_listText {keys : List OrderKey} (listed : ListText KeyText keys list)
    (fields : ∀ key ∈ keys, IsOrderField key.field) (run : IsGap gap) :
    readOrderBy (gap ++ list) = .ok keys := by
  have parts : EntriesOf KeyText keys list := listed.entriesOf fun key member item text =>
    ⟨(text.trimmed (fields key member)).1, text.no_comma (fields key member)⟩
  exact ((entriesOf_gap_iff run).2 parts).mapM_eq fun key member _ text =>
    text.orderEntry_eq (fields key member)

theorem Query.entries_of_readOrderBy {keys : List OrderKey} (read : readOrderBy list = .ok keys)
    (plain : OnlySpaces list) : EntriesOf KeyText keys list :=
  .of_mapM read fun _ member _ here =>
    .of_orderEntry here (plain.of_subset fun _ inside => mem_of_mem_pieces member inside)

end TableQuery
