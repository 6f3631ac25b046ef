import TableQuery.Proofs.Query.Keywords
import TableQuery.Proofs.Query.Lists
import TableQuery.Proofs.Query.Occurrences
import TableQuery.Proofs.Query.Written

/-! The ways to write a selection.

Keywords have any letter case, white space between words is any run, and around commas and the
equals sign it is free. A selection is read back from all of these texts: each search passes over
the names in front of the word it looks for.
-/

set_option autoImplicit false

namespace TableQuery

open Query Text

variable {words : List String} {place : Place} {rest text lead trail : List Char}

/-- The words at which the text of a selection is taken apart. JOIN counts only behind one of them,
so it may be a name. -/
def selectionWords : List String :=
  ["FROM", "INNER", "LEFT", "RIGHT", "ON"]

/-- A name that stands for itself in a selection: it can be written in a list, and in no letter case
is it one of the words. -/
structure IsSelectionName (name : String) : Prop extends IsListName name where
  other : ∀ word ∈ selectionWords, sameLetters word.toList name.toList = false

inductive KeysText (keys : JoinKeys) : List Char → Prop
  | equality {before after : List Char} (gaps : IsGap before ∧ IsGap after) :
      KeysText keys (keys.left.toList ++ before ++ '=' :: (after ++ keys.right.toList))

inductive JoinText (join : Join) : List Char → Prop
  | on {before word after condition : List Char} (gaps : IsGap before ∧ IsGap after)
      (nonempty : before ≠ [] ∧ after ≠ []) (spelled : sameLetters "ON".toList word = true)
      (keys : KeysText join.keys condition) :
      JoinText join (join.table.toList ++ before ++ word ++ after ++ condition)

inductive HeadText (fields : List String) (table : String) : List Char → Prop
  | select {select gap list before word after : List Char}
      (leading : sameLetters "SELECT".toList select = true) (run : IsGap gap) (filled : gap ≠ [])
      (listed : ListText NameText fields list) (gaps : IsGap before ∧ IsGap after)
      (nonempty : before ≠ [] ∧ after ≠ []) (spelled : sameLetters "FROM".toList word = true) :
      HeadText fields table (select ++ gap ++ list ++ before ++ word ++ after ++ table.toList)

inductive SelectionText : Selection → List Char → Prop
  | plain {fields : List String} {table : String} {head : List Char}
      (first : HeadText fields table head) : SelectionText ⟨fields, table, none⟩ head
  | joined {fields : List String} {table : String} {join : Join}
      {head before written after body : List Char} (first : HeadText fields table head)
      (gaps : IsGap before ∧ IsGap after) (nonempty : before ≠ [] ∧ after ≠ [])
      (spelled : Spells [join.kind.keyword, "JOIN"] written) (later : JoinText join body) :
      SelectionText ⟨fields, table, some join⟩ (head ++ before ++ written ++ after ++ body)

structure Join.Writable (join : Join) : Prop where
  table : IsSelectionName join.table
  left : isOperand join.keys.left.toList = true
  right : isOperand join.keys.right.toList = true

structure Query.Selection.Writable (selection : Selection) : Prop where
  fields : ∀ name ∈ selection.fields, IsSelectionName name
  table : IsSelectionName selection.table
  join : ∀ join ∈ selection.join, join.Writable

instance (name : String) : Decidable (IsSelectionName name) :=
  decidable_of_iff
    (IsListName name ∧ ∀ word ∈ selectionWords, sameLetters word.toList name.toList = false)
    ⟨fun parts => ⟨parts.1, parts.2⟩, fun plain => ⟨plain.toIsListName, plain.other⟩⟩

theorem lettered_of_selectionWords (within : ∀ word ∈ words, word ∈ selectionWords) :
    ∀ word ∈ words, Phrase.Lettered [word] := by
  have lettered : ∀ word ∈ selectionWords, Phrase.Lettered [word] := by decide
  exact fun word member => lettered word (within word member)

theorem Query.IsGap.stop_append {gap : List Char} (run : IsGap gap) (nonempty : gap ≠ [])
    (text : List Char) : ∀ c ∈ (gap ++ text).head?, c.isAlpha = false :=
  head?_of_endsKeyword (run.endsKeyword_append nonempty text)

theorem Query.IsGap.stop {gap : List Char} (run : IsGap gap) : ∀ c ∈ gap.head?, c.isAlpha = false :=
  fun c first => run.unlettered c (List.mem_of_head? first)

theorem Query.afterLeadingWord?_eq {word : String} {written gap : List Char}
    (same : sameLetters word.toList written = true) (run : IsGap gap) (nonempty : gap ≠ [])
    (text : List Char) :
    afterLeadingWord? word (written ++ (gap ++ text)) = some (gap ++ text) := by
  obtain ⟨c, more, rfl⟩ := List.exists_cons_of_ne_nil nonempty
  have space : isSpace c = true := run c List.mem_cons_self
  rw [afterLeadingWord?, matchWord?_of_sameLetters same]
  simp [space]

theorem IsSelectionName.passes {name : String} (plain : IsSelectionName name)
    (within : ∀ word ∈ words, word ∈ selectionWords) (stop : ∀ c ∈ rest.head?, c.isAlpha = false) :
    Passes (singles words) place name.toList rest :=
  passes_word (lettered_of_selectionWords within) plain.not_space
    (fun word member => plain.other word (within word member)) stop

theorem ListText.passes_words {names : List String} {list : List Char}
    (listed : ListText NameText names list) (plain : ∀ name ∈ names, IsSelectionName name)
    (within : ∀ word ∈ words, word ∈ selectionWords) (stop : ∀ c ∈ rest.head?, c.isAlpha = false) :
    Passes (singles words) place list rest := by
  have lettered := lettered_singles (lettered_of_selectionWords within)
  induction listed generalizing place with
  | last here =>
    obtain rfl := here
    exact (plain _ List.mem_cons_self).passes within stop
  | @more name names item before after later here gaps _ ih =>
    obtain rfl := here
    rw [List.forall_mem_cons] at plain
    have border := unlettered_of_separator gaps
    have whole : name.toList ++ before ++ ',' :: (after ++ later) =
        name.toList ++ (before ++ ',' :: after) ++ later := by
      simp
    have ends : ∀ c ∈ (before ++ ',' :: after ++ (later ++ rest)).head?, c.isAlpha = false := by
      intro c first
      refine border c (List.mem_of_head? ?_)
      rwa [List.head?_append_of_ne_nil _ (by simp)] at first
    rw [whole, passes_append_iff, passes_append_iff]
    exact ⟨⟨plain.1.passes within ends, passes_unlettered lettered border⟩, ih plain.2⟩

/-! The condition of a join, and what follows its keyword. -/

namespace KeysText

variable {keys : JoinKeys}

theorem trimmed (written : KeysText keys text) (left : isOperand keys.left.toList = true)
    (right : isOperand keys.right.toList = true) : Trimmed text ∧ text ≠ [] := by
  obtain @⟨before, after, gaps⟩ := written
  have whole := trimmed_between (trimmed_of_isOperand left) (trimmed_of_isOperand right)
    (ne_nil_of_isOperand left) (ne_nil_of_isOperand right) (before ++ '=' :: after)
  exact ⟨by simpa using whole, by simp⟩

theorem joinKeys?_eq (written : KeysText keys text) (left : isOperand keys.left.toList = true)
    (right : isOperand keys.right.toList = true) : joinKeys? text = some keys := by
  obtain @⟨before, after, gaps⟩ := written
  have absent : '=' ∉ keys.left.toList ++ before := by
    rw [List.mem_append, not_or]
    exact ⟨fun equals => (of_mem_operand left equals).2.2 rfl,
      fun equals => nomatch gaps.1 _ equals⟩
  have first : trim ([] ++ keys.left.toList ++ before) = keys.left.toList :=
    (trimmed_of_isOperand left).trim_around nofun gaps.1.blank
  have second : trim (after ++ keys.right.toList) = keys.right.toList := by
    rw [trim_append gaps.2.blank, (trimmed_of_isOperand right).trim_eq]
  rw [List.nil_append] at first
  rw [joinKeys?, cutAt_append absent]
  simp [first, second, left, right]

end KeysText

namespace JoinText

variable {join : Join}

theorem trimmed (written : JoinText join text) (writable : join.Writable) :
    Trimmed text := by
  obtain @⟨before, word, after, condition, gaps, nonempty, spelled, keys⟩ := written
  obtain ⟨last, filled⟩ := keys.trimmed writable.left writable.right
  have whole := trimmed_between writable.table.trimmed last writable.table.nonempty filled
    (before ++ word ++ after)
  simpa using whole

theorem exists_cut (written : JoinText join text) (writable : join.Writable) :
    ∃ cut, findPhrase? ["ON"] (' ' :: text) = some cut ∧
      trim cut.before = join.table.toList ∧ KeysText join.keys (trim cut.after) := by
  obtain @⟨before, word, after, condition, gaps, nonempty, spelled, keys⟩ := written
  have stop := gaps.1.stop_append nonempty.1 (word ++ (after ++ condition))
  have passes : Passes (singles ["ON"]) .start (' ' :: join.table.toList)
      (before ++ (word ++ (after ++ condition))) :=
    ⟨(nomatch ·), writable.table.passes (by decide) stop⟩
  have closed : Closed (' ' :: join.table.toList) := Place.after_inside writable.table.no_quote _
  have found := passes.findPhrase?_eq closed gaps.1 nonempty.1 (by decide) spelled
    (gaps.2.endsKeyword_append nonempty.2 condition)
  have whole : ' ' :: (join.table.toList ++ before ++ word ++ after ++ condition) =
      ' ' :: join.table.toList ++ (before ++ (word ++ (after ++ condition))) := by simp
  have table : trim ([' '] ++ join.table.toList ++ before) = join.table.toList :=
    writable.table.trimmed.trim_around blank_of_mem_space gaps.1.blank
  have behind : trim (after ++ condition) = condition := by
    rw [trim_append gaps.2.blank, (keys.trimmed writable.left writable.right).1.trim_eq]
  rw [whole]
  refine ⟨_, found, table, ?_⟩
  dsimp only
  rw [behind]
  exact keys

theorem readJoin_eq (written : JoinText join text) (writable : join.Writable) (before : IsGap lead)
    (after : IsGap trail) : readJoin join.kind (lead ++ text ++ trail) = .ok join := by
  have around := (written.trimmed writable).trim_around before.blank after.blank
  obtain ⟨cut, found, table, keys⟩ := written.exists_cut writable
  refine readJoin_eq_ok_iff.2 ⟨cut, ?_, ?_, rfl, ?_, ?_⟩
  · rw [around]
    exact found
  · exact keys.joinKeys?_eq writable.left writable.right
  · simpa [table] using writable.table.nonempty
  · rw [table, String.ofList_toList]

end JoinText

/-! Fields and a table. -/

theorem Query.trimmed_of_sameLetters {word : String} {written : List Char}
    (lettered : Phrase.Lettered [word]) (same : sameLetters word.toList written = true) :
    Trimmed written ∧ written ≠ [] := by
  obtain ⟨filled, letters⟩ := lettered.words word List.mem_cons_self
  rw [sameLetters, beq_iff_eq] at same
  refine ⟨trimmed_of_solid fun c member => ?_, ?_⟩
  · have lowered : c.toLower ∈ word.toList.map Char.toLower := same ▸ List.mem_map_of_mem member
    obtain ⟨letter, listed, equal⟩ := List.mem_map.1 lowered
    apply Bool.eq_false_iff.2
    intro blank
    exact toLower_ne_of_not_isAlpha (not_isAlpha_of_isBlank blank) (letters letter listed) equal.symm
  · rintro rfl
    exact filled (List.map_eq_nil_iff.1 same)

theorem listText_no_quote {names : List String} {list : List Char}
    (listed : ListText NameText names list) (plain : ∀ name ∈ names, IsSelectionName name) :
    '\'' ∉ list :=
  listed.no_quote fun name member _ text => text ▸ (plain name member).no_quote

namespace HeadText

variable {fields : List String} {table : String}

theorem trimmed (written : HeadText fields table text) (named : IsSelectionName table) :
    Trimmed text ∧ text ≠ [] := by
  obtain @⟨select, gap, list, before, word, after, leading, run, filled, listed, gaps, nonempty,
    spelled⟩ := written
  obtain ⟨first, select_ne⟩ := trimmed_of_sameLetters (by decide) leading
  have whole := trimmed_between first named.trimmed select_ne named.nonempty
    (gap ++ list ++ before ++ word ++ after)
  exact ⟨by simpa using whole, by simp [select_ne]⟩

theorem no_quote (written : HeadText fields table text)
    (plain : ∀ name ∈ fields, IsSelectionName name) (named : IsSelectionName table) :
    '\'' ∉ text := by
  obtain ⟨leading, run, filled, listed, gaps, nonempty, spelled⟩ := written
  simp only [List.mem_append, not_or]
  exact ⟨⟨⟨⟨⟨⟨no_quote_of_sameLetters (by decide) leading, run.no_quote⟩,
    listText_no_quote listed plain⟩, gaps.1.no_quote⟩, no_quote_of_sameLetters (by decide) spelled⟩,
    gaps.2.no_quote⟩, named.no_quote⟩

theorem passes (written : HeadText fields table text)
    (plain : ∀ name ∈ fields, IsSelectionName name) (named : IsSelectionName table)
    (stop : ∀ c ∈ rest.head?, c.isAlpha = false) : Passes joinKeywords place text rest := by
  obtain @⟨select, gap, list, before, word, after, leading, run, filled, listed, gaps, nonempty,
    spelled⟩ := written
  have kinds : ∀ word ∈ ["INNER", "LEFT", "RIGHT"], word ∈ selectionWords := by decide
  have begins : Begin joinKeywords ["INNER", "LEFT", "RIGHT"] := by
    intro keyword member
    obtain ⟨kind, -, rfl⟩ := List.mem_map.1 member
    exact ⟨kind.keyword, by cases kind <;> decide, rfl⟩
  have keys := lettered_of_selectionWords kinds
  have lettered := lettered_singles keys
  have first : Spells ["SELECT"] select := .last leading
  have second : Spells ["FROM"] word := .last spelled
  refine Passes.of_singles begins ?_
  simp only [passes_append_iff, List.append_assoc]
  refine ⟨?_, passes_unlettered lettered run.unlettered, ?_,
    passes_unlettered lettered gaps.1.unlettered, ?_,
    passes_unlettered lettered gaps.2.unlettered, named.passes kinds stop⟩
  · exact first.passes (by decide) keys (by decide) (run.stop_append filled _)
  · exact listed.passes_words plain kinds (gaps.1.stop_append nonempty.1 _)
  · exact second.passes (by decide) keys (by decide) (gaps.2.stop_append nonempty.2 _)

theorem fieldsAndTable?_eq (written : HeadText fields table text)
    (plain : ∀ name ∈ fields, IsSelectionName name) (named : IsSelectionName table) :
    fieldsAndTable? text = some (fields, table) := by
  obtain @⟨select, gap, list, before, word, after, leading, run, filled, listed, gaps, nonempty,
    spelled⟩ := written
  have from_words : ∀ word ∈ ["FROM"], word ∈ selectionWords := by decide
  have lettered := lettered_singles (lettered_of_selectionWords from_words)
  have passes : Passes (singles ["FROM"]) .start (gap ++ list)
      (before ++ (word ++ (after ++ table.toList))) := by
    rw [passes_append_iff]
    exact ⟨passes_unlettered lettered run.unlettered,
      listed.passes_words plain from_words (gaps.1.stop_append nonempty.1 _)⟩
  have free : '\'' ∉ gap ++ list := by
    rw [List.mem_append, not_or]
    exact ⟨run.no_quote, listText_no_quote listed plain⟩
  have found := passes.findPhrase?_eq (Place.after_inside free _) gaps.1 nonempty.1 (by decide)
    spelled (gaps.2.endsKeyword_append nonempty.2 table.toList)
  obtain ⟨trimmed, list_ne⟩ := listed.trimmed fun name member _ text =>
    text ▸ ⟨(plain name member).trimmed, (plain name member).nonempty⟩
  have names : trim (gap ++ list ++ before) = list := trimmed.trim_around run.blank gaps.1.blank
  have behind : trim (after ++ table.toList) = table.toList := by
    rw [trim_append gaps.2.blank, named.trimmed.trim_eq]
  have leads := afterLeadingWord?_eq leading run filled
    (list ++ (before ++ (word ++ (after ++ table.toList))))
  have entries := fun name member => (plain name member).isEntry
  refine fieldsAndTable?_eq_some_iff.2 ⟨_, _, ?_, found, ?_⟩
  · simpa using leads
  · dsimp only
    rw [names, behind, String.ofList_toList]
    exact ⟨by simpa using list_ne, by simpa using named.nonempty,
      fieldNames?_of_listText listed entries, rfl⟩

end HeadText

/-! The whole selection. -/

theorem Query.matchAny?_joinKeywords {kind : JoinKind} {written : List Char}
    (spelled : Spells [kind.keyword, "JOIN"] written) (ends : endsKeyword rest = true) :
    matchAny? joinKeywords (written ++ rest) = some (kind, written, rest) := by
  have lettered : ∀ kind : JoinKind, Phrase.Lettered [kind.keyword, "JOIN"] := by
    intro kind
    cases kind <;> decide
  have here := spelled.matchPhrase?_eq (lettered kind) ends
  -- The keyword of another join begins with another word.
  have others : ∀ other : JoinKind, other ≠ kind →
      matchPhrase? [other.keyword, "JOIN"] (written ++ rest) = none := by
    intro other apart
    have silent : matchAny? (singles [other.keyword]) (written ++ rest) = none := by
      refine spelled.matchAny?_eq_none (lettered kind) ?_ ?_ (head?_of_endsKeyword ends)
      · exact List.forall_mem_singleton.2 (lettered other).first
      · revert apart
        cases other <;> cases kind <;> decide
    exact matchPhrase?_first rfl (matchAny?_eq_none_iff.1 silent _ List.mem_cons_self)
  have all : joinKeywords =
      [⟨.inner, [JoinKind.inner.keyword, "JOIN"]⟩, ⟨.left, [JoinKind.left.keyword, "JOIN"]⟩,
        ⟨.right, [JoinKind.right.keyword, "JOIN"]⟩] := rfl
  cases kind <;> simp [all, matchAny?, here, others]

theorem HeadText.passes_lead {fields : List String} {table : String}
    (written : HeadText fields table text) (plain : ∀ name ∈ fields, IsSelectionName name)
    (named : IsSelectionName table) (run : IsGap lead)
    (stop : ∀ c ∈ rest.head?, c.isAlpha = false) :
    Passes joinKeywords .start (lead ++ text) rest ∧ Closed (lead ++ text) := by
  have free : '\'' ∉ lead ++ text := by
    rw [List.mem_append, not_or]
    exact ⟨run.no_quote, written.no_quote plain named⟩
  rw [passes_append_iff]
  exact ⟨⟨passes_unlettered (by decide) run.unlettered, written.passes plain named stop⟩,
    Place.after_inside free _⟩

/-- A selection is read back from every way to write it, with white space around it. -/
theorem Query.Selection.ofText_of_selectionText {selection : Selection}
    (spelled : SelectionText selection text) (writable : selection.Writable)
    (around : IsGap lead ∧ IsGap trail) :
    Selection.ofText (lead ++ text ++ trail) = .ok selection := by
  obtain ⟨plain, named, joins⟩ := writable
  cases spelled with
  | plain first =>
    have head := (first.trimmed named).1.trim_around around.1.blank around.2.blank
    have stop : ∀ c ∈ (trail ++ []).head?, c.isAlpha = false := by
      rw [List.append_nil]
      exact around.2.stop
    have passes : Passes joinKeywords .start (lead ++ text ++ trail) [] := by
      rw [passes_append_iff]
      exact ⟨(first.passes_lead plain named around.1 stop).1,
        passes_unlettered (by decide) around.2.unlettered⟩
    refine Selection.ofText_none_iff.2 ⟨passes_iff_findFrom?.1 passes, ?_⟩
    rw [head]
    exact first.fieldsAndTable?_eq plain named
  | @joined fields table join head before written after body first gaps nonempty spelled later =>
    have front := (first.trimmed named).1.trim_around around.1.blank gaps.1.blank
    have behind : endsKeyword (after ++ (body ++ trail)) = true :=
      gaps.2.endsKeyword_append nonempty.2 _
    obtain ⟨passes, closed⟩ := first.passes_lead plain named around.1
      (gaps.1.stop_append nonempty.1 (written ++ (after ++ (body ++ trail))))
    have filled : written ≠ [] := spelled.ne_nil (by cases join.kind <;> decide)
    have found := passes.find?_eq closed gaps.1 nonempty.1 (by decide) filled
      (matchAny?_joinKeywords spelled behind)
    have whole : lead ++ (head ++ before ++ written ++ after ++ body) ++ trail =
        lead ++ head ++ (before ++ (written ++ (after ++ (body ++ trail)))) := by simp
    have read := later.readJoin_eq (joins join rfl) gaps.2 around.2
    rw [List.append_assoc] at read
    rw [Selection.ofText_some_iff, whole]
    refine ⟨_, found, read, ?_⟩
    dsimp only
    rw [front]
    exact first.fieldsAndTable?_eq plain named

def disguisedSelection : Selection where
  fields := ["join", "a.Left"]
  table := "From1"
  join := some ⟨.right, "on_", ⟨"a.x", "ON"⟩⟩

def disguisedSelectionText : String :=
  "sElEcT\tjoin ,\na.Left\r\nFROM From1  right \tJOIN on_ On\x0ca.x =ON"

theorem disguised_selectionText :
    SelectionText disguisedSelection disguisedSelectionText.toList := by
  have first : NameText "join" "join".toList := rfl
  have second : NameText "a.Left" "a.Left".toList := rfl
  have fields : ListText NameText ["join", "a.Left"] "join ,\na.Left".toList :=
    .more first ⟨(by decide : IsGap [' ']), (by decide : IsGap ['\n'])⟩ (.last second)
  have head : HeadText ["join", "a.Left"] "From1"
      "sElEcT\tjoin ,\na.Left\r\nFROM From1".toList :=
    .select (by decide : sameLetters "SELECT".toList "sElEcT".toList = true)
      (by decide : IsGap ['\t']) (by decide) fields
      ⟨(by decide : IsGap ['\r', '\n']), (by decide : IsGap [' '])⟩ (by decide)
      (by decide : sameLetters "FROM".toList "FROM".toList = true)
  have keyword : Spells [JoinKind.right.keyword, "JOIN"] "right \tJOIN".toList :=
    .more (by decide : sameLetters "RIGHT".toList "right".toList = true)
      (by decide : IsGap [' ', '\t']) (by decide) (.last (by decide))
  have keys : KeysText ⟨"a.x", "ON"⟩ "a.x =ON".toList :=
    .equality ⟨(by decide : IsGap [' ']), (by decide : IsGap [])⟩
  have body : JoinText ⟨.right, "on_", ⟨"a.x", "ON"⟩⟩ "on_ On\x0ca.x =ON".toList :=
    .on ⟨(by decide : IsGap [' ']), (by decide : IsGap ['\x0c'])⟩ (by decide)
      (by decide : sameLetters "ON".toList "On".toList = true) keys
  exact .joined head ⟨(by decide : IsGap [' ', ' ']), (by decide : IsGap [' '])⟩ (by decide) keyword
    body

theorem disguisedSelection_writable : disguisedSelection.Writable where
  fields := List.forall_mem_cons.2
    ⟨by decide +kernel, List.forall_mem_singleton.2 (by decide +kernel)⟩
  table := by decide +kernel
  join := by
    rintro join ⟨⟩
    exact ⟨by decide +kernel, by decide +kernel, by decide +kernel⟩

theorem ofText_of_disguised_selection :
    SelectionText disguisedSelection disguisedSelectionText.toList ∧ disguisedSelection.Writable ∧
      (IsGap ['\n'] ∧ IsGap [' ', '\t']) ∧
      Selection.ofText (['\n'] ++ disguisedSelectionText.toList ++ [' ', '\t']) =
        .ok disguisedSelection :=
  have around : IsGap ['\n'] ∧ IsGap [' ', '\t'] := by decide
  ⟨disguised_selectionText, disguisedSelection_writable, around,
    Selection.ofText_of_selectionText disguised_selectionText disguisedSelection_writable around⟩

end TableQuery
