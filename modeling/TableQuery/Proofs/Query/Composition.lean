import TableQuery.Proofs.Query.Keywords
import TableQuery.Proofs.Query.Lists
import TableQuery.Proofs.Query.Occurrences

/-! Queries put together from their clauses.

Any of the clauses may be missing, and the selection and the filter may hold every keyword in
literals. The cuts are made from the end of the text, so each search runs over everything in front
of its clause: over whole clauses, their keywords included.
-/

set_option autoImplicit false

namespace TableQuery

open Query Text

variable {Part : Type} {phrase other : Phrase} {holds : Part → List Char → Prop}
  {part : Option Part} {clause front rest : List Char} {place : Place}

inductive ClauseText (phrase : Phrase) (holds : Part → List Char → Prop) :
    Option Part → List Char → Prop
  | absent : ClauseText phrase holds none []
  | present {part : Part} {lead written gap content : List Char} (gaps : IsGap lead ∧ IsGap gap)
      (nonempty : lead ≠ [] ∧ gap ≠ []) (spelled : Spells phrase written)
      (here : holds part content) :
      ClauseText phrase holds (some part) (lead ++ written ++ gap ++ content)

def FragmentText (fragment text : List Char) : Prop :=
  text = fragment

/-- The text is the selection and then the clauses, with nothing else between them. The two lists
are written in any of the ways given for them. -/
def Query.Clauses.Composes (names : List String → List Char → Prop)
    (keys : List OrderKey → List Char → Prop) (clauses : Clauses) (text : List Char) : Prop :=
  ∃ filter groupBy orderBy,
    ClauseText ["WHERE"] FragmentText clauses.filter filter ∧
      ClauseText ["GROUP", "BY"] names clauses.groupBy groupBy ∧
      ClauseText ["ORDER", "BY"] keys clauses.orderBy orderBy ∧
      text = clauses.selection ++ filter ++ groupBy ++ orderBy

/-- A part of a query that shows none of the phrases, not even at its start. -/
structure IsPart (phrases : List Phrase) (text : List Char) : Prop where
  nonempty : text ≠ []
  trimmed : Trimmed text
  closed : Closed text
  never : ∀ phrase ∈ phrases, ¬Occurs phrase (' ' :: text)

/-- Clauses that can be written: no part shows the phrase of a clause that may follow it. -/
structure Query.Clauses.Writable (clauses : Clauses) : Prop where
  selection : IsPart [["WHERE"], ["GROUP", "BY"], ["ORDER", "BY"]] clauses.selection
  filter : ∀ text ∈ clauses.filter, IsPart [["GROUP", "BY"], ["ORDER", "BY"]] text
  groupBy : ∀ names ∈ clauses.groupBy, ∀ name ∈ names, IsListName name
  orderBy : ∀ keys ∈ clauses.orderBy, ∀ key ∈ keys, IsListName key.field

namespace Query

theorem endsBefore_of_matchAny? {suffix : List Char}
    (absent : matchAny? (singles phrase.tail) (suffix.dropWhile isSpace) = none) :
    phrase.EndsBefore suffix := by
  induction phrase with
  | nil => trivial
  | cons word more ih =>
    cases more with
    | nil => trivial
    | cons following more =>
      rw [List.tail_cons, singles, List.map_cons, matchAny?_eq_none_iff,
        List.forall_mem_cons] at absent
      exact ⟨matchPhrase?_first rfl absent.1, ih (matchAny?_eq_none_iff.2 absent.2)⟩

theorem Phrase.Lettered.singles (lettered : phrase.Lettered) :
    ∀ word ∈ phrase, Phrase.Lettered [word] := fun word member =>
  ⟨by simp, List.forall_mem_singleton.2 (lettered.words word member)⟩

theorem sealed_nil (lettered : phrase.Lettered) : Sealed [⟨(), phrase⟩] [] where
  ends := rfl
  lettered := List.forall_mem_singleton.2 lettered
  phrases := by
    refine List.forall_mem_singleton.2 (endsBefore_of_matchAny? (matchAny?_eq_none_iff.2 ?_))
    have words := fun word member => lettered.singles word (List.mem_of_mem_tail member)
    exact fun keyword member => matchPhrase?_nil (lettered_singles words keyword member)

end Query

/-- A search for the phrase comes through the front, and behind it no literal is open. -/
structure Crosses (phrase : Phrase) (front rest : List Char) : Prop where
  passes : Passes [⟨(), phrase⟩] .start front rest
  closed : Closed front

theorem IsPart.passes {phrases : List Phrase} {text : List Char} (shown : IsPart phrases text)
    (member : phrase ∈ phrases) (border : Sealed [⟨(), phrase⟩] rest)
    (outside : place.inside = false) (starts : place.startsToken = true) :
    Passes [⟨(), phrase⟩] place text rest ∧ (place.after text).inside = false :=
  ⟨passes_of_not_occurs (shown.never phrase member) border outside starts,
    (Place.inside_after_congr outside starts text).trans shown.closed⟩

theorem IsPart.crosses {phrases : List Phrase} {text : List Char} (shown : IsPart phrases text)
    (member : phrase ∈ phrases) (border : Sealed [⟨(), phrase⟩] rest) : Crosses phrase text rest :=
  have parts : Passes [⟨(), phrase⟩] .start text rest ∧ (Place.start.after text).inside = false :=
    shown.passes member border rfl rfl
  ⟨parts.1, parts.2⟩

theorem Query.Spells.after {written lead gap : List Char} (spelled : Spells phrase written)
    (lettered : phrase.Lettered) (gaps : IsGap lead ∧ IsGap gap) (nonempty : gap ≠ [])
    (outside : place.inside = false) :
    (place.after (lead ++ written ++ gap)).inside = false ∧
      (place.after (lead ++ written ++ gap)).previous.any isSpace = true := by
  rw [Place.after_append, Place.after_append, Place.after_inside gaps.2.no_quote,
    Place.after_inside (spelled.no_quote lettered), Place.after_inside gaps.1.no_quote]
  exact ⟨outside, Place.previous_after_gap gaps.2 nonempty _⟩

namespace ClauseText

/-- A phrase does not go on with a clause behind it. -/
theorem sealed (text : ClauseText other holds part clause) (lettered : other.Lettered)
    (apart : ∀ key ∈ phrase.tail, ∀ word ∈ other.head?, sameLetters key.toList word.toList = false)
    (border : Sealed [⟨(), phrase⟩] rest) : Sealed [⟨(), phrase⟩] (clause ++ rest) := by
  cases text with
  | absent => exact border
  | @present part lead written gap content gaps nonempty spelled here =>
    have whole : lead ++ written ++ gap ++ content ++ rest =
        lead ++ (written ++ (gap ++ (content ++ rest))) := by simp
    have keys := fun word member =>
      (border.lettered _ List.mem_cons_self).singles word (List.mem_of_mem_tail member)
    have stop := head?_of_endsKeyword (gaps.2.endsKeyword_append nonempty.2 (content ++ rest))
    rw [whole]
    -- A phrase that began in front would go on with the first word of the clause.
    refine ⟨gaps.1.endsKeyword_append nonempty.1 _, border.lettered, ?_⟩
    refine List.forall_mem_singleton.2 (endsBefore_of_matchAny? ?_)
    rw [gaps.1.dropWhile_append (spelled.head_solid lettered)]
    exact spelled.matchAny?_eq_none lettered keys apart stop

theorem sealed_last (text : ClauseText other holds part clause) (lettered : other.Lettered)
    (searched : phrase.Lettered)
    (apart : ∀ key ∈ phrase.tail, ∀ word ∈ other.head?,
      sameLetters key.toList word.toList = false) : Sealed [⟨(), phrase⟩] clause := by
  have last := text.sealed lettered apart (sealed_nil searched)
  rwa [List.append_nil] at last

theorem crosses (text : ClauseText other holds part clause) (lettered : other.Lettered)
    (searched : phrase.Lettered) {first : String} (head : phrase.head? = some first)
    (apart : ∀ word ∈ other, sameLetters first.toList word.toList = false)
    (contents : ∀ held ∈ part, ∀ content, holds held content → ∀ place : Place,
      place.inside = false → place.startsToken = true →
        Passes [⟨(), phrase⟩] place content rest ∧ (place.after content).inside = false)
    (before : Crosses phrase front (clause ++ rest)) : Crosses phrase (front ++ clause) rest := by
  cases text with
  | absent => simpa using before
  | @present part lead written gap content gaps nonempty spelled here =>
    have keywords : ∀ keyword ∈ [(⟨(), phrase⟩ : Keyword Unit)], keyword.phrase.Lettered :=
      List.forall_mem_singleton.2 searched
    have begins : Begin [(⟨(), phrase⟩ : Keyword Unit)] [first] :=
      List.forall_mem_singleton.2 ⟨first, List.mem_cons_self, head⟩
    have keys : ∀ word ∈ [first], Phrase.Lettered [word] :=
      List.forall_mem_singleton.2 (searched.singles first (List.mem_of_mem_head? head))
    have behind := head?_of_endsKeyword (gaps.2.endsKeyword_append nonempty.2 (content ++ rest))
    obtain ⟨closed, space⟩ := spelled.after lettered gaps nonempty.2 before.closed
    obtain ⟨passes, closed'⟩ :=
      contents part rfl content here _ closed (Place.startsToken_of_space space)
    constructor
    · rw [passes_append_iff]
      refine ⟨before.passes, ?_⟩
      -- White space begins no word, and the words of the clause are none of the phrase.
      rw [passes_append_iff, passes_append_iff, passes_append_iff]
      refine ⟨⟨⟨passes_unlettered keywords gaps.1.unlettered, ?_⟩, ?_⟩, passes⟩
      · refine Passes.of_singles begins ?_
        exact spelled.passes lettered keys (List.forall_mem_singleton.2 apart) behind
      · exact passes_unlettered keywords gaps.2.unlettered
    · rw [Closed, Place.after_append, Place.after_append]
      exact closed'

theorem trimmed (text : ClauseText phrase holds part clause) (filled : Trimmed front ∧ front ≠ [])
    (contents : ∀ held ∈ part, ∀ content, holds held content → Trimmed content ∧ content ≠ []) :
    Trimmed (front ++ clause) ∧ front ++ clause ≠ [] := by
  cases text with
  | absent => simpa using filled
  | @present part lead written gap content gaps nonempty spelled here =>
    obtain ⟨trimmed, content_ne⟩ := contents _ rfl content here
    have whole := trimmed_between filled.1 trimmed filled.2 content_ne (lead ++ written ++ gap)
    exact ⟨by simpa using whole, by simp [filled.2]⟩

/-- The clause is cut off where it was written. -/
theorem cutClause_eq {read : List Char → Except Rejection Part}
    (text : ClauseText phrase holds part clause) (lettered : phrase.Lettered)
    (before : Crosses phrase front clause) (trimmed : Trimmed front)
    (reads : ∀ held ∈ part, ∀ gap content, IsGap gap → holds held content →
      read (gap ++ content) = .ok held) :
    cutClause phrase read (front ++ clause) = .ok (front, part) := by
  cases text with
  | absent =>
    rw [List.append_nil]
    exact cutClause_none_iff.2 ⟨passes_iff_findFrom?.1 before.passes, rfl⟩
  | @present part lead written gap content gaps nonempty spelled here =>
    have ends := gaps.2.endsKeyword_append nonempty.2 content
    have matched : matchAny? [⟨(), phrase⟩] (written ++ (gap ++ content)) =
        some ((), written, gap ++ content) := by
      rw [matchAny?, spelled.matchPhrase?_eq lettered ends]
    have whole : lead ++ written ++ gap ++ content = lead ++ (written ++ (gap ++ content)) := by
      simp
    rw [whole] at before ⊢
    have found := before.passes.find?_eq before.closed gaps.1 nonempty.1
      (List.forall_mem_singleton.2 lettered) (spelled.ne_nil lettered) matched
    have rest : trimEnd (front ++ lead) = front := by
      rw [trimEnd_append gaps.1.blank, trimEnd_eq_self trimmed.last]
    exact cutClause_some_iff.2 ⟨_, found, reads part rfl gap content gaps.2 here, rest.symm⟩

end ClauseText

namespace Query

theorem readFilter_eq {gap content : List Char} (run : IsGap gap) (trimmed : Trimmed content)
    (nonempty : content ≠ []) : readFilter (gap ++ content) = .ok content := by
  simp [readFilter, trim_append run.blank, trimmed.trim_eq, nonempty]

theorem crosses_filter {filter : Option (List Char)} {phrases : List Phrase}
    (filtered : ClauseText ["WHERE"] FragmentText filter clause)
    (shown : ∀ text ∈ filter, IsPart phrases text) (member : phrase ∈ phrases) {first : String}
    (head : phrase.head? = some first)
    (apart : ∀ word ∈ ["WHERE"], sameLetters first.toList word.toList = false)
    (border : Sealed [⟨(), phrase⟩] rest) (before : Crosses phrase front (clause ++ rest)) :
    Crosses phrase (front ++ clause) rest := by
  have searched := border.lettered _ List.mem_cons_self
  refine filtered.crosses (by decide) searched head apart ?_ before
  rintro text held _ rfl place outside starts
  exact (shown _ held).passes member border outside starts

theorem crosses_names {groupBy : Option (List String)} {first second : String}
    (grouped : ClauseText ["GROUP", "BY"] (ListText NameText) groupBy clause)
    (plain : ∀ names ∈ groupBy, ∀ name ∈ names, IsListName name)
    (apart : ∀ word ∈ ["GROUP", "BY"], sameLetters first.toList word.toList = false)
    (border : Sealed [⟨(), [first, second]⟩] rest)
    (before : Crosses [first, second] front (clause ++ rest)) :
    Crosses [first, second] (front ++ clause) rest := by
  have searched := border.lettered _ List.mem_cons_self
  refine grouped.crosses (by decide) searched rfl apart ?_ before
  intro names held list listed place outside starts
  have free : '\'' ∉ list := listed.no_quote fun name member item text =>
    text ▸ (plain names held name member).no_quote
  have alone : Passes [⟨(), [first, second]⟩] place list [] :=
    listed.passes searched
      (fun name member item text => text ▸ (plain names held name member).not_space) place
  exact ⟨passes_of_sealed border (passes_iff_findFrom?.1 alone),
    (Place.after_inside free place).trans outside⟩

/-! The three cuts. Each clause is cut off from a front that holds the clauses before it. -/

variable {filter : Option (List Char)} {groupBy : Option (List String)}
  {orderBy : Option (List OrderKey)} {selection filterText groupText orderText : List Char}

theorem trimmed_filter (part : IsPart [["WHERE"], ["GROUP", "BY"], ["ORDER", "BY"]] selection)
    (filtered : ClauseText ["WHERE"] FragmentText filter filterText)
    (shown : ∀ text ∈ filter, IsPart [["GROUP", "BY"], ["ORDER", "BY"]] text) :
    Trimmed (selection ++ filterText) ∧ selection ++ filterText ≠ [] := by
  refine filtered.trimmed ⟨part.trimmed, part.nonempty⟩ ?_
  rintro text held _ rfl
  exact ⟨(shown _ held).trimmed, (shown _ held).nonempty⟩

theorem trimmed_names (grouped : ClauseText ["GROUP", "BY"] (ListText NameText) groupBy groupText)
    (plain : ∀ names ∈ groupBy, ∀ name ∈ names, IsListName name)
    (before : Trimmed front ∧ front ≠ []) :
    Trimmed (front ++ groupText) ∧ front ++ groupText ≠ [] := by
  refine grouped.trimmed before fun names held list listed => listed.trimmed ?_
  intro name member item text
  exact text ▸ ⟨(plain names held name member).trimmed, (plain names held name member).nonempty⟩

theorem trimmed_keys (ordered : ClauseText ["ORDER", "BY"] (ListText KeyText) orderBy orderText)
    (plain : ∀ keys ∈ orderBy, ∀ key ∈ keys, IsListName key.field)
    (before : Trimmed front ∧ front ≠ []) :
    Trimmed (front ++ orderText) ∧ front ++ orderText ≠ [] := by
  refine ordered.trimmed before fun keys held list listed => listed.trimmed ?_
  exact fun key member item text => text.trimmed (plain keys held key member).isOrderField

theorem cutClause_filter (part : IsPart [["WHERE"], ["GROUP", "BY"], ["ORDER", "BY"]] selection)
    (filtered : ClauseText ["WHERE"] FragmentText filter filterText)
    (shown : ∀ text ∈ filter, IsPart [["GROUP", "BY"], ["ORDER", "BY"]] text) :
    cutClause ["WHERE"] readFilter (selection ++ filterText) = .ok (selection, filter) := by
  have last : Sealed [⟨(), ["WHERE"]⟩] filterText :=
    filtered.sealed_last (by decide) (by decide) (by decide)
  refine filtered.cutClause_eq (by decide) (part.crosses (by decide) last) part.trimmed ?_
  rintro text held gap _ run rfl
  exact readFilter_eq run (shown _ held).trimmed (shown _ held).nonempty

theorem cutClause_names (part : IsPart [["WHERE"], ["GROUP", "BY"], ["ORDER", "BY"]] selection)
    (filtered : ClauseText ["WHERE"] FragmentText filter filterText)
    (shown : ∀ text ∈ filter, IsPart [["GROUP", "BY"], ["ORDER", "BY"]] text)
    (grouped : ClauseText ["GROUP", "BY"] (ListText NameText) groupBy groupText)
    (plain : ∀ names ∈ groupBy, ∀ name ∈ names, IsListName name) :
    cutClause ["GROUP", "BY"] readGroupBy (selection ++ filterText ++ groupText) =
      .ok (selection ++ filterText, groupBy) := by
  have last : Sealed [⟨(), ["GROUP", "BY"]⟩] groupText :=
    grouped.sealed_last (by decide) (by decide) (by decide)
  have start := part.crosses (by decide) (filtered.sealed (by decide) (by decide) last)
  have before := crosses_filter filtered shown (by decide) rfl (by decide) last start
  refine grouped.cutClause_eq (by decide) before (trimmed_filter part filtered shown).1 ?_
  intro names held gap list run listed
  exact readGroupBy_of_listText listed
    (fun name member => (plain names held name member).isEntry) run

theorem cutClause_keys (part : IsPart [["WHERE"], ["GROUP", "BY"], ["ORDER", "BY"]] selection)
    (filtered : ClauseText ["WHERE"] FragmentText filter filterText)
    (shown : ∀ text ∈ filter, IsPart [["GROUP", "BY"], ["ORDER", "BY"]] text)
    (grouped : ClauseText ["GROUP", "BY"] (ListText NameText) groupBy groupText)
    (plain : ∀ names ∈ groupBy, ∀ name ∈ names, IsListName name)
    (ordered : ClauseText ["ORDER", "BY"] (ListText KeyText) orderBy orderText)
    (plain' : ∀ keys ∈ orderBy, ∀ key ∈ keys, IsListName key.field) :
    cutClause ["ORDER", "BY"] readOrderBy (selection ++ filterText ++ groupText ++ orderText) =
      .ok (selection ++ filterText ++ groupText, orderBy) := by
  have last : Sealed [⟨(), ["ORDER", "BY"]⟩] orderText :=
    ordered.sealed_last (by decide) (by decide) (by decide)
  -- The search runs over the selection, the filter and the names, each in front of the others.
  have middle := grouped.sealed (by decide) (by decide) last
  have start := part.crosses (by decide) (filtered.sealed (by decide) (by decide) middle)
  have through := crosses_filter filtered shown (by decide) rfl (by decide) middle start
  have before := crosses_names grouped plain (by decide) last through
  have trimmed := trimmed_names grouped plain (trimmed_filter part filtered shown)
  refine ordered.cutClause_eq (by decide) before trimmed.1 ?_
  intro keys held gap list run listed
  exact readOrderBy_of_listText listed
    (fun key member => (plain' keys held key member).isOrderField) run

/-- The clauses are read back from every text that is put together from them. -/
theorem Clauses.ofQuery_of_composes {clauses : Clauses} {text lead trail : List Char}
    (composes : clauses.Composes (ListText NameText) (ListText KeyText) text)
    (writable : clauses.Writable) (around : IsGap lead ∧ IsGap trail) :
    Clauses.ofQuery (lead ++ text ++ trail) = .ok clauses := by
  obtain ⟨filterText, groupText, orderText, filtered, grouped, ordered, rfl⟩ := composes
  obtain ⟨part, shown, names, keys⟩ := writable
  have first := cutClause_keys part filtered shown grouped names ordered keys
  have second := cutClause_names part filtered shown grouped names
  have third := cutClause_filter part filtered shown
  have front := trimmed_names grouped names (trimmed_filter part filtered shown)
  have body := (trimmed_keys ordered keys front).1.trim_around around.1.blank around.2.blank
  rw [Clauses.ofQuery, body]
  exact bind_eq_ok_iff.2 ⟨_, first, bind_eq_ok_iff.2 ⟨_, second, bind_eq_ok_iff.2 ⟨_, third, rfl⟩⟩⟩

theorem isPart_of_find? {phrases : List Phrase} {text : List Char} (nonempty : text ≠ [])
    (ends : isBlank (text.head nonempty) = false ∧ isBlank (text.getLast nonempty) = false)
    (closed : Closed text) (absent : ∀ phrase ∈ phrases, phrase.Lettered ∧
      find? [⟨(), phrase⟩] (' ' :: text) = none) : IsPart phrases text where
  nonempty := nonempty
  trimmed := by
    constructor
    · rw [List.head?_eq_some_head nonempty]
      simpa using ends.1
    · rw [List.getLast?_eq_some_getLast nonempty]
      simpa using ends.2
  closed := closed
  never := by
    intro phrase member
    obtain ⟨lettered, silent⟩ := absent phrase member
    exact (find?_eq_none_iff lettered).1 silent

def disguisedClauses : Clauses where
  selection := "SELECT 'a WHERE b' FROM t".toList
  filter := some "note = 'x ORDER BY y' AND c > '\n group by '".toList
  groupBy := some ["ORDER", "by"]
  orderBy := some [⟨"GROUP", .descending⟩, ⟨"n", .ascending⟩]

def disguisedQuery : List Char :=
  "SELECT 'a WHERE b' FROM t\nwHeRe  note = 'x ORDER BY y' AND c > '\n group by '".toList ++
    " Group\tBY ORDER ,by oRdEr  bY GROUP\tdeSC , n".toList

theorem disguisedClauses_composes :
    disguisedClauses.Composes (ListText NameText) (ListText KeyText) disguisedQuery := by
  have first : NameText "ORDER" "ORDER".toList := rfl
  have second : NameText "by" "by".toList := rfl
  have names : ListText NameText ["ORDER", "by"] "ORDER ,by".toList :=
    .more first ⟨(by decide : IsGap [' ']), (by decide : IsGap [])⟩ (.last second)
  have descending : KeyText ⟨"GROUP", .descending⟩ "GROUP\tdeSC".toList :=
    .directed (by decide : IsGap ['\t']) (by decide)
      (by decide : sameLetters "DESC".toList "deSC".toList = true)
  have keys : ListText KeyText [⟨"GROUP", .descending⟩, ⟨"n", .ascending⟩]
      "GROUP\tdeSC , n".toList :=
    .more descending ⟨(by decide : IsGap [' ']), (by decide : IsGap [' '])⟩ (.last (.bare rfl))
  have filter : Spells ["WHERE"] "wHeRe".toList := .last (by decide)
  have group : Spells ["GROUP", "BY"] "Group\tBY".toList :=
    .more (by decide : sameLetters "GROUP".toList "Group".toList = true)
      (by decide : IsGap ['\t']) (by decide) (.last (by decide))
  have order : Spells ["ORDER", "BY"] "oRdEr  bY".toList :=
    .more (by decide : sameLetters "ORDER".toList "oRdEr".toList = true)
      (by decide : IsGap [' ', ' ']) (by decide) (.last (by decide))
  exact ⟨_, _, _,
    .present ⟨(by decide : IsGap ['\n']), (by decide : IsGap [' ', ' '])⟩ (by decide) filter rfl,
    .present ⟨(by decide : IsGap [' ']), (by decide : IsGap [' '])⟩ (by decide) group names,
    .present ⟨(by decide : IsGap [' ']), (by decide : IsGap [' '])⟩ (by decide) order keys,
    by decide +kernel⟩

theorem disguisedClauses_writable : disguisedClauses.Writable where
  selection := isPart_of_find? (by decide) (by decide) (by decide +kernel) (by decide +kernel)
  filter := by
    rintro text ⟨⟩
    exact isPart_of_find? (by decide) (by decide) (by decide +kernel) (by decide +kernel)
  groupBy := by
    rintro names ⟨⟩
    decide
  orderBy := by
    rintro keys ⟨⟩
    decide

theorem ofQuery_of_disguised_query :
    disguisedClauses.Composes (ListText NameText) (ListText KeyText) disguisedQuery ∧
      disguisedClauses.Writable ∧ (IsGap [' ', '\t'] ∧ IsGap ['\n']) ∧
      Clauses.ofQuery ([' ', '\t'] ++ disguisedQuery ++ ['\n']) = .ok disguisedClauses :=
  have around : IsGap [' ', '\t'] ∧ IsGap ['\n'] := by decide
  ⟨disguisedClauses_composes, disguisedClauses_writable, around,
    Clauses.ofQuery_of_composes disguisedClauses_composes disguisedClauses_writable around⟩

end Query

end TableQuery
