import TableQuery.Proofs.Query.Chunks
import TableQuery.Proofs.Request.Stability

/-! Plain requests: their names are no keywords and hold no separators, quotes or comparisons.

The values of their conditions may be any text without a quote.
-/

set_option autoImplicit false

namespace TableQuery

open Query Text

def reserved : List String :=
  ["FROM", "INNER", "LEFT", "RIGHT", "JOIN", "ON", "WHERE", "AND", "OR", "LIKE", "GROUP", "ORDER",
   "BY"]

def separators : List Char :=
  [',', '\'', '=', '<', '>', '!']

structure IsPlain (name : String) : Prop where
  nonempty : name.toList ≠ []
  solid : ∀ c ∈ name.toList, isBlank c = false ∧ c ∉ separators
  other : ∀ word ∈ reserved, sameLetters word.toList name.toList = false

/-- Two parts of alphanumeric characters and low lines around a dot. -/
def IsTwoPartName (name : String) : Prop :=
  ∃ table field : List Char, name.toList = table ++ '.' :: field ∧ table ≠ [] ∧ field ≠ [] ∧
    ∀ c ∈ table ++ field, isAlphanumeric c = true ∨ c = '_'

structure Request.Plain (request : Request) : Prop where
  fields_ne : request.fields ≠ []
  fields : ∀ name ∈ request.fields, IsPlain name
  table : IsPlain request.table
  join : ∀ join ∈ request.join,
    IsPlain join.table ∧ IsTwoPartName join.keys.left ∧ IsTwoPartName join.keys.right
  conditions : ∀ condition ∈ request.conditions,
    IsPlain condition.field ∧ '\'' ∉ condition.value.toList
  groupBy : ∀ names ∈ request.groupBy, names ≠ [] ∧ ∀ name ∈ names, IsPlain name
  orderBy : ∀ keys ∈ request.orderBy, keys ≠ [] ∧ ∀ key ∈ keys, IsPlain key.field
  aggregate : hasUngroupedAggregate request.chars request.groupBy = request.ungroupedAggregate

namespace IsPlain

variable {name : String}

theorem isEntry (plain : IsPlain name) : IsEntry name where
  nonempty := plain.nonempty
  trimmed := trimmed_of_solid fun c member => (plain.solid c member).1
  free comma := (plain.solid _ comma).2 (by decide)

theorem isOrderField (plain : IsPlain name) : IsOrderField name where
  nonempty := plain.nonempty
  solid c member := (plain.solid c member).1
  free := plain.isEntry.free

theorem no_quote (plain : IsPlain name) : '\'' ∉ name.toList :=
  fun quote => (plain.solid _ quote).2 (by decide)

end IsPlain

theorem cutAtComparison?_plain {text : List Char} (plain : ∀ c ∈ text, c ∉ separators)
    (place : Place) : cutAtComparison? place text = none := by
  have within : comparisonMarks ⊆ separators := by decide
  have cut := cutAtComparison?_unmarked (fun c member mark => plain c member (within mark)) place []
  rwa [List.append_nil] at cut

namespace IsTwoPartName

variable {name : String}

theorem isOperand (twoPart : IsTwoPartName name) : isOperand name.toList = true := by
  obtain ⟨table, field, whole, -, -, parts⟩ := twoPart
  have held : ∀ c ∈ name.toList, (isAlphanumeric c || c == '_' || c == '.') = true := by
    intro c member
    by_cases dot : c = '.'
    · simp [dot]
    · have part := parts c (by simpa [whole, dot] using member)
      rcases part with alphanumeric | rfl
      · simp [alphanumeric]
      · simp
  rw [Query.isOperand, List.all_eq_true.2 held, whole]
  simp

theorem isTwoPart (twoPart : IsTwoPartName name) : isTwoPart name = true := by
  obtain ⟨table, field, whole, filled, filled', parts⟩ := twoPart
  have undotted : ∀ c ∈ table ++ field, (c == '.') = false := by
    intro c member
    rcases parts c member with alphanumeric | rfl
    · exact beq_false_of_ne (ne_of_isAlphanumeric alphanumeric).2.1
    · rfl
  rw [List.forall_mem_append] at undotted
  rw [TableQuery.isTwoPart, whole, pieces_append rfl, pieces_eq_singleton undotted.1,
    pieces_eq_singleton undotted.2]
  simp [filled, filled']

theorem of_all (table field : String) (whole : name.toList = table.toList ++ '.' :: field.toList)
    (filled : table.toList ≠ []) (filled' : field.toList ≠ [])
    (parts : ((table.toList ++ field.toList).all fun c => isAlphanumeric c || c == '_') = true) :
    IsTwoPartName name := by
  refine ⟨table.toList, field.toList, whole, filled, filled', fun c member => ?_⟩
  have part := List.all_eq_true.1 parts c member
  rwa [Bool.or_eq_true, beq_iff_eq] at part

theorem has_dot (twoPart : IsTwoPartName name) : '.' ∈ name.toList := by
  obtain ⟨table, field, whole, -⟩ := twoPart
  simp [whole]

end IsTwoPartName

theorem Request.Plain.wellFormed {request : Request} (plain : request.Plain) :
    request.WellFormed where
  fields_ne := plain.fields_ne
  fields name member := (plain.fields name member).isEntry
  table := plain.table.isEntry.toIsName
  join join member := by
    obtain ⟨table, left, right⟩ := plain.join join member
    refine ⟨table.isEntry.toIsName, left.isOperand, right.isOperand, ?_⟩
    rw [JoinKeys.isQualified, left.isTwoPart, right.isTwoPart]
    rfl
  conditions condition member := by
    obtain ⟨field, -⟩ := plain.conditions condition member
    refine ⟨field.isEntry.toIsName, Place.after_inside field.no_quote _, fun _ => ?_⟩
    exact cutAtComparison?_plain (fun c inside => (field.solid c inside).2) _
  groupBy names member := by
    obtain ⟨nonempty, entry⟩ := plain.groupBy names member
    exact ⟨nonempty, fun name inside => (entry name inside).isEntry⟩
  orderBy keys member := by
    obtain ⟨nonempty, entry⟩ := plain.orderBy keys member
    exact ⟨nonempty, fun key inside => (entry key inside).isOrderField⟩

/-! The canonical text of a plain request as chunks. -/

def listedChunks : List String → List (List Char)
  | [] => []
  | [name] => [name.toList]
  | name :: more => (name.toList ++ [',']) :: listedChunks more

def Condition.chunks (condition : Condition) : List (List Char) :=
  [condition.field.toList, condition.operator.token.toList, condition.literalChars]

def conjunctionChunks : List Condition → List (List Char)
  | [] => []
  | [condition] => condition.chunks
  | condition :: more => condition.chunks ++ "AND".toList :: conjunctionChunks more

def Join.chunks (join : Join) : List (List Char) :=
  [join.kind.keyword.toList, "JOIN".toList, join.table.toList, "ON".toList, join.keys.left.toList,
    "=".toList, join.keys.right.toList]

namespace Request

def headChunks (request : Request) : List (List Char) :=
  listedChunks request.fields ++ ["FROM".toList, request.table.toList]

def joinChunks : Option Join → List (List Char)
  | none => []
  | some join => join.chunks

def whereChunks (conditions : List Condition) : List (List Char) :=
  if conditions.isEmpty then [] else "WHERE".toList :: conjunctionChunks conditions

def groupByChunks : Option (List String) → List (List Char)
  | none => []
  | some names => "GROUP".toList :: "BY".toList :: listedChunks names

end Request

theorem listed_eq_spaced {names : List String} (nonempty : names ≠ []) :
    ' ' :: listed names = spaced (listedChunks names) := by
  induction names with
  | nil => exact absurd rfl nonempty
  | cons name more ih =>
    cases more with
    | nil => simp [listed, listedChunks]
    | cons next more =>
      rw [listedChunks, spaced_cons, ← ih (by simp), listed, List.map_cons, List.map_cons,
        List.intercalate_cons_cons, listed, List.map_cons]
      · simp
      · simp

theorem conjunction_eq_spaced {conditions : List Condition} (nonempty : conditions ≠ []) :
    ' ' :: conjunction conditions = spaced (conjunctionChunks conditions) := by
  induction conditions with
  | nil => exact absurd rfl nonempty
  | cons condition more ih =>
    cases more with
    | nil => simp [conjunction, conjunctionChunks, Condition.chunks, chars_eq]
    | cons next more =>
      rw [conjunctionChunks, spaced_append, spaced_cons, ← ih (by simp), conjunction_cons, chars_eq]
      · simp [Condition.chunks]
      · simp

namespace Request

theorem headChars_eq_spaced {request : Request} (nonempty : request.fields ≠ []) :
    request.headChars = "SELECT".toList ++ spaced request.headChunks := by
  rw [headChars_eq, headChunks, spaced_append, ← listed_eq_spaced nonempty, spaced_cons,
    spaced_cons, spaced_nil, List.append_nil, List.append_assoc]

theorem joinChars_eq_spaced (join : Option Join) :
    (join.map Join.chars).getD [] = spaced (joinChunks join) := by
  cases join with
  | none => rfl
  | some join =>
    have shape : ∀ kind table left right : List Char,
        ' ' :: (kind ++ " JOIN".toList ++ ' ' :: (table ++ ' ' :: ("ON".toList ++
          ' ' :: (left ++ " = ".toList ++ right)))) =
            spaced [kind, "JOIN".toList, table, "ON".toList, left, "=".toList, right] := by
      intro kind table left right
      simp
    rw [Option.map_some, Option.getD_some, Join.chars_eq]
    exact shape _ _ _ _

theorem whereChars_eq_spaced (conditions : List Condition) :
    whereChars conditions = spaced (whereChunks conditions) := by
  by_cases nonempty : conditions = []
  · rw [nonempty]
    rfl
  · rw [whereChars_of_ne_nil nonempty, conjunction_eq_spaced nonempty, whereChunks,
      if_neg (by simpa using nonempty), spaced_cons]

theorem groupByChars_eq_spaced {names : Option (List String)}
    (nonempty : ∀ list ∈ names, list ≠ []) :
    groupByChars names = spaced (groupByChunks names) := by
  cases names with
  | none => rfl
  | some list =>
    have shape : ∀ text : List Char, "GROUP".toList ++ " BY".toList ++ text =
        "GROUP".toList ++ ' ' :: ("BY".toList ++ text) := fun _ => rfl
    rw [groupByChars_some, listed_eq_spaced (nonempty list rfl), groupByChunks, spaced_cons,
      spaced_cons, shape]

def selectionChunks (request : Request) : List (List Char) :=
  request.headChunks ++ joinChunks request.join

def filteredChunks (request : Request) : List (List Char) :=
  request.selectionChunks ++ whereChunks request.conditions

def groupedChunks (request : Request) : List (List Char) :=
  request.filteredChunks ++ groupByChunks request.groupBy

variable {request : Request}

theorem selectionChars_eq_spaced (plain : request.Plain) :
    request.selectionChars = "SELECT".toList ++ spaced request.selectionChunks := by
  rw [selectionChars, headChars_eq_spaced plain.fields_ne, joinChars_eq_spaced, selectionChunks,
    spaced_append, List.append_assoc]

theorem filteredChars_eq_spaced (plain : request.Plain) :
    request.filteredChars = "SELECT".toList ++ spaced request.filteredChunks := by
  rw [filteredChars, selectionChars_eq_spaced plain, whereChars_eq_spaced, filteredChunks,
    spaced_append, List.append_assoc]

theorem groupedChars_eq_spaced (plain : request.Plain) :
    request.groupedChars = "SELECT".toList ++ spaced request.groupedChunks := by
  have nonempty := fun names member => (plain.groupBy names member).1
  rw [groupedChars, filteredChars_eq_spaced plain, groupByChars_eq_spaced nonempty, groupedChunks,
    spaced_append, List.append_assoc]

end Request

/-! Which chunks are quiet. -/

variable {words : List String}

theorem sameLetters_of_mem {first second : List Char} {c : Char}
    (member : c ∈ first.map Char.toLower) (absent : c ∉ second.map Char.toLower) :
    sameLetters first second = false := by
  apply beq_false_of_ne
  intro same
  rw [same] at member
  exact absent member

theorem IsPlain.solid_chars {name : String} (plain : IsPlain name) :
    ∀ c ∈ name.toList, isSpace c = false ∧ c ≠ '\'' := by
  intro c member
  obtain ⟨visible, other⟩ := plain.solid c member
  refine ⟨not_space_of_not_blank visible, ?_⟩
  rintro rfl
  exact other (by decide)

theorem IsPlain.quiet {name : String} (plain : IsPlain name) (within : ∀ word ∈ words, word ∈ reserved) :
    Quiet words name.toList :=
  .solid plain.solid_chars fun word member => plain.other word (within word member)

/-- A character that no keyword has keeps a chunk from being one. -/
theorem quiet_of_foreign {chunk : List Char} {mark : Char}
    (foreign : (reserved.all fun word =>
      !(word.toList.map Char.toLower).contains mark.toLower) = true)
    (within : ∀ word ∈ words, word ∈ reserved)
    (solid : ∀ c ∈ chunk, isSpace c = false ∧ c ≠ '\'') (marked : mark ∈ chunk) :
    Quiet words chunk := by
  apply Quiet.solid solid
  intro word member
  have absent := List.all_eq_true.1 foreign word (within word member)
  have lowered : mark.toLower ∈ chunk.map Char.toLower := List.mem_map_of_mem marked
  have apart := sameLetters_of_mem lowered (by simpa using absent)
  rw [sameLetters, beq_eq_false_iff_ne] at apart ⊢
  exact apart.symm

theorem quiet_listedChunks {names : List String} (plain : ∀ name ∈ names, IsPlain name)
    (within : ∀ word ∈ words, word ∈ reserved) :
    ∀ chunk ∈ listedChunks names, Quiet words chunk := by
  induction names with
  | nil => nofun
  | cons name more ih =>
    rw [List.forall_mem_cons] at plain
    cases more with
    | nil =>
      rintro chunk member
      obtain rfl := List.mem_singleton.1 member
      exact plain.1.quiet within
    | cons next more =>
      have solid : ∀ c ∈ name.toList ++ [','], isSpace c = false ∧ c ≠ '\'' := by
        rw [List.forall_mem_append]
        exact ⟨plain.1.solid_chars, List.forall_mem_singleton.2 ⟨rfl, by decide⟩⟩
      have first : Quiet words (name.toList ++ [',']) :=
        quiet_of_foreign rfl within solid (List.mem_append_right _ List.mem_cons_self)
      rw [listedChunks, List.forall_mem_cons]
      · exact ⟨first, ih plain.2⟩
      · simp

theorem quiet_literalChars {condition : Condition} (free : '\'' ∉ condition.value.toList)
    (within : ∀ word ∈ words, word ∈ reserved) : Quiet words condition.literalChars := by
  -- Each keyword has a letter that no numeral is spelled with.
  have foreign : ∀ word ∈ reserved, ((word.toList.map Char.toLower).any fun letter =>
      !Literal.isNumeral letter) = true := List.all_eq_true.1 rfl
  rcases literalChars_cases condition with quoted | ⟨-, spelled, -⟩
  · rw [quoted]
    exact .literal free
  · refine .solid (fun c member => ⟨?_, ?_⟩) fun word member => ?_
    · exact not_space_of_not_blank (Literal.not_blank_of_isNumeral (spelled c member))
    · rintro rfl
      exact absurd (spelled _ member) (by decide)
    · obtain ⟨letter, held, other⟩ := List.any_eq_true.1 (foreign word (within word member))
      exact sameLetters_of_mem held (Literal.not_mem_of_spelled spelled (by simpa using other))

theorem quiet_operand {name : String} (twoPart : IsTwoPartName name)
    (within : ∀ word ∈ words, word ∈ reserved) : Quiet words name.toList := by
  refine quiet_of_foreign rfl within (fun c member => ?_) twoPart.has_dot
  obtain ⟨visible, quote, -⟩ := of_mem_operand twoPart.isOperand member
  exact ⟨not_space_of_not_blank visible, quote⟩

def isQuietWord (words : List String) (keyword : String) : Bool :=
  keyword.toList.all (fun c => !isSpace c && c != '\'') &&
    words.all fun word => !sameLetters word.toList keyword.toList

theorem isQuietWord_of_reserved {keyword : String} (within : ∀ word ∈ words, word ∈ reserved)
    (quiet : isQuietWord reserved keyword = true) : isQuietWord words keyword = true := by
  unfold isQuietWord at quiet ⊢
  rw [Bool.and_eq_true] at quiet ⊢
  refine ⟨quiet.1, List.all_eq_true.2 fun word member => ?_⟩
  exact List.all_eq_true.1 quiet.2 word (within word member)

theorem isQuietWord_comparison (within : ∀ word ∈ words, word ∈ reserved) {operator : Operator}
    (comparison : operator ≠ .like) : isQuietWord words operator.token = true := by
  apply isQuietWord_of_reserved within
  cases operator with
  | like => exact absurd rfl comparison
  | _ => rfl

theorem isQuietWord_token (within : ∀ word ∈ words, word ∈ reserved)
    (like : isQuietWord words "LIKE" = true) (operator : Operator) :
    isQuietWord words operator.token = true := by
  by_cases same : operator = .like
  · rw [same]
    exact like
  · exact isQuietWord_comparison within same

theorem quiet_of_isQuietWord {keyword : String} (quiet : isQuietWord words keyword = true) :
    Quiet words keyword.toList := by
  simp only [isQuietWord, Bool.and_eq_true, List.all_eq_true, Bool.not_eq_true', bne_iff_ne] at quiet
  exact .solid quiet.1 quiet.2

namespace Request

variable {request : Request}

theorem quiet_headChunks (plain : request.Plain) (within : ∀ word ∈ words, word ∈ reserved)
    (keywords : isQuietWord words "FROM" = true) :
    ∀ chunk ∈ request.headChunks, Quiet words chunk := by
  rw [headChunks, List.forall_mem_append]
  refine ⟨quiet_listedChunks plain.fields within, ?_⟩
  simp only [List.forall_mem_cons]
  exact ⟨quiet_of_isQuietWord keywords, plain.table.quiet within, by simp⟩

theorem quiet_joinChunks (plain : request.Plain) (within : ∀ word ∈ words, word ∈ reserved)
    (keywords : ["INNER", "LEFT", "RIGHT", "JOIN", "ON", "="].all (isQuietWord words) = true) :
    ∀ chunk ∈ joinChunks request.join, Quiet words chunk := by
  have quiet := fun keyword member => quiet_of_isQuietWord (List.all_eq_true.1 keywords keyword member)
  cases joined : request.join with
  | none => simp [joinChunks]
  | some join =>
    obtain ⟨table, left, right⟩ := plain.join join joined
    have kind : Quiet words join.kind.keyword.toList := by
      cases join.kind <;> exact quiet _ (by decide)
    simp only [joinChunks, Join.chunks, List.forall_mem_cons]
    exact ⟨kind, quiet _ (by decide), table.quiet within, quiet _ (by decide),
      quiet_operand left within, quiet _ (by decide), quiet_operand right within, by simp⟩

theorem quiet_groupByChunks (plain : request.Plain) (within : ∀ word ∈ words, word ∈ reserved)
    (keywords : ["GROUP", "BY"].all (isQuietWord words) = true) :
    ∀ chunk ∈ groupByChunks request.groupBy, Quiet words chunk := by
  have quiet := fun keyword member => quiet_of_isQuietWord (List.all_eq_true.1 keywords keyword member)
  cases grouped : request.groupBy with
  | none => simp [groupByChunks]
  | some names =>
    simp only [groupByChunks, List.forall_mem_cons]
    exact ⟨quiet _ (by decide), quiet _ (by decide),
      quiet_listedChunks (plain.groupBy names grouped).2 within⟩

end Request

theorem Condition.quiet_chunks {condition : Condition}
    (plain : IsPlain condition.field ∧ '\'' ∉ condition.value.toList)
    (within : ∀ word ∈ words, word ∈ reserved)
    (operator : isQuietWord words condition.operator.token = true) :
    ∀ chunk ∈ condition.chunks, Quiet words chunk := by
  simp only [chunks, List.forall_mem_cons]
  exact ⟨plain.1.quiet within, quiet_of_isQuietWord operator, quiet_literalChars plain.2 within,
    by simp⟩

theorem quiet_conjunctionChunks {conditions : List Condition}
    (plain : ∀ condition ∈ conditions, IsPlain condition.field ∧ '\'' ∉ condition.value.toList)
    (within : ∀ word ∈ words, word ∈ reserved)
    (keywords : ["LIKE", "AND"].all (isQuietWord words) = true) :
    ∀ chunk ∈ conjunctionChunks conditions, Quiet words chunk := by
  have quiet := List.all_eq_true.1 keywords
  induction conditions with
  | nil => nofun
  | cons condition more ih =>
    rw [List.forall_mem_cons] at plain
    have operator := isQuietWord_token within (quiet _ (by decide)) condition.operator
    have first := Condition.quiet_chunks plain.1 within operator
    cases more with
    | nil => exact first
    | cons next more =>
      rw [conjunctionChunks, List.forall_mem_append, List.forall_mem_cons]
      · exact ⟨first, quiet_of_isQuietWord (quiet _ (by decide)), ih plain.2⟩
      · simp

namespace Request

variable {request : Request}

theorem quiet_whereChunks (plain : request.Plain) (within : ∀ word ∈ words, word ∈ reserved)
    (keywords : ["WHERE", "LIKE", "AND"].all (isQuietWord words) = true) :
    ∀ chunk ∈ whereChunks request.conditions, Quiet words chunk := by
  rw [List.all_cons, Bool.and_eq_true] at keywords
  rw [whereChunks]
  split
  · simp
  · rw [List.forall_mem_cons]
    exact ⟨quiet_of_isQuietWord keywords.1,
      quiet_conjunctionChunks plain.conditions within keywords.2⟩

theorem quiet_selectionChunks (plain : request.Plain) (within : ∀ word ∈ words, word ∈ reserved)
    (keywords : ["FROM", "INNER", "LEFT", "RIGHT", "JOIN", "ON", "="].all (isQuietWord words) =
      true) : ∀ chunk ∈ request.selectionChunks, Quiet words chunk := by
  rw [List.all_cons, Bool.and_eq_true] at keywords
  rw [selectionChunks, List.forall_mem_append]
  exact ⟨quiet_headChunks plain within keywords.1, quiet_joinChunks plain within keywords.2⟩

theorem quiet_filteredChunks (plain : request.Plain) (within : ∀ word ∈ words, word ∈ reserved)
    (keywords : ["FROM", "INNER", "LEFT", "RIGHT", "JOIN", "ON", "="].all (isQuietWord words) =
      true)
    (filtering : ["WHERE", "LIKE", "AND"].all (isQuietWord words) = true) :
    ∀ chunk ∈ request.filteredChunks, Quiet words chunk := by
  rw [filteredChunks, List.forall_mem_append]
  exact ⟨quiet_selectionChunks plain within keywords, quiet_whereChunks plain within filtering⟩

end Request

theorem quiet_nil (within : ∀ word ∈ words, word ∈ reserved) : Quiet words [] := by
  have spelled : ∀ word ∈ reserved, sameLetters word.toList [] = false := by decide
  exact .solid nofun fun word member => spelled word (within word member)

theorem leads_of_quiet {Meaning : Type} {keywords : List (Keyword Meaning)}
    (begins : Begin keywords words) (within : ∀ word ∈ words, word ∈ reserved)
    {front : List Char} (first : Quiet words front) {chunks : List (List Char)}
    (quiet : ∀ chunk ∈ chunks, Quiet words chunk) (written : Bool) :
    Leads keywords (front ++ spaced chunks) written := by
  have lettered : ∀ word ∈ reserved, Phrase.Lettered [word] := by decide
  exact leads_spaced begins (fun word member => lettered word (within word member)) first quiet written

theorem begin_phrase (word : String) (more : Phrase) : Begin [⟨(), word :: more⟩] [word] := by
  intro keyword member
  obtain rfl := List.mem_singleton.1 member
  exact ⟨word, by simp, rfl⟩

theorem leads_phrase {word : String} {more : Phrase} (listed : word ∈ reserved)
    (first : isQuietWord [word] "SELECT" = true) {chunks : List (List Char)}
    (quiet : (∀ other ∈ [word], other ∈ reserved) → ∀ chunk ∈ chunks, Quiet [word] chunk)
    (written : Bool) :
    Leads [⟨(), word :: more⟩] ("SELECT".toList ++ spaced chunks) written := by
  have within : ∀ other ∈ [word], other ∈ reserved := List.forall_mem_singleton.2 listed
  exact leads_of_quiet (begin_phrase word more) within (quiet_of_isQuietWord first) (quiet within)
    written

theorem separated_of_plain {conditions : List Condition} {lead : List Char}
    (blank : lead = [] ∨ lead = [' '])
    (plain : ∀ condition ∈ conditions, IsPlain condition.field ∧ '\'' ∉ condition.value.toList) :
    Separated lead conditions := by
  have within : ∀ word ∈ ["AND", "OR"], word ∈ reserved := by decide
  have begins : Begin connectives ["AND", "OR"] := by
    unfold Begin
    decide
  induction conditions generalizing lead with
  | nil => trivial
  | cons condition more ih =>
    rw [List.forall_mem_cons] at plain
    refine ⟨?_, ih (.inr rfl) plain.2⟩
    have operator := isQuietWord_token within (by decide) condition.operator
    have quiet := Condition.quiet_chunks plain.1 within operator
    rw [chars_eq]
    -- The field starts the text, or it is the first chunk behind a space.
    rcases blank with rfl | rfl
    · rw [Condition.chunks, List.forall_mem_cons] at quiet
      have leads := leads_of_quiet begins within quiet.1 quiet.2 (!more.isEmpty)
      simpa using leads
    · have leads := leads_of_quiet begins within (quiet_nil within) quiet (!more.isEmpty)
      simpa [Condition.chunks] using leads

namespace Request

variable {request : Request}

theorem leads_orderBy (plain : request.Plain) (written : Bool) :
    Leads [⟨(), ["ORDER", "BY"]⟩] request.groupedChars written := by
  rw [groupedChars_eq_spaced plain]
  apply leads_phrase (by decide) (by decide)
  intro within
  rw [groupedChunks, List.forall_mem_append]
  exact ⟨quiet_filteredChunks plain within (by decide) (by decide),
    quiet_groupByChunks plain within (by decide)⟩

theorem leads_groupBy (plain : request.Plain) (written : Bool) :
    Leads [⟨(), ["GROUP", "BY"]⟩] request.filteredChars written := by
  rw [filteredChars_eq_spaced plain]
  apply leads_phrase (by decide) (by decide)
  intro within
  exact quiet_filteredChunks plain within (by decide) (by decide)

theorem leads_filter (plain : request.Plain) (written : Bool) :
    Leads [⟨(), ["WHERE"]⟩] request.selectionChars written := by
  rw [selectionChars_eq_spaced plain]
  apply leads_phrase (by decide) (by decide)
  intro within
  exact quiet_selectionChunks plain within (by decide)

theorem leads_join (plain : request.Plain) (written : Bool) :
    Leads joinKeywords request.headChars written := by
  have within : ∀ word ∈ ["INNER", "LEFT", "RIGHT"], word ∈ reserved := by decide
  have begins : Begin joinKeywords ["INNER", "LEFT", "RIGHT"] := by
    unfold Begin
    decide
  rw [headChars_eq_spaced plain.fields_ne]
  exact leads_of_quiet begins within (quiet_of_isQuietWord (by decide))
    (quiet_headChunks plain within (by decide)) written

theorem leads_fields (plain : request.Plain) :
    Leads [⟨(), ["FROM"]⟩] (' ' :: listed request.fields) true := by
  have within : ∀ word ∈ ["FROM"], word ∈ reserved := by decide
  rw [listed_eq_spaced plain.fields_ne]
  exact leads_of_quiet (begin_phrase _ _) within (quiet_nil within)
    (quiet_listedChunks plain.fields within) true

end Request

theorem IsPlain.leads_on {table : String} (plain : IsPlain table) :
    Leads [⟨(), ["ON"]⟩] (' ' :: table.toList) true := by
  have within : ∀ word ∈ ["ON"], word ∈ reserved := by decide
  have quiet : ∀ chunk ∈ [table.toList], Quiet ["ON"] chunk := by simpa using plain.quiet within
  simpa using leads_of_quiet (begin_phrase "ON" []) within (quiet_nil within) quiet true

theorem charsBeforeLike_of_plain {condition : Condition}
    (plain : IsPlain condition.field ∧ '\'' ∉ condition.value.toList) :
    findPhrase? ["LIKE"] condition.charsBeforeLike = none := by
  have within : ∀ word ∈ ["LIKE"], word ∈ reserved := by decide
  rw [Condition.charsBeforeLike, findPhrase?_eq_none_iff]
  split
  · have leads := leads_of_quiet (begin_phrase "LIKE" []) within (plain.1.quiet within)
      (List.forall_mem_nil _) false
    simpa using leads.silent
  · rename_i comparison
    have operator := isQuietWord_comparison within comparison
    have quiet := Condition.quiet_chunks plain within operator
    rw [Condition.chunks, List.forall_mem_cons] at quiet
    have leads := leads_of_quiet (begin_phrase "LIKE" []) within quiet.1 quiet.2 false
    rw [chars_eq]
    simpa using leads.silent

theorem Request.Plain.legible {request : Request} (plain : request.Plain) : request.Legible where
  orderBy := leads_orderBy plain _
  groupBy := leads_groupBy plain _
  filter := leads_filter plain _
  join := leads_join plain _
  fields := leads_fields plain
  table join member := (plain.join join member).1.leads_on
  connectives := separated_of_plain (.inl rfl) plain.conditions
  like condition member := charsBeforeLike_of_plain (plain.conditions condition member)
  aggregate := plain.aggregate

/-- A plain request is read back from its canonical text, whatever stands in its values. -/
theorem Request.ofText_text_of_plain {request : Request} (plain : request.Plain) :
    ofText request.text = .ok request := by
  rw [ofText_text]
  exact (ofChars_chars_iff plain.wellFormed).2 plain.legible

instance (name : String) : Decidable (IsPlain name) :=
  decidable_of_iff ((!name.toList.isEmpty &&
      (name.toList.all fun c => !isBlank c && !separators.contains c) &&
      reserved.all fun word => !sameLetters word.toList name.toList) = true) <| by
    constructor
    · intro parts
      simp only [Bool.and_eq_true, List.all_eq_true, Bool.not_eq_true', List.isEmpty_eq_false_iff]
        at parts
      exact ⟨parts.1.1, fun c member => ⟨(parts.1.2 c member).1, by simpa using (parts.1.2 c member).2⟩,
        parts.2⟩
    · intro plain
      simp only [Bool.and_eq_true, List.all_eq_true, Bool.not_eq_true', List.isEmpty_eq_false_iff]
      exact ⟨⟨plain.nonempty, fun c member => ⟨(plain.solid c member).1,
        by simpa using (plain.solid c member).2⟩⟩, plain.other⟩

namespace Request

def clausesInValues : Request where
  fields := ["id", "name"]
  table := "users"
  conditions :=
    [⟨"note", .equal, "x ORDER BY y, z"⟩, ⟨"age", .atLeast, "18"⟩, ⟨"tag", .like, ""⟩]
  join := some ⟨.left, "orders", "users.id", "orders.user_id"⟩
  groupBy := some ["city"]
  orderBy := some [⟨"age", .descending⟩]
  ungroupedAggregate := false

theorem clausesInValues_plain : clausesInValues.Plain where
  fields_ne := by decide
  fields := by decide
  table := by decide
  join := by
    rintro join ⟨⟩
    exact ⟨by decide, .of_all "users" "id" rfl (by decide) (by decide) (by decide +kernel),
      .of_all "orders" "user_id" rfl (by decide) (by decide) (by decide +kernel)⟩
  conditions := by decide
  groupBy := by
    rintro names ⟨⟩
    decide
  orderBy := by
    rintro keys ⟨⟩
    decide
  aggregate := Bool.false_and _

theorem ofText_text_of_clauses_in_values :
    clausesInValues.Plain ∧ ofText clausesInValues.text = .ok clausesInValues :=
  ⟨clausesInValues_plain, ofText_text_of_plain clausesInValues_plain⟩

end Request

end TableQuery
