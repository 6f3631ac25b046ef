import Mathlib.Data.List.Basic
import TableQuery.Source.Csv

/-! What the characters of a file mean.

From left to right each character is text of a cell, or it ends a cell or a line, or it only quotes.
This depends on the quotes in front of it and on nothing else. The records of a file are what is left
when the meanings are cut at the line ends, and each line at the cell ends. The reader finds these
records unless the text ends inside quotes.
-/

set_option autoImplicit false

namespace TableQuery.Csv

open Text

/-- Where a character stands: how its cell is quoted, and whether the cell has no text so far. -/
structure Place where
  quoting : Quoting
  fresh : Bool
  deriving DecidableEq, Repr

/-- What a character means. -/
inductive Mark where
  | text (c : Char)
  | cellEnd
  | lineEnd
  deriving DecidableEq, Repr

namespace Mark

def endsCell (mark : Mark) : Bool :=
  mark == cellEnd

def endsLine (mark : Mark) : Bool :=
  mark == lineEnd

def char? : Mark → Option Char
  | text c => some c
  | _ => none

end Mark

namespace Place

def start : Place :=
  ⟨.outside, true⟩

/-- What a character means in front of `next?`. A quote that opens or closes a cell means nothing,
and neither does a carriage return in front of a line feed. -/
def mark? (place : Place) (c : Char) (next? : Option Char) : Option Mark :=
  if place.quoting = .inside then if c = '"' then none else some (.text c)
  else if c = '"' then if place.quoting = .leaving ∨ !place.fresh then some (.text '"') else none
  else if c = ',' then some .cellEnd
  else if c = '\r' ∧ next? = some '\n' then none
  else if c = '\n' then some .lineEnd
  else some (.text c)

def quotingAfter (place : Place) (c : Char) : Quoting :=
  if c = '"' then
    match place.quoting with
    | .inside => .leaving
    | .leaving => .inside
    | .outside => if place.fresh then .inside else .outside
  else if place.quoting = .inside then .inside
  else .outside

def after (place : Place) (c : Char) (next? : Option Char) : Place where
  quoting := place.quotingAfter c
  fresh := match place.mark? c next? with
    | none => place.fresh
    | some (.text _) => false
    | some _ => true

def marks (place : Place) : List Char → List Mark
  | [] => []
  | c :: rest => (place.mark? c rest.head?).toList ++ (place.after c rest.head?).marks rest

def behind (place : Place) : List Char → Place
  | [] => place
  | c :: rest => (place.after c rest.head?).behind rest

end Place

/-- The text of a file ends inside a quoted cell. -/
def EndsInside (text : String) : Prop :=
  (Place.start.behind text.toList).quoting = .inside

instance (text : String) : Decidable (EndsInside text) :=
  inferInstanceAs (Decidable (_ = _))

def cellOf (marks : List Mark) : String :=
  String.ofList (marks.filterMap Mark.char?)

def recordOf (line : List Mark) : List String :=
  (line.splitOnP Mark.endsCell).map cellOf

/-- A line that holds no record: its only cell is blank. -/
def isBlankLine : List String → Bool
  | [cell] => cell.toList.all isBlank
  | _ => false

def recordsOf (marks : List Mark) : List (List String) :=
  ((marks.splitOnP Mark.endsLine).map recordOf).filter fun record => !isBlankLine record

def recordsIn (text : String) : List (List String) :=
  recordsOf (Place.start.marks text.toList)

section Records

theorem recordOf_texts (chars : List Char) : recordOf (chars.map .text) = [String.ofList chars] := by
  have whole : ∀ mark ∈ chars.map Mark.text, mark.endsCell = false := by
    simp [Mark.endsCell]
  have kept : (chars.map Mark.text).filterMap Mark.char? = chars := by
    rw [List.filterMap_map]
    exact List.filterMap_some
  rw [recordOf, List.splitOnP_eq_singleton whole, List.map_singleton, cellOf, kept]

theorem recordOf_cons (chars : List Char) (rest : List Mark) :
    recordOf (chars.map .text ++ .cellEnd :: rest) = String.ofList chars :: recordOf rest := by
  have cut := List.splitOnP_append_cons (chars.map Mark.text) rest
    (show Mark.endsCell .cellEnd = true from rfl)
  rw [recordOf, cut, List.map_append, ← recordOf, recordOf_texts]
  rfl

theorem recordsOf_line {line : List Mark} (whole : ∀ mark ∈ line, mark.endsLine = false) :
    recordsOf line = [recordOf line].filter fun record => !isBlankLine record := by
  rw [recordsOf, List.splitOnP_eq_singleton whole, List.map_singleton]

theorem recordsOf_append (line rest : List Mark) :
    recordsOf (line ++ .lineEnd :: rest) = recordsOf line ++ recordsOf rest := by
  have cut := List.splitOnP_append_cons line rest (show Mark.endsLine .lineEnd = true from rfl)
  rw [recordsOf, cut, List.map_append, List.filter_append]
  rfl

theorem isBlankLine_append (cells : List String) (cell : String) :
    isBlankLine (cells ++ [cell]) = (cells.isEmpty && cell.toList.all isBlank) := by
  rcases cells with _ | ⟨first, _ | ⟨second, rest⟩⟩ <;> simp [isBlankLine]

end Records

namespace Draft

def marks (draft : Draft) : List Mark :=
  draft.cells.reverse.flatMap (fun cell => cell.toList.map Mark.text ++ [.cellEnd]) ++
    draft.cell.reverse.map Mark.text

variable (draft : Draft)

theorem marks_add (c : Char) : (draft.add c).marks = draft.marks ++ [.text c] := by
  simp [marks, add]

theorem marks_endCell : draft.endCell.marks = draft.marks ++ [.cellEnd] := by
  simp [marks, endCell]

theorem endsLine_marks : ∀ mark ∈ draft.marks, mark.endsLine = false := by
  intro mark member
  simp only [marks, List.mem_append, List.mem_flatMap, List.mem_map, List.mem_singleton] at member
  rcases member with ⟨cell, -, ⟨c, -, rfl⟩ | rfl⟩ | ⟨c, -, rfl⟩ <;> rfl

theorem recordOf_marks : recordOf draft.marks = draft.endCell.cells.reverse := by
  have read (cells : List String) (chars : List Char) :
      recordOf (cells.flatMap (fun cell => cell.toList.map Mark.text ++ [.cellEnd]) ++
        chars.map .text) = cells ++ [String.ofList chars] := by
    induction cells with
    | nil => exact recordOf_texts chars
    | cons cell cells ih =>
      rw [List.flatMap_cons, List.append_assoc, List.append_assoc, List.singleton_append,
        recordOf_cons, ih, String.ofList_toList]
      rfl
  rw [marks, read]
  simp [endCell]

theorem endRecord_eq_recordsOf : draft.endRecord = recordsOf draft.marks := by
  rw [recordsOf_line draft.endsLine_marks, recordOf_marks, endRecord]
  have blank : isBlankLine draft.endCell.cells.reverse =
      (draft.cells.isEmpty && draft.cell.all isBlank) := by
    simp [endCell, isBlankLine_append]
  rw [List.filter_singleton, blank]
  cases draft.cells.isEmpty && draft.cell.all isBlank <;> rfl

end Draft

section Reader

theorem readRecords?_cons (quoting : Quoting) (draft : Draft) (c : Char) (rest : List Char) :
    readRecords? quoting draft (c :: rest) =
      let place : Place := ⟨quoting, draft.cell.isEmpty⟩
      match place.mark? c rest.head? with
      | none => readRecords? (place.quotingAfter c) draft rest
      | some (.text read) => readRecords? (place.quotingAfter c) (draft.add read) rest
      | some .cellEnd => readRecords? (place.quotingAfter c) draft.endCell rest
      | some .lineEnd =>
        (readRecords? (place.quotingAfter c) .empty rest).map (draft.endRecord ++ ·) := by
  rw [readRecords?]
  -- Only a quote means something else in each state of the reader.
  by_cases quote : c = '"'
  · subst quote
    cases quoting with
    | inside => simp [Place.mark?, Place.quotingAfter]
    | leaving => simp [Place.mark?, Place.quotingAfter]
    | outside => by_cases fresh : draft.cell = [] <;> simp [Place.mark?, Place.quotingAfter, fresh]
  · by_cases inside : quoting = .inside
    · simp [Place.mark?, Place.quotingAfter, quote, inside]
    · simp only [Place.mark?, Place.quotingAfter, quote, inside, false_and, if_false]
      split
      · rfl
      · split
        · rfl
        · split <;> rfl

/-- The reader finds the records of the marks, unless a quote is left open. -/
theorem readRecords?_eq (quoting : Quoting) (draft : Draft) (text : List Char) :
    readRecords? quoting draft text =
      if (Place.behind ⟨quoting, draft.cell.isEmpty⟩ text).quoting = .inside then none
      else some (recordsOf (draft.marks ++ Place.marks ⟨quoting, draft.cell.isEmpty⟩ text)) := by
  -- The draft stands for the marks read so far; every mark changes it, so it is general.
  induction text generalizing quoting draft with
  | nil =>
    rw [readRecords?, draft.endRecord_eq_recordsOf, Place.behind, Place.marks, List.append_nil]
  | cons c rest ih =>
    rw [readRecords?_cons, Place.behind, Place.marks, Place.after]
    dsimp only
    cases meaning : Place.mark? ⟨quoting, draft.cell.isEmpty⟩ c rest.head? with
    | none => exact ih _ draft
    | some mark =>
      cases mark with
      | text read =>
        dsimp only
        rw [ih, draft.marks_add, List.append_assoc]
        rfl
      | cellEnd =>
        dsimp only
        rw [ih, draft.marks_endCell, List.append_assoc]
        rfl
      | lineEnd =>
        dsimp only
        rw [ih, Option.toList_some, List.singleton_append, recordsOf_append,
          draft.endRecord_eq_recordsOf]
        split
        · rename_i inside
          exact (if_pos inside).symm
        · rename_i closed
          exact (if_neg closed).symm

theorem records?_eq (text : String) :
    records? text = if EndsInside text then none else some (recordsIn text) :=
  readRecords?_eq .outside .empty text.toList

end Reader

end TableQuery.Csv
