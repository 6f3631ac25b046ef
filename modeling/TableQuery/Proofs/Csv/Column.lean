import TableQuery.Proofs.Csv.Loading
import TableQuery.Proofs.Csv.Reading

/-! Tables of one column.

The reader has forgotten the quotes of a cell when the line ends. So it takes a line with nothing
but a blank cell for a blank line, even when the cell is in quotes, and gives no row for it. All
other cells of a column become rows, so a column is loaded as it was written exactly if none of its
cells is blank.
-/

set_option autoImplicit false

namespace TableQuery.Csv

open Text

/-- Lines one after another. Only the last may lack its end. -/
inductive LinesText : List (List Char) → List Char → Prop where
  | none : LinesText [] []
  | last (line : List Char) : LinesText [line] line
  | next {line ending rest : List Char} {lines : List (List Char)} (ends : LineEnd ending)
      (later : LinesText lines rest) : LinesText (line :: lines) (line ++ (ending ++ rest))

def quotedCell (cell : String) : List Char :=
  '"' :: (doubled cell.toList ++ ['"'])

/-- The text of a file with a name on its first line and a cell in quotes on each later one. -/
def ColumnText (name : String) (cells : List String) (text : String) : Prop :=
  LinesText (name.toList :: cells.map quotedCell) text.toList

def isBlankCell (cell : String) : Bool :=
  cell.toList.all isBlank

structure IsColumnName (name : String) : Prop where
  visible : isBlankCell name = false
  plain : Unseparated name.toList
  unquoted : '"' ∉ name.toList

def columnRow (name cell : String) : Row :=
  .ofEntries [(name, .string cell)]

section Reader
variable {cell : String} {line ending rest : List Char}

def cellRecords (cell : String) : List (List String) :=
  if isBlankCell cell then [] else [[cell]]

theorem endRecord_eq_cellRecords (cell : String) :
    Draft.endRecord ⟨[], cell.toList.reverse⟩ = cellRecords cell := by
  simp [Draft.endRecord, cellRecords, isBlankCell, Draft.endCell]

theorem readRecords?_cell (written : CellText cell.toList line) (ends : LineEnd ending) :
    readRecords? .outside .empty (line ++ (ending ++ rest)) =
      (readRecords? .outside .empty rest).map (cellRecords cell ++ ·) := by
  obtain ⟨quoting, closed, reads⟩ := exists_read_cell written []
  rw [readRecords?_line closed reads ends, endRecord_eq_cellRecords]

theorem readRecords?_lastCell (written : CellText cell.toList line) :
    readRecords? .outside .empty line = some (cellRecords cell) := by
  obtain ⟨quoting, closed, reads⟩ := exists_read_cell written []
  rw [readRecords?_lastLine closed reads, endRecord_eq_cellRecords]

theorem readRecords?_lines {cells : List String} {lines : List (List Char)} {text : List Char}
    (written : List.Forall₂ (fun cell line => CellText cell.toList line) cells lines)
    (joined : LinesText lines text) :
    readRecords? .outside .empty text = some (cells.flatMap cellRecords) := by
  induction joined generalizing cells with
  | none =>
    cases written
    rfl
  | last line =>
    obtain ⟨cell, _, here, ⟨⟩, rfl⟩ := List.forall₂_cons_right_iff.1 written
    rw [readRecords?_lastCell here, List.flatMap_singleton]
  | next ends _ ih =>
    obtain ⟨cell, cells, here, later, rfl⟩ := List.forall₂_cons_right_iff.1 written
    rw [readRecords?_cell here ends, ih later, List.flatMap_cons]
    rfl

end Reader

def shownCells (cells : List String) : List String :=
  cells.filter (!isBlankCell ·)

theorem flatMap_cellRecords (cells : List String) :
    cells.flatMap cellRecords = (shownCells cells).map ([·]) := by
  induction cells with
  | nil => rfl
  | cons cell cells ih =>
    rw [List.flatMap_cons, ih, shownCells, shownCells, cellRecords]
    cases blank : isBlankCell cell <;> simp [blank]

theorem shownCells_eq_self_iff {cells : List String} :
    shownCells cells = cells ↔ ∀ cell ∈ cells, isBlankCell cell = false := by
  simp [shownCells, List.filter_eq_self]

section Column
variable {name text : String} {cells : List String}

theorem records?_of_columnText (heads : IsColumnName name) (written : ColumnText name cells text) :
    records? text = some ([name] :: (shownCells cells).map ([·])) := by
  have unquoted : name.toList.head? ≠ some '"' :=
    fun quote => heads.unquoted (List.mem_of_head? quote)
  have first : CellText name.toList name.toList := .bare heads.plain unquoted
  have others : List.Forall₂ (fun (cell : String) line => CellText cell.toList line) cells
      (cells.map quotedCell) :=
    List.forall₂_map_right_iff.2 (List.forall₂_same.2 fun _ _ => .quoted)
  rw [records?, readRecords?_lines (.cons first others) written, List.flatMap_cons, cellRecords,
    if_neg (by simp [heads.visible]), flatMap_cellRecords]
  rfl

variable {directory : Directory} {reader : Reader} {table : String}

/-- A column gives a row for each of its cells that is not blank; quotes do not save a blank one. -/
theorem Directory.load_of_columnText (readable : reader (directory.tablePath table) = .ok text)
    (off : directory.inferNumbers = false) (heads : IsColumnName name)
    (written : ColumnText name cells text) :
    directory.load reader table = .ok ((shownCells cells).map (columnRow name)) := by
  have wide : AsWide [name] ((shownCells cells).map ([·])) := by
    intro record member
    obtain ⟨cell, -, rfl⟩ := List.mem_map.1 member
    rfl
  have rows : ((shownCells cells).map ([·])).map (rowOf false [name]) =
      (shownCells cells).map (columnRow name) := by
    rw [List.map_map]
    rfl
  rw [Directory.load, readable, off]
  change ofText table false text = _
  rw [ofText, records?_of_columnText heads written]
  exact readRows_eq_ok_iff.2 ⟨wide, rows⟩

theorem columnRow_injective (name : String) : (columnRow name).Injective := by
  intro cell other same
  have entries : [(name, Value.string cell)] = [(name, Value.string other)] :=
    congrArg Row.entries same
  simpa using entries

/-- What is loaded of a column in quotes: the rows of the cells that are not blank. So it is the
column as it was written exactly if no cell is blank. -/
theorem Directory.load_of_quoted_column_iff
    (readable : reader (directory.tablePath table) = .ok text)
    (off : directory.inferNumbers = false) (heads : IsColumnName name)
    (written : ColumnText name cells text) :
    directory.load reader table = .ok ((shownCells cells).map (columnRow name)) ∧
      (directory.load reader table = .ok (cells.map (columnRow name)) ↔
        ∀ cell ∈ cells, isBlankCell cell = false) := by
  have loads := directory.load_of_columnText readable off heads written
  refine ⟨loads, ?_⟩
  rw [loads, Except.ok.injEq, (columnRow_injective name).list_map.eq_iff, shownCells_eq_self_iff]

end Column

theorem Directory.load_of_quoted_column_of_notes :
    let directory : Directory := ⟨"data", false⟩
    let notes := "note\r\n\"said \"\"hi\"\"\"\n\"two\nlines\"\r\n\"a,b\""
    let reader : Reader := fun path =>
      if path = "data/notes.csv" then .ok notes else .error .notFound
    let cells := ["said \"hi\"", "two\nlines", "a,b"]
    reader (directory.tablePath "notes") = .ok notes ∧ IsColumnName "note" ∧
      ColumnText "note" cells notes ∧
      directory.load reader "notes" = .ok (cells.map (columnRow "note")) := by
  intro directory notes reader cells
  have readable : reader (directory.tablePath "notes") = .ok notes := by decide +kernel
  have heads : IsColumnName "note" :=
    { visible := by decide +kernel, plain := by decide +kernel, unquoted := by decide +kernel }
  have written : ColumnText "note" cells notes :=
    (congrArg (LinesText _) (by decide +kernel)).mp
      (.next .crlf (.next .lf (.next .crlf (.last (quotedCell "a,b")))))
  have column := directory.load_of_quoted_column_iff readable rfl heads written
  exact ⟨readable, heads, written, column.2.2 (by decide +kernel)⟩

/-- An empty cell in quotes gives no row and no error. -/
theorem Directory.load_of_empty_quoted_cell :
    let directory : Directory := ⟨"data", false⟩
    let people := "name\n\"\"\n\"Ann\"\n"
    let reader : Reader := fun path =>
      if path = "data/people.csv" then .ok people else .error .notFound
    IsColumnName "name" ∧ ColumnText "name" ["", "Ann"] people ∧
      directory.load reader "people" = .ok [columnRow "name" "Ann"] ∧
      directory.load reader "people" ≠ .ok (["", "Ann"].map (columnRow "name")) := by
  intro directory people reader
  have readable : reader (directory.tablePath "people") = .ok people := by decide +kernel
  have heads : IsColumnName "name" :=
    { visible := by decide +kernel, plain := by decide +kernel, unquoted := by decide +kernel }
  have written : ColumnText "name" ["", "Ann"] people :=
    (congrArg (LinesText _) (by decide +kernel)).mp (.next .lf (.next .lf (.next .lf .none)))
  have loads := directory.load_of_columnText readable rfl heads written
  refine ⟨heads, written, loads, ?_⟩
  rw [loads]
  intro same
  have lengths := congrArg List.length (Except.ok.inj same)
  revert lengths
  decide +kernel

end TableQuery.Csv
