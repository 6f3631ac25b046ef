import TableQuery.Number.Literal
import TableQuery.Source
import TableQuery.Text.Blank

/-! Tables in files of comma-separated values.

The first record names the fields. A cell that begins with a double quote is quoted up to the
next single one: inside, commas and line breaks are text and two quotes are one. What follows
the closing quote still belongs to the cell. Lines without a cell, or with one blank cell, are
skipped.
-/

set_option autoImplicit false

namespace TableQuery.Csv

open Text

inductive Quoting where
  | outside
  | inside
  /-- After a quote inside quotes: it closes them, unless another one follows. -/
  | leaving
  deriving DecidableEq, Repr

/-- What has been read of a record: its complete cells and the characters of the next one, both
from the last on. -/
structure Draft where
  cells : List String
  cell : List Char
  deriving DecidableEq, Repr

namespace Draft

def empty : Draft :=
  ⟨[], []⟩

def add (draft : Draft) (c : Char) : Draft :=
  { draft with cell := c :: draft.cell }

def endCell (draft : Draft) : Draft :=
  ⟨String.ofList draft.cell.reverse :: draft.cells, []⟩

/-- The record that ends here: none, if its only cell is blank. -/
def endRecord (draft : Draft) : List (List String) :=
  if draft.cells.isEmpty && draft.cell.all isBlank then [] else [draft.endCell.cells.reverse]

end Draft

/-- Reads the rest of the text. A quote left open gives nothing. -/
def readRecords? (quoting : Quoting) (draft : Draft) : List Char → Option (List (List String))
  | [] => if quoting = .inside then none else some draft.endRecord
  | c :: rest =>
    if quoting = .inside then
      if c = '"' then readRecords? .leaving draft rest
      else readRecords? .inside (draft.add c) rest
    else if c = '"' ∧ quoting = .leaving then readRecords? .inside (draft.add '"') rest
    -- Anywhere else in a cell a quote is text.
    else if c = '"' ∧ draft.cell = [] then readRecords? .inside draft rest
    else if c = ',' then readRecords? .outside draft.endCell rest
    else if c = '\r' ∧ rest.head? = some '\n' then readRecords? .outside draft rest
    else if c = '\n' then (readRecords? .outside .empty rest).map (draft.endRecord ++ ·)
    else readRecords? .outside (draft.add c) rest

def records? (text : String) : Option (List (List String)) :=
  readRecords? .outside .empty text.toList

/-- The number that a cell spells: a whole number of 64 bits, or else a finite one. -/
def number? (cell : String) : Option Value :=
  let text := trim cell.toList
  match Literal.integer? text with
  | some n =>
    if -(Value.signedLimit : Int) ≤ n ∧ n < Value.signedLimit then some (.int n) else float? text
  | none => float? text
where
  float? (text : List Char) : Option Value :=
    match Literal.ofText? text with
    | some (.finite value) => some (.float value)
    | _ => none

def cellValue (inferNumbers : Bool) (cell : String) : Value :=
  (if inferNumbers then number? cell else none).getD (.string cell)

/-- The rows of records after the header; `index` counts the records before them. -/
def readRows (table : String) (inferNumbers : Bool) (header : List String) (index : Nat) :
    List (List String) → Except SourceError Table
  | [] => .ok []
  | record :: rest =>
    if record.length ≠ header.length then
      .error (.raggedRecord table (index + 1) record.length header.length)
    else
      (readRows table inferNumbers header (index + 1) rest).map
        (Row.ofEntries (header.zip (record.map (cellValue inferNumbers))) :: ·)

/-- The table that a file's text holds; without a record it is empty. -/
def ofText (table : String) (inferNumbers : Bool) (text : String) : Except SourceError Table :=
  match records? text with
  | none => .error (.unterminatedQuote table)
  | some [] => .ok []
  | some (header :: records) => readRows table inferNumbers header 0 records

structure Directory where
  path : String
  inferNumbers : Bool
  deriving DecidableEq, Repr

def Directory.tablePath (directory : Directory) (table : String) : String :=
  pathIn directory.path (table ++ ".csv")

def Directory.load (directory : Directory) (reader : Reader) : Source := fun table =>
  match reader (directory.tablePath table) with
  | .ok text => ofText table directory.inferNumbers text
  | .error .notFound => .error (.tableNotFound table)
  | .error failure => .error (.unreadable table failure)

end TableQuery.Csv
