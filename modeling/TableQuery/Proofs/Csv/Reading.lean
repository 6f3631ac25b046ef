import TableQuery.Proofs.Text.Trimming
import TableQuery.Source.Csv

/-! Files of comma-separated values, and the records that they are written from.

A cell may be written in two ways and a line may end in two ways, and blank lines may stand
anywhere between records. The reader gives back the records for each choice.
-/

set_option autoImplicit false

namespace TableQuery.Csv

open Text

def doubled : List Char → List Char
  | [] => []
  | c :: rest => if c = '"' then '"' :: '"' :: doubled rest else c :: doubled rest

def Unseparated (cell : List Char) : Prop :=
  ∀ c ∈ cell, c ≠ ',' ∧ c ≠ '\n' ∧ c ≠ '\r'

instance (cell : List Char) : Decidable (Unseparated cell) :=
  List.decidableBAll _ cell

/-- The ways to write a cell: in quotes, or as it stands if that has no separator in it and does
not look quoted. -/
inductive CellText (cell : List Char) : List Char → Prop where
  | quoted : CellText cell ('"' :: (doubled cell ++ ['"']))
  | bare (plain : Unseparated cell) (unquoted : cell.head? ≠ some '"') : CellText cell cell

inductive RecordText : List String → List Char → Prop where
  | last {cell : String} {text : List Char} (written : CellText cell.toList text) :
      RecordText [cell] text
  | next {cell : String} {cells : List String} {text rest : List Char}
      (written : CellText cell.toList text) (later : RecordText cells rest) :
      RecordText (cell :: cells) (text ++ ',' :: rest)

inductive LineEnd : List Char → Prop where
  | lf : LineEnd ['\n']
  | crlf : LineEnd ['\r', '\n']

def Unmarked (line : List Char) : Prop :=
  ∀ c ∈ line, c = ' ' ∨ c = '\t'

instance (line : List Char) : Decidable (Unmarked line) :=
  List.decidableBAll _ line

/-- The ways to write records, one after another. Only the last line may lack its end. -/
inductive FileText : List (List String) → List Char → Prop where
  | lastBlank {line : List Char} (unmarked : Unmarked line) : FileText [] line
  | blank {records : List (List String)} {line ending rest : List Char} (unmarked : Unmarked line)
      (ends : LineEnd ending) (later : FileText records rest) :
      FileText records (line ++ (ending ++ rest))
  | lastRecord {record : List String} {text : List Char} (written : RecordText record text) :
      FileText [record] text
  | record {record : List String} {records : List (List String)} {text ending rest : List Char}
      (written : RecordText record text) (ends : LineEnd ending) (later : FileText records rest) :
      FileText (record :: records) (text ++ (ending ++ rest))

/-- The record can be told from a blank line: it is not one blank cell. -/
def Distinct (record : List String) : Prop :=
  ∀ cell, record = [cell] → trim cell.toList ≠ []

section Reader
variable {quoting : Quoting} {draft : Draft} {ending : List Char}

theorem readRecords?_end (closed : quoting ≠ .inside) :
    readRecords? quoting draft [] = some draft.endRecord := by
  rw [readRecords?, if_neg closed]

theorem readRecords?_comma (closed : quoting ≠ .inside) (rest : List Char) :
    readRecords? quoting draft (',' :: rest) = readRecords? .outside draft.endCell rest := by
  simp [readRecords?, closed]

theorem readRecords?_lineEnd (closed : quoting ≠ .inside) (ends : LineEnd ending)
    (rest : List Char) :
    readRecords? quoting draft (ending ++ rest) =
      (readRecords? .outside .empty rest).map (draft.endRecord ++ ·) := by
  cases ends with
  | lf => simp [readRecords?, closed]
  | crlf => simp [readRecords?, closed]

/-- A line of which the reader has taken all gives the records of what it has read, and the reader
starts afresh behind it. -/
theorem readRecords?_line {line : List Char} (closed : quoting ≠ .inside)
    (taken : ∀ rest, readRecords? .outside .empty (line ++ rest) = readRecords? quoting draft rest)
    (ends : LineEnd ending) (rest : List Char) :
    readRecords? .outside .empty (line ++ (ending ++ rest)) =
      (readRecords? .outside .empty rest).map (draft.endRecord ++ ·) := by
  rw [taken, readRecords?_lineEnd closed ends]

theorem readRecords?_lastLine {line : List Char} (closed : quoting ≠ .inside)
    (taken : ∀ rest, readRecords? .outside .empty (line ++ rest) = readRecords? quoting draft rest) :
    readRecords? .outside .empty line = some draft.endRecord := by
  have last := taken []
  rwa [List.append_nil, readRecords?_end closed] at last

theorem readRecords?_doubled (cell : List Char) (cells : List String) (read rest : List Char) :
    readRecords? .inside ⟨cells, read⟩ (doubled cell ++ '"' :: rest) =
      readRecords? .leaving ⟨cells, cell.reverse ++ read⟩ rest := by
  induction cell generalizing read with
  | nil => simp [doubled, readRecords?]
  | cons c cell ih =>
    rw [List.reverse_cons, List.append_assoc, List.singleton_append, ← ih]
    by_cases quote : c = '"'
    · simp [doubled, quote, readRecords?, Draft.add]
    · simp [doubled, quote, readRecords?, Draft.add]

theorem readRecords?_bare {cell : List Char} (plain : Unseparated cell) (cells : List String)
    (read : List Char) (unquoted : read = [] → cell.head? ≠ some '"') (rest : List Char) :
    readRecords? .outside ⟨cells, read⟩ (cell ++ rest) =
      readRecords? .outside ⟨cells, cell.reverse ++ read⟩ rest := by
  induction cell generalizing read with
  | nil => rfl
  | cons c cell ih =>
    obtain ⟨comma, lf, cr⟩ := plain c List.mem_cons_self
    have text : ¬(c = '"' ∧ read = []) := by
      rintro ⟨rfl, fresh⟩
      exact unquoted fresh rfl
    rw [List.reverse_cons, List.append_assoc, List.singleton_append, List.cons_append,
      ← ih (fun c member => plain c (List.mem_cons_of_mem _ member)) (c :: read) (by simp)]
    simp [readRecords?, text, comma, lf, cr, Draft.add]

theorem exists_read_cell {cell text : List Char} (written : CellText cell text)
    (cells : List String) : ∃ quoting, quoting ≠ .inside ∧ ∀ rest,
      readRecords? .outside ⟨cells, []⟩ (text ++ rest) =
        readRecords? quoting ⟨cells, cell.reverse⟩ rest := by
  cases written with
  | quoted =>
    refine ⟨.leaving, by decide, ?_⟩
    intro rest
    have inside := readRecords?_doubled cell cells [] rest
    rw [List.append_nil] at inside
    rw [← inside]
    simp [readRecords?]
  | bare plain unquoted =>
    refine ⟨.outside, by decide, ?_⟩
    intro rest
    have outside := readRecords?_bare plain cells [] (fun _ => unquoted) rest
    rw [List.append_nil] at outside
    exact outside

theorem endRecord_eq {cells : List String} {cell : String}
    (distinct : Distinct (cells.reverse ++ [cell])) :
    Draft.endRecord ⟨cells, cell.toList.reverse⟩ = [cells.reverse ++ [cell]] := by
  have marked : ¬((cells.isEmpty && cell.toList.reverse.all isBlank) = true) := by
    intro skipped
    simp only [Bool.and_eq_true, List.isEmpty_iff, List.all_eq_true, List.mem_reverse] at skipped
    obtain ⟨rfl, blank⟩ := skipped
    apply distinct cell rfl
    have gone := trimStart_append blank []
    rw [List.append_nil] at gone
    rw [trim, gone]
    rfl
  unfold Draft.endRecord
  rw [if_neg marked]
  simp [Draft.endCell]

theorem exists_read_record {record : List String} {text : List Char}
    (written : RecordText record text) (cells : List String)
    (distinct : Distinct (cells.reverse ++ record)) :
    ∃ quoting draft, quoting ≠ .inside ∧ draft.endRecord = [cells.reverse ++ record] ∧ ∀ rest,
      readRecords? .outside ⟨cells, []⟩ (text ++ rest) = readRecords? quoting draft rest := by
  induction written generalizing cells with
  | last written =>
    obtain ⟨quoting, closed, reads⟩ := exists_read_cell written cells
    exact ⟨quoting, _, closed, endRecord_eq distinct, reads⟩
  | @next cell later text more written _ ih =>
    obtain ⟨quoting, closed, reads⟩ := exists_read_cell written cells
    -- The comma puts the cell before the others, so the rest is a record from there on.
    have same : (cell :: cells).reverse ++ later = cells.reverse ++ cell :: later := by simp
    rw [← same] at distinct ⊢
    obtain ⟨last, draft, ended, record, continues⟩ := ih (cell :: cells) distinct
    refine ⟨last, draft, ended, record, ?_⟩
    intro rest
    rw [List.append_assoc, reads, List.cons_append, readRecords?_comma closed, ← continues]
    simp [Draft.endCell]

theorem endRecord_of_unmarked {line : List Char} (unmarked : Unmarked line) :
    Draft.endRecord ⟨[], line.reverse⟩ = [] := by
  have blank : ∀ c ∈ line, isBlank c = true := by
    intro c member
    rcases unmarked c member with rfl | rfl <;> rfl
  unfold Draft.endRecord
  rw [if_pos (by simpa using blank)]

theorem readRecords?_unmarked {line : List Char} (unmarked : Unmarked line) (rest : List Char) :
    readRecords? .outside .empty (line ++ rest) =
      readRecords? .outside ⟨[], line.reverse⟩ rest := by
  have plain : Unseparated line := by
    intro c member
    rcases unmarked c member with rfl | rfl <;> decide
  have unquoted : line.head? ≠ some '"' := by
    intro quote
    rcases unmarked _ (List.mem_of_head? quote) with same | same <;> revert same <;> decide
  have bare := readRecords?_bare plain [] [] (fun _ => unquoted) rest
  rw [List.append_nil] at bare
  exact bare

theorem readRecords?_blank {line : List Char} (unmarked : Unmarked line) (ends : LineEnd ending)
    (rest : List Char) : readRecords? .outside .empty (line ++ (ending ++ rest)) =
      readRecords? .outside .empty rest := by
  rw [readRecords?_line (by decide) (readRecords?_unmarked unmarked) ends,
    endRecord_of_unmarked unmarked]
  cases readRecords? .outside .empty rest <;> rfl

theorem readRecords?_lastBlank {line : List Char} (unmarked : Unmarked line) :
    readRecords? .outside .empty line = some [] := by
  rw [readRecords?_lastLine (by decide) (readRecords?_unmarked unmarked),
    endRecord_of_unmarked unmarked]

variable {record : List String} {text : List Char}

theorem readRecords?_record (written : RecordText record text) (distinct : Distinct record)
    (ends : LineEnd ending) (rest : List Char) :
    readRecords? .outside .empty (text ++ (ending ++ rest)) =
      (readRecords? .outside .empty rest).map (record :: ·) := by
  obtain ⟨quoting, draft, closed, ended, reads⟩ := exists_read_record written [] distinct
  rw [readRecords?_line closed reads ends, ended]
  rfl

theorem readRecords?_lastRecord (written : RecordText record text) (distinct : Distinct record) :
    readRecords? .outside .empty text = some [record] := by
  obtain ⟨quoting, draft, closed, ended, reads⟩ := exists_read_record written [] distinct
  rw [readRecords?_lastLine closed reads, ended]
  rfl

end Reader

/-- Reading undoes writing, whichever way the records are written. -/
theorem records?_of_fileText {records : List (List String)} {text : String}
    (distinct : ∀ record ∈ records, Distinct record) (written : FileText records text.toList) :
    records? text = some records := by
  unfold records?
  generalize text.toList = chars at written
  induction written with
  | lastBlank unmarked => exact readRecords?_lastBlank unmarked
  | blank unmarked ends _ ih =>
    rw [readRecords?_blank unmarked ends]
    exact ih distinct
  | lastRecord written => exact readRecords?_lastRecord written (distinct _ List.mem_cons_self)
  | record written ends _ ih =>
    rw [readRecords?_record written (distinct _ List.mem_cons_self) ends,
      ih fun record member => distinct record (List.mem_cons_of_mem _ member)]
    rfl

theorem records?_of_mixed_text :
    records? "\t\nname,\"said, \"\"hi\"\"\"\r\n\"two\nlines\", x\"\" \n  " =
      some [["name", "said, \"hi\""], ["two\nlines", " x\"\" "]] := by
  have first : RecordText ["name", "said, \"hi\""] _ :=
    .next (.bare (by decide) (by decide)) (.last .quoted)
  have second : RecordText ["two\nlines", " x\"\" "] _ :=
    .next .quoted (.last (.bare (by decide) (by decide)))
  have leading : Unmarked ['\t'] := by decide
  have trailing : Unmarked [' ', ' '] := by decide
  have written := FileText.blank leading .lf
    (.record first .crlf (.record second .lf (.lastBlank trailing)))
  apply records?_of_fileText
  · intro record member cell alone
    simp [alone] at member
  · exact (congrArg (FileText _) (by decide)).mp written

end TableQuery.Csv
