import TableQuery.Proofs.Csv.Marks
import TableQuery.Proofs.Projection
import TableQuery.Proofs.Traversal

/-! Tables from the records of a file.

A file gives a row for each record after its header, or it gives no row at all: a quote is left open
in it, or one of its records is not as wide as the header.
-/

set_option autoImplicit false

namespace TableQuery.Csv

def heading (text : String) : List String :=
  (recordsIn text).headD []

def body (text : String) : List (List String) :=
  (recordsIn text).tail

def AsWide (header : List String) (records : List (List String)) : Prop :=
  ∀ record ∈ records, record.length = header.length

instance (header : List String) (records : List (List String)) : Decidable (AsWide header records) :=
  List.decidableBAll _ records

def rowOf (inferNumbers : Bool) (header record : List String) : Row :=
  .ofEntries (header.zip (record.map (cellValue inferNumbers)))

/-- What a row has of its record. With distinct names nothing is lost; of several cells under one
name a row holds one. -/
structure IsRowOf (inferNumbers : Bool) (header record : List String) (row : Row) : Prop where
  width : record.length = header.length
  keys : header.Nodup → row.keys = header
  verbatim : header.Nodup → inferNumbers = false → row.entries = header.zip (record.map .string)
  cells : inferNumbers = false → ∀ key value, row.get? key = some value →
    ∃ cell, (key, cell) ∈ header.zip record ∧ value = .string cell

section Rows
variable {table : String} {inferNumbers : Bool} {header : List String} {index : Nat}

theorem readRows_eq_ok_iff {records : List (List String)} {rows : Table} :
    readRows table inferNumbers header index records = .ok rows ↔
      AsWide header records ∧ records.map (rowOf inferNumbers header) = rows := by
  induction records generalizing index rows with
  | nil => simp [readRows, AsWide]
  | cons record rest ih =>
    rw [readRows]
    by_cases width : record.length = header.length
    · rw [if_neg (not_not_intro width), map_eq_ok_iff]
      simp only [ih, AsWide, List.forall_mem_cons, width, true_and, List.map_cons]
      constructor
      · rintro ⟨later, ⟨wide, rfl⟩, rfl⟩
        exact ⟨wide, rfl⟩
      · rintro ⟨wide, rfl⟩
        exact ⟨_, ⟨wide, rfl⟩, rfl⟩
    · rw [if_pos width]
      constructor
      · intro failed
        cases failed
      · intro held
        exact absurd (held.1 record List.mem_cons_self) width

theorem readRows_of_ragged {before : List (List String)} {record : List String}
    (wide : AsWide header before) (ragged : record.length ≠ header.length)
    (after : List (List String)) :
    readRows table inferNumbers header index (before ++ record :: after) =
      .error (.raggedRecord table (index + before.length + 1) record.length header.length) := by
  induction before generalizing index with
  | nil => rw [List.nil_append, readRows, if_pos ragged]; rfl
  | cons first before ih =>
    obtain ⟨width, wide⟩ := List.forall_mem_cons.1 wide
    rw [List.cons_append, readRows, if_neg (not_not_intro width), ih wide, List.length_cons,
      Nat.add_assoc index 1, Nat.add_comm 1]
    rfl

theorem exists_first_ragged {records : List (List String)} (ragged : ¬AsWide header records) :
    ∃ before record after, records = before ++ record :: after ∧ AsWide header before ∧
      record.length ≠ header.length :=
  exists_first_failing ragged

theorem isRowOf_rowOf {record : List String} (width : record.length = header.length) :
    IsRowOf inferNumbers header record (rowOf inferNumbers header record) := by
  have keys : keysOf (header.zip (record.map (cellValue inferNumbers))) = header :=
    List.map_fst_zip (by simp [width])
  have kept (distinct : header.Nodup) : (rowOf inferNumbers header record).entries =
      header.zip (record.map (cellValue inferNumbers)) :=
    Row.entries_ofEntries (by rw [keys]; exact distinct)
  have plain (off : inferNumbers = false) : cellValue inferNumbers = Value.string := by
    subst off
    rfl
  refine { width := width, keys := ?_, verbatim := ?_, cells := ?_ }
  · intro distinct
    rw [Row.keys, kept distinct, keys]
  · intro distinct off
    rw [kept distinct, plain off]
  · intro off key value held
    rw [rowOf, Row.get?_ofEntries, plain off, List.zip_map_right] at held
    -- A lookup answers with one of the entries, whichever of those with its key.
    obtain ⟨before, after, split, -⟩ := List.lookup_eq_some_iff.1 held
    have member : (key, value) ∈ (header.zip record).map (Prod.map id Value.string) := by
      rw [← List.mem_reverse, split]
      simp
    obtain ⟨entry, inside, same⟩ := List.mem_map.1 member
    cases same
    exact ⟨entry.2, inside, rfl⟩

end Rows

theorem ofText_eq (table : String) (inferNumbers : Bool) (text : String) :
    ofText table inferNumbers text =
      if EndsInside text then .error (.unterminatedQuote table)
      else readRows table inferNumbers (heading text) 0 (body text) := by
  rw [ofText, records?_eq]
  by_cases inside : EndsInside text
  · rw [if_pos inside, if_pos inside]
  · rw [if_neg inside, if_neg inside, heading, body]
    cases recordsIn text <;> rfl

/-- What a file's text gives for a table: a row for each record, or one error. A text that ends inside
a quoted cell has no records. -/
structure LoadsAs (directory : Directory) (table text : String)
    (loaded : Except SourceError Table) : Prop where
  succeeds_iff : (∃ rows, loaded = .ok rows) ↔ ¬EndsInside text ∧ AsWide (heading text) (body text)
  rows : ∀ rows, loaded = .ok rows →
    List.Forall₂ (IsRowOf directory.inferNumbers (heading text)) (body text) rows
  unterminated : EndsInside text → loaded = .error (.unterminatedQuote table)
  /-- The error names the first record of another width. -/
  ragged : ¬EndsInside text → ¬AsWide (heading text) (body text) →
    ∃ before record after, body text = before ++ record :: after ∧ AsWide (heading text) before ∧
      record.length ≠ (heading text).length ∧ ∃ error, loaded = .error error ∧
        error = .raggedRecord table (before.length + 1) record.length (heading text).length ∧
        error.text = SourceError.readFailed table ("record " ++
          SourceError.natText (before.length + 1) ++ " has " ++ SourceError.natText record.length ++
          " fields, header has " ++ SourceError.natText (heading text).length)

/-- A readable file is loaded as a whole or not at all. -/
theorem Directory.load_of_readable (directory : Directory) {reader : Reader} {table text : String}
    (readable : reader (directory.tablePath table) = .ok text) :
    LoadsAs directory table text (directory.load reader table) := by
  have loads : directory.load reader table = ofText table directory.inferNumbers text := by
    rw [Directory.load, readable]
  rw [loads, ofText_eq]
  by_cases inside : EndsInside text
  · rw [if_pos inside]
    constructor <;> simp [inside]
  · rw [if_neg inside]
    refine { succeeds_iff := ?_, rows := ?_, unterminated := (absurd · inside), ragged := ?_ }
    · simp [readRows_eq_ok_iff, inside]
    · intro rows read
      obtain ⟨wide, rfl⟩ := readRows_eq_ok_iff.1 read
      exact List.forall₂_map_right_iff.2
        (List.forall₂_same.2 fun record member => isRowOf_rowOf (wide record member))
    · intro _ uneven
      obtain ⟨before, record, after, split, wide, differs⟩ := exists_first_ragged uneven
      refine ⟨before, record, after, split, wide, differs, _, ?_, rfl, rfl⟩
      rw [split, readRows_of_ragged wide differs, Nat.zero_add]

theorem Directory.load_of_notes :
    let directory : Directory := ⟨"data", false⟩
    let notes := "id,note\r\n1,\"two\nlines\"\n \n2,"
    let reader : Reader := fun path =>
      if path = "data/notes.csv" then .ok notes else .error .notFound
    reader (directory.tablePath "notes") = .ok notes ∧
      ∃ rows, directory.load reader "notes" = .ok rows ∧
        List.Forall₂ (IsRowOf false ["id", "note"]) [["1", "two\nlines"], ["2", ""]] rows := by
  intro directory notes reader
  have readable : reader (directory.tablePath "notes") = .ok notes := by decide +kernel
  have loads := directory.load_of_readable readable
  have header : heading notes = ["id", "note"] := by decide +kernel
  have records : body notes = [["1", "two\nlines"], ["2", ""]] := by decide +kernel
  obtain ⟨rows, loaded⟩ := loads.succeeds_iff.2 ⟨by decide +kernel, by decide +kernel⟩
  have related := loads.rows rows loaded
  rw [header, records] at related
  exact ⟨readable, rows, loaded, related⟩

end TableQuery.Csv
