import TableQuery.Files
import TableQuery.Row

/-! Where tables come from. -/

set_option autoImplicit false

namespace TableQuery

inductive SourceError where
  | tableNotFound (table : String)
  | unreadable (table : String) (failure : ReadFailure)
  | unterminatedQuote (table : String)
  /-- A record, counted from 1 after the header, that is not as wide as the header. -/
  | raggedRecord (table : String) (record width headerWidth : Nat)
  | invalidDocument
  | documentNotObject
  | tableNotArray (table : String)
  /-- An element, counted from 0, that is not an object. -/
  | rowNotObject (table : String) (row : Nat)
  deriving DecidableEq, Repr

namespace SourceError

def natText (n : Nat) : String :=
  String.ofList (Nat.toDigits 10 n)

def readFailed (table reason : String) : String :=
  "Failed to read table " ++ table ++ ": " ++ reason

def document : String :=
  "<document>"

def text : SourceError → String
  | tableNotFound table => "Table not found: " ++ table
  | unreadable table failure => readFailed table failure.text
  | unterminatedQuote table => readFailed table "unterminated quoted field"
  | raggedRecord table record width headerWidth =>
    readFailed table ("record " ++ natText record ++ " has " ++ natText width ++
      " fields, header has " ++ natText headerWidth)
  | invalidDocument => readFailed document "invalid JSON"
  | documentNotObject => readFailed document "expected an object of tables"
  | tableNotArray table => readFailed table "expected an array of rows"
  | rowNotObject table row => readFailed table ("row " ++ natText row ++ " is not an object")

def isMissing : SourceError → Bool
  | tableNotFound _ => true
  | _ => false

end SourceError

/-- Gives all rows of a table, in storage order. -/
abbrev Source : Type := String → Except SourceError Table

end TableQuery
