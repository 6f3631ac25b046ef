import TableQuery.Text.Blank

/-! Joins of two tables on one equality. -/

set_option autoImplicit false

namespace TableQuery

open Text

/-- A field name cut at its first dot. A name without a dot has an empty table part. -/
structure QualifiedName where
  table : String
  field : String
  deriving DecidableEq, Repr

def QualifiedName.ofName (name : String) : QualifiedName :=
  match cutAt '.' name.toList with
  | some (table, field) => ⟨String.ofList table, String.ofList field⟩
  | none => ⟨"", name⟩

def isTwoPart (name : String) : Bool :=
  match pieces (· == '.') name.toList with
  | [table, field] => !table.isEmpty && !field.isEmpty
  | _ => false

inductive JoinKind where
  | inner
  | left
  | right
  deriving DecidableEq, Repr

namespace JoinKind

def all : List JoinKind :=
  [inner, left, right]

def keyword : JoinKind → String
  | inner => "INNER"
  | left => "LEFT"
  | right => "RIGHT"

def ofKeyword? (word : String) : Option JoinKind :=
  all.find? fun kind => sameLetters kind.keyword.toList word.toList

end JoinKind

/-- The equality `left = right`: a field of the main table and a field of the joined one. -/
structure JoinKeys where
  left : String
  right : String
  deriving DecidableEq, Repr

namespace JoinKeys

def leftName (keys : JoinKeys) : QualifiedName :=
  .ofName keys.left

def rightName (keys : JoinKeys) : QualifiedName :=
  .ofName keys.right

def isQualified (keys : JoinKeys) : Bool :=
  isTwoPart keys.left && isTwoPart keys.right

end JoinKeys

structure Join where
  kind : JoinKind
  table : String
  keys : JoinKeys
  deriving DecidableEq, Repr

end TableQuery
