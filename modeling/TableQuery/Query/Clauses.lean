import TableQuery.Query.Keyword
import TableQuery.Query.Rejection
import TableQuery.Request

/-! A query cut into its clauses.

The cuts are made from the end of the text: first at ORDER BY, then at GROUP BY in what stands
before it, then at WHERE. What is left is the selection with its join.
-/

set_option autoImplicit false

namespace TableQuery.Query

open Text

structure Clauses where
  selection : List Char
  filter : Option (List Char)
  groupBy : Option (List String)
  orderBy : Option (List OrderKey)
  deriving DecidableEq, Repr

def groupEntry (list entry : List Char) : Except Rejection String :=
  let name := trim entry
  if name.isEmpty then .error (.emptyGroupEntry (String.ofList (trim list)))
  else .ok (String.ofList name)

def readGroupBy (list : List Char) : Except Rejection (List String) :=
  (entries list).mapM (groupEntry list)

def direction? (word : List Char) : Option Direction :=
  [Direction.ascending, .descending].find? fun direction =>
    sameLetters direction.keyword.toList word

/-- A field with an optional direction; without one the order is ascending. -/
def orderEntry (list entry : List Char) : Except Rejection OrderKey :=
  match words entry with
  | [] => .error (.emptyOrderEntry (String.ofList (trim list)))
  | [field] => .ok ⟨String.ofList field, .ascending⟩
  | field :: word :: more =>
    match direction? word with
    | none => .error (.badDirection (String.ofList word) (String.ofList field))
    | some direction =>
      match more with
      | [] => .ok ⟨String.ofList field, direction⟩
      | extra :: _ => .error (.extraOrderWord (String.ofList extra) (String.ofList (trim entry)))

def readOrderBy (list : List Char) : Except Rejection (List OrderKey) :=
  (entries list).mapM (orderEntry list)

def readFilter (text : List Char) : Except Rejection (List Char) :=
  let fragment := trim text
  if fragment.isEmpty then .error (.notCondition "") else .ok fragment

/-- Cuts off the clause that a phrase begins: the text before it without white space at its end,
and the clause as `read` understands it. -/
def cutClause {Part : Type} (phrase : Phrase) (read : List Char → Except Rejection Part)
    (text : List Char) : Except Rejection (List Char × Option Part) :=
  match findPhrase? phrase text with
  | none => .ok (text, none)
  | some cut => (read cut.after).map fun part => (trimEnd cut.before, some part)

def Clauses.ofQuery (query : List Char) : Except Rejection Clauses := do
  let (rest, orderBy) ← cutClause ["ORDER", "BY"] readOrderBy (trim query)
  let (rest, groupBy) ← cutClause ["GROUP", "BY"] readGroupBy rest
  let (selection, filter) ← cutClause ["WHERE"] readFilter rest
  return { selection, filter, groupBy, orderBy }

end TableQuery.Query
