import TableQuery.Text.Blank
import TableQuery.Text.Word

/-! Calls of aggregate functions in query text.

A call is a function name that does not continue a word, and in parentheses a star or one word.
White space may stand before and inside the parentheses.
-/

set_option autoImplicit false

namespace TableQuery.Query

open Text

def aggregateNames : List String :=
  ["COUNT", "AVG", "SUM", "MIN", "MAX"]

/-- Whether `c` spells a capital letter: in either case, and the long s for S. -/
def spells (letter c : Char) : Bool :=
  c.toUpper == letter || (letter == 'S' && c == 'ſ')

def afterName? : (name : List Char) → List Char → Option (List Char)
  | [], text => some text
  | _ :: _, [] => none
  | letter :: name, c :: text => if spells letter c then afterName? name text else none

def afterArgument? : List Char → Option (List Char)
  | [] => none
  | c :: text =>
    if c = '*' then some text
    else if isWord c then some (text.dropWhile isWord)
    else none

def beginsArguments (text : List Char) : Bool :=
  match trimStart text with
  | '(' :: text =>
    match afterArgument? (trimStart text) with
    | some text => (trimStart text).head? == some ')'
    | none => false
  | _ => false

def beginsCall (text : List Char) : Bool :=
  aggregateNames.any fun name => (afterName? name.toList text).any beginsArguments

/-- Whether a call stands in the text; `previous` is the character before it. -/
def callsAggregateFrom : (previous : Option Char) → List Char → Bool
  | _, [] => false
  | previous, c :: text =>
    -- A name that continues a word is no call.
    (beginsCall (c :: text) && !previous.any isWord) || callsAggregateFrom (some c) text

def callsAggregate (text : List Char) : Bool :=
  callsAggregateFrom none text

/-- Grouping excuses every call. -/
def hasUngroupedAggregate (text : List Char) (groupBy : Option (List String)) : Bool :=
  groupBy.isNone && callsAggregate text

end TableQuery.Query
