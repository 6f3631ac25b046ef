import TableQuery.Condition
import TableQuery.Query.Keyword
import TableQuery.Query.Rejection

/-! The conditions of a query.

AND and OR both only separate conditions: which of the two stood there is not kept.
-/

set_option autoImplicit false

namespace TableQuery.Query

open Text

def connectives : List (Keyword Unit) :=
  [⟨(), ["AND"]⟩, ⟨(), ["OR"]⟩]

def stripQuotes (literal : List Char) : List Char :=
  match literal with
  | '\'' :: rest => if rest.getLast? = some '\'' then rest.dropLast else literal
  | _ => literal

def comparison? (text : List Char) : Option Operator :=
  Operator.comparisons.find? fun operator => operator.token.toList.isPrefixOf text

def cutAtComparison? : Place → List Char → Option (List Char × Operator × List Char)
  | _, [] => none
  | place, c :: text =>
    match if place.isPlain c then comparison? (c :: text) else none with
    | some operator => some ([], operator, (c :: text).drop operator.token.length)
    | none =>
      (cutAtComparison? (place.next c) text).map fun cut => (c :: cut.1, cut.2)

/-- The text around LIKE. At the end of the text LIKE is an ordinary word, as in `note = like`. -/
def cutAtLike? (text : List Char) : Option (List Char × List Char) :=
  match findPhrase? ["LIKE"] text with
  | some cut => if cut.after.isEmpty then none else some (cut.before, cut.after)
  | none => none

def condition? (text : List Char) : Option Condition :=
  match cutAtLike? text with
  | some (before, after) =>
    let field := trim before
    if field.isEmpty then none
    else some ⟨String.ofList field, .like, String.ofList (stripQuotes (trim after))⟩
  | none =>
    match cutAtComparison? .start text with
    | some (before, operator, after) =>
      let field := trim before
      let value := trim after
      if field.isEmpty || value.isEmpty then none
      else some ⟨String.ofList field, operator, String.ofList (stripQuotes value)⟩
    | none => none

def readCondition (text : List Char) : Except Rejection Condition :=
  match condition? (trim text) with
  | some condition => .ok condition
  | none => .error (.notCondition (String.ofList (trim text)))

def readConditions (text : List Char) : Except Rejection (List Condition) :=
  (separate connectives text).mapM readCondition

end TableQuery.Query
