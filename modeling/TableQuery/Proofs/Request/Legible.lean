import TableQuery.Proofs.Query.Heading
import TableQuery.Request.Printing

/-! Requests whose canonical text shows them.

A name may hold any text, keywords and quotes too. The canonical text of such a request can show a
keyword before the place where it was written, or hide the written one in a literal.
-/

set_option autoImplicit false

namespace TableQuery

open Query

/-- What stands before LIKE in the text of a condition, or all of it where no LIKE is written. -/
def Condition.charsBeforeLike (condition : Condition) : List Char :=
  if condition.operator = .like then condition.field.toList else condition.chars

def Separated (lead : List Char) : List Condition → Prop
  | [] => True
  | condition :: more =>
    Leads connectives (lead ++ condition.chars) (!more.isEmpty) ∧ Separated [' '] more

namespace Request

variable (request : Request)

def headChars : List Char :=
  "SELECT ".toList ++ listed request.fields ++ " FROM ".toList ++ request.table.toList

def selectionChars : List Char :=
  request.headChars ++ (request.join.map Join.chars).getD []

def filteredChars : List Char :=
  request.selectionChars ++ whereChars request.conditions

def groupedChars : List Char :=
  request.filteredChars ++ groupByChars request.groupBy

theorem chars_eq : request.chars = request.groupedChars ++ orderByChars request.orderBy :=
  rfl

/-- Each keyword that is written is the first of its kind where it is looked for, and one that is
not written stands nowhere. -/
structure Legible : Prop where
  orderBy : Leads [⟨(), ["ORDER", "BY"]⟩] request.groupedChars request.orderBy.isSome
  groupBy : Leads [⟨(), ["GROUP", "BY"]⟩] request.filteredChars request.groupBy.isSome
  filter : Leads [⟨(), ["WHERE"]⟩] request.selectionChars (!request.conditions.isEmpty)
  join : Leads joinKeywords request.headChars request.join.isSome
  fields : Leads [⟨(), ["FROM"]⟩] (' ' :: listed request.fields) true
  table : ∀ join ∈ request.join, Leads [⟨(), ["ON"]⟩] (' ' :: join.table.toList) true
  connectives : Separated [] request.conditions
  like : ∀ condition ∈ request.conditions,
    findPhrase? ["LIKE"] condition.charsBeforeLike = none
  aggregate : hasUngroupedAggregate request.chars request.groupBy = request.ungroupedAggregate

end Request

end TableQuery
