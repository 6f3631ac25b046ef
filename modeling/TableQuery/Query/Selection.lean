import TableQuery.Query.Keyword
import TableQuery.Query.Rejection
import TableQuery.Text.Word

/-! The selection of a query: fields, table and join. -/

set_option autoImplicit false

namespace TableQuery.Query

open Text

structure Selection where
  fields : List String
  table : String
  join : Option Join
  deriving DecidableEq, Repr

def joinKeywords : List (Keyword JoinKind) :=
  JoinKind.all.map fun kind => ⟨kind, [kind.keyword, "JOIN"]⟩

def isOperand (text : List Char) : Bool :=
  !text.isEmpty && text.all fun c => isAlphanumeric c || c == '_' || c == '.'

def joinKeys? (condition : List Char) : Option JoinKeys :=
  match cutAt '=' condition with
  | none => none
  | some (left, right) =>
    if isOperand (trim left) && isOperand (trim right) then
      some ⟨String.ofList (trim left), String.ofList (trim right)⟩
    else none

/-- The joined table and the condition after a join keyword. The space in front lets ON be the
first word. -/
def readJoin (kind : JoinKind) (text : List Char) : Except Rejection Join :=
  let text := trim text
  match findPhrase? ["ON"] (' ' :: text) with
  | none => .error (.joinWithoutCondition kind (String.ofList text))
  | some cut =>
    let table := trim cut.before
    let condition := trim cut.after
    match joinKeys? condition with
    | some keys =>
      if table.isEmpty then .error (.badJoinCondition kind (String.ofList condition))
      else .ok ⟨kind, String.ofList table, keys⟩
    | none => .error (.badJoinCondition kind (String.ofList condition))

def fieldNames? (list : List Char) : Option (List String) :=
  (entries list).mapM fun entry =>
    let name := trim entry
    if name.isEmpty then none else some (String.ofList name)

def fieldsAndTable? (text : List Char) : Option (List String × String) := do
  let body ← afterLeadingWord? "SELECT" text
  let cut ← findPhrase? ["FROM"] body
  let table := trim cut.after
  if (trim cut.before).isEmpty || table.isEmpty then none
  else return (← fieldNames? (trim cut.before), String.ofList table)

def readFieldsAndTable (text : List Char) : Except Rejection (List String × String) :=
  match fieldsAndTable? text with
  | some found => .ok found
  | none => .error (.notSelection (String.ofList text))

def Selection.ofText (text : List Char) : Except Rejection Selection :=
  match find? joinKeywords text with
  | some (kind, cut) => do
    let join ← readJoin kind cut.after
    let (fields, table) ← readFieldsAndTable (trim cut.before)
    return { fields, table, join := some join }
  | none => do
    let (fields, table) ← readFieldsAndTable (trim text)
    return { fields, table, join := none }

end TableQuery.Query
