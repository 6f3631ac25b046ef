import TableQuery.Join

/-! Reasons to reject query text. -/

set_option autoImplicit false

namespace TableQuery

inductive Clause where
  | select
  | join
  | filter
  | groupBy
  | orderBy
  deriving DecidableEq, Repr

namespace Clause

def all : List Clause :=
  [select, join, filter, groupBy, orderBy]

def code : Clause → String
  | select => "QUERY_INVALID_SELECT"
  | join => "QUERY_INVALID_JOIN"
  | filter => "QUERY_INVALID_WHERE"
  | groupBy => "QUERY_INVALID_GROUP_BY"
  | orderBy => "QUERY_INVALID_ORDER_BY"

def severity : String :=
  "REJECT"

end Clause

inductive Rejection where
  | notSelection (fragment : String)
  | joinWithoutCondition (kind : JoinKind) (text : String)
  | badJoinCondition (kind : JoinKind) (condition : String)
  | unqualifiedJoin (keys : JoinKeys)
  | notCondition (text : String)
  | emptyGroupEntry (list : String)
  | emptyOrderEntry (list : String)
  | badDirection (word field : String)
  | extraOrderWord (word entry : String)
  deriving DecidableEq, Repr

namespace Rejection

def clause : Rejection → Clause
  | notSelection _ => .select
  | joinWithoutCondition .. | badJoinCondition .. | unqualifiedJoin _ => .join
  | notCondition _ => .filter
  | emptyGroupEntry _ => .groupBy
  | emptyOrderEntry _ | badDirection .. | extraOrderWord .. => .orderBy

def code (rejection : Rejection) : String :=
  rejection.clause.code

def message : Rejection → String
  | notSelection fragment => "Invalid SELECT format: '" ++ fragment ++ "'"
  | joinWithoutCondition kind text =>
    kind.keyword ++ " JOIN is missing an ON condition: '" ++ text ++ "'"
  | badJoinCondition kind condition =>
    "Invalid " ++ kind.keyword ++ " JOIN condition: '" ++ condition ++ "'"
  | unqualifiedJoin keys =>
    "JOIN operands must be table.field: '" ++ keys.left ++ " = " ++ keys.right ++ "'"
  | notCondition text => "Invalid WHERE clause format: '" ++ text ++ "'"
  | emptyGroupEntry list => "Empty field in GROUP BY list: '" ++ list ++ "'"
  | emptyOrderEntry list => "Empty field in ORDER BY list: '" ++ list ++ "'"
  | badDirection word field => "Invalid sort direction '" ++ word ++ "' for field '" ++ field ++ "'"
  | extraOrderWord word entry =>
    "Unexpected token '" ++ word ++ "' in ORDER BY entry '" ++ entry ++ "'"

/-- The text at fault, where the rejection is about one piece of it. -/
def fragment? : Rejection → Option String
  | notSelection fragment => some fragment
  | notCondition text => some text
  | _ => none

def text (rejection : Rejection) : String :=
  "[" ++ Clause.severity ++ "] " ++ rejection.code ++ ": " ++ rejection.message

end Rejection

end TableQuery
