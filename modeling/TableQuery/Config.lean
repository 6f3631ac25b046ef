import TableQuery.Files
import TableQuery.Json.Printer
import TableQuery.Json.Reader

/-! Settings of a query engine. -/

set_option autoImplicit false

namespace TableQuery

structure Config where
  /-- Evaluate patterns; without it every LIKE condition is an error. -/
  likeMatching : Bool := false
  /-- Sort the rows by the order keys of a query. -/
  applyOrderBy : Bool := false
  /-- Refuse queries that call an aggregate function without grouping. -/
  rejectUngroupedAggregate : Bool := false
  /-- Write log lines. -/
  logEvents : Bool := true
  deriving DecidableEq, Repr

inductive ConfigError where
  | unreadable (path : String) (failure : ReadFailure)
  | invalid
  deriving DecidableEq, Repr

def ConfigError.text : ConfigError → String
  | unreadable path failure => "Failed to read config file " ++ path ++ ": " ++ failure.text
  | invalid => "Invalid config: not an engine configuration"

namespace Config

def extended : Config :=
  { likeMatching := true, applyOrderBy := true }

def quiet (config : Config) : Config :=
  { config with logEvents := false }

def settings (config : Config) : List (String × Bool) :=
  [("like_matching", config.likeMatching), ("apply_order_by", config.applyOrderBy),
   ("reject_ungrouped_aggregate", config.rejectUngroupedAggregate),
   ("log_events", config.logEvents)]

def toValue (config : Config) : Value :=
  .object (config.settings.map fun setting => (setting.1, .bool setting.2))

def names : List String :=
  settings {} |>.map Prod.fst

/-- Changes the setting with this name; there are no other names and no other values. -/
def set? (config : Config) : String × Value → Option Config
  | ("like_matching", .bool value) => some { config with likeMatching := value }
  | ("apply_order_by", .bool value) => some { config with applyOrderBy := value }
  | ("reject_ungrouped_aggregate", .bool value) =>
    some { config with rejectUngroupedAggregate := value }
  | ("log_events", .bool value) => some { config with logEvents := value }
  | _ => none

def ofSettings? (settings : List (String × Value)) : Option Config :=
  settings.foldlM set? {}

/-- Settings by name, each at most once. -/
def ofMembers? (members : List (String × Value)) : Option Config :=
  if (keysOf members).Nodup then ofSettings? members else none

/-- Settings in order, of which the last may be left out. -/
def ofItems? (items : List Value) : Option Config :=
  if items.length ≤ names.length then ofSettings? (names.zip items) else none

def ofJson (document : String) : Except ConfigError Config :=
  -- The members are taken as they are written, for a repeated name is a fault.
  let config := match Json.members? document with
    | some members => ofMembers? members
    | none => (Json.items? document).bind ofItems?
  match config with
  | some config => .ok config
  | none => .error .invalid

def ofFile (reader : Reader) (path : String) : Except ConfigError Config :=
  match reader path with
  | .ok document => ofJson document
  | .error failure => .error (.unreadable path failure)

end Config

end TableQuery
