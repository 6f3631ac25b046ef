import TableQuery.Json.Printer
import TableQuery.Row

/-! Structured log lines.

A line is one JSON object: the event, the severity, and then the other fields in the order of
their keys. Lines of the two highest severities go to the error stream.
-/

set_option autoImplicit false

namespace TableQuery

inductive Severity where
  | trace
  | info
  | warn
  | error
  | fatal
  deriving DecidableEq, Repr

namespace Severity

def all : List Severity :=
  [trace, info, warn, error, fatal]

def rank : Severity → Nat
  | trace => 0
  | info => 1
  | warn => 2
  | error => 3
  | fatal => 4

def name : Severity → String
  | trace => "TRACE"
  | info => "INFO"
  | warn => "WARN"
  | error => "ERROR"
  | fatal => "FATAL"

def ofName? (name : String) : Option Severity :=
  all.find? (·.name == name)

def above (severity : Severity) : List Severity :=
  all.filter fun other => severity.rank < other.rank

def toErrorStream (severity : Severity) : Bool :=
  error.rank ≤ severity.rank

end Severity

inductive Event where
  | queryParsed
  | ungroupedAggregate
  | queryRejected
  | tableLoaded
  | joinApplied
  | filterApplied
  | sortApplied
  deriving DecidableEq, Repr

namespace Event

def all : List Event :=
  [queryParsed, ungroupedAggregate, queryRejected, tableLoaded, joinApplied, filterApplied,
   sortApplied]

def name : Event → String
  | queryParsed => "QUERY_PARSED"
  | ungroupedAggregate => "QUERY_UNGROUPED_AGGREGATE"
  | queryRejected => "QUERY_REJECTED"
  | tableLoaded => "TABLE_LOADED"
  | joinApplied => "JOIN_APPLIED"
  | filterApplied => "FILTER_APPLIED"
  | sortApplied => "SORT_APPLIED"

def ofName? (name : String) : Option Event :=
  all.find? (·.name == name)

def severity : Event → Severity
  | ungroupedAggregate => .warn
  | queryRejected => .error
  | queryParsed => .info
  | tableLoaded | joinApplied | filterApplied | sortApplied => .trace

end Event

abbrev Fields : Type := List (String × String)

structure LogLine where
  severity : Severity
  event : String
  fields : Fields
  deriving DecidableEq, Repr

namespace LogLine

def ofEvent (event : Event) (fields : Fields) : LogLine :=
  ⟨event.severity, event.name, fields⟩

def isReserved (key : String) : Bool :=
  key == "event" || key == "severity"

/-- The fields in the order of their keys; those of one key stay in their order. -/
def sortedFields (line : LogLine) : Fields :=
  line.fields.mergeSort fun first second => compare first.1 second.1 != .gt

/-- The object of a line. Of the fields with one key the last counts. -/
def object (line : LogLine) : Row :=
  -- The reserved keys come first, and fields with these keys are left out.
  .ofEntries
    (("event", .string line.event) :: ("severity", .string line.severity.name) ::
      (line.sortedFields.filter (! isReserved ·.1)).map fun field => (field.1, .string field.2))

def text (line : LogLine) : String :=
  line.object.toValue.json

def onOutput (lines : List LogLine) : List LogLine :=
  lines.filter (! ·.severity.toErrorStream)

def onErrors (lines : List LogLine) : List LogLine :=
  lines.filter (·.severity.toErrorStream)

def outputTexts (lines : List LogLine) : List String :=
  (onOutput lines).map text

def errorTexts (lines : List LogLine) : List String :=
  (onErrors lines).map text

def joined (texts : List String) : String :=
  String.join (texts.map (· ++ "\n"))

end LogLine

end TableQuery
