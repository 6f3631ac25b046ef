import TableQuery.Log.Line

/-! Scopes: activities that log their start and their outcome. -/

set_option autoImplicit false

namespace TableQuery

/-- An activity under observation. Its fields are on every line that it logs. -/
structure Scope where
  name : String
  fields : Fields
  /-- A disabled scope logs nothing. -/
  enabled : Bool
  isOpen : Bool
  deriving DecidableEq, Repr

namespace Scope

def lines (scope : Scope) (severity : Severity) (phase : String) (extra : Fields) : List LogLine :=
  if scope.enabled then [⟨severity, scope.name ++ "_" ++ phase, scope.fields ++ extra⟩] else []

def start (name : String) (fields : Fields) (enabled : Bool) : Scope :=
  ⟨name, fields, enabled, true⟩

def startLines (scope : Scope) : List LogLine :=
  scope.lines .info "BEGIN" []

def closed (scope : Scope) : Scope :=
  { scope with isOpen := false }

def completionLines (scope : Scope) (extra : Fields) (elapsed : String) : List LogLine :=
  scope.lines .info "COMPLETE" (extra ++ [("duration_ms", elapsed)])

def failureLines (scope : Scope) (reason : String) : List LogLine :=
  scope.lines .error "FAILED" [("reason", reason)]

/-- What is logged when a scope is let go: a complaint, if it is still open. -/
def releaseLines (scope : Scope) : List LogLine :=
  if scope.isOpen then
    scope.lines .warn "INCOMPLETE" [("reason", "scope dropped without completion")]
  else []

/-- How a scope ends. -/
inductive Ending where
  | complete (extra : Fields) (elapsed : String)
  | fail (reason : String)
  | drop

/-- The lines after the start, up to the moment when the scope is let go. A scope that was ended
is closed by then. -/
def endLines (scope : Scope) : Ending → List LogLine
  | .complete extra elapsed => scope.completionLines extra elapsed ++ scope.closed.releaseLines
  | .fail reason => scope.failureLines reason ++ scope.closed.releaseLines
  | .drop => scope.releaseLines

end Scope

end TableQuery
