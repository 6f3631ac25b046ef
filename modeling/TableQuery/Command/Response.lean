import TableQuery.Json.Printer

/-! The answers that commands print. -/

set_option autoImplicit false

namespace TableQuery

inductive Response where
  | data (value : Value)
  | error (code message : String)

namespace Response

def isData : Response → Bool
  | data _ => true
  | error .. => false

def toValue : Response → Value
  | data value => .object [("status", .string "ok"), ("data", value)]
  | error code message =>
    .object [("status", .string "error"), ("code", .string code), ("message", .string message)]

def line (response : Response) : String :=
  response.toValue.json ++ "\n"

end Response

structure Output where
  exitCode : Nat
  stdout : String
  stderr : String
  deriving DecidableEq, Repr

def Response.output (response : Response) : Output :=
  ⟨0, response.line, ""⟩

end TableQuery
