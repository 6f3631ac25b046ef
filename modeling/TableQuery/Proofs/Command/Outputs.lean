import TableQuery.Command.Execution
import TableQuery.Proofs.Json.Compact
import TableQuery.Proofs.Serialization

/-! What commands leave behind.

An answer is one line of JSON on the standard output, and that line represents the answer's object.
A command that gives no answer leaves a code and a message on the error stream.
-/

set_option autoImplicit false

namespace TableQuery

/-- A JSON object on one line of the standard output, and nothing else. -/
structure Output.Prints (output : Output) (fields : List (String × Value)) : Prop where
  exitCode : output.exitCode = 0
  stderr : output.stderr = ""
  stdout : ∃ line, output.stdout = line ++ "\n" ∧
    Json.IsCompact (.object fields) line.toList ∧ '\n' ∉ line.toList

structure Output.Complains (output : Output) : Prop where
  exitCode : output.exitCode = 1
  stdout : output.stdout = ""
  stderr : ∃ code ∈ CommandError.codes, ∃ message, output.stderr = code ++ ": " ++ message ++ "\n"

theorem complains_output (error : CommandError) : error.output.Complains where
  exitCode := rfl
  stdout := rfl
  stderr := by
    have known : error.code ∈ CommandError.codes := by
      cases error <;> simp [CommandError.code, CommandError.codes]
    exact ⟨_, known, _, rfl⟩

theorem prints_output {response : Response} {fields : List (String × Value)}
    (object : response.toValue = .object fields) (representable : response.toValue.Representable) :
    response.output.Prints fields where
  exitCode := rfl
  stderr := rfl
  stdout := by
    have compact := Json.isCompact_json representable
    exact ⟨response.toValue.json, rfl, object ▸ compact, Json.lineFeed_notMem_of_isCompact compact⟩

theorem representable_toValue {response : Response}
    (data : ∀ value, response = .data value → value.Representable) :
    response.toValue.Representable := by
  cases response with
  | data value => exact .object (by simp [Value.Representable.string, data value rfl])
  | error code message => exact .object (by simp [Value.Representable.string])

theorem prints_error (code message : String) : (Response.error code message).output.Prints
    [("status", .string "error"), ("code", .string code), ("message", .string message)] :=
  prints_output rfl (representable_toValue nofun)

end TableQuery
