import TableQuery.Proofs.Command.Outputs
import TableQuery.Proofs.Engine.Admission

/-! Agreement of the ways in.

A text can be given to an engine or to a command, and an engine also takes the request that a text
is read as. Which way is taken does not matter to the answer: the reader of texts, the settings and
the stages of an engine are the same on all of them.
-/

set_option autoImplicit false

namespace TableQuery

namespace Command

variable {reader : Reader} {input : ByteArray} {given : Option String} {text : String}

theorem output_parse (usable : queryText given input = .ok text) (stamp : Stamp) :
    (Command.parse given).output reader input stamp = parseOutput text := by
  simp only [output, execute, usable]
  rfl

theorem output_query {options : QueryOptions} {config : Config}
    (usable : queryText given input = .ok text)
    (readable : loadConfig reader options.config = .ok config) (stamp : Stamp) :
    (Command.query options given).output reader input stamp =
      queryOutput ((engine options config reader).run stamp (.query text)) := by
  simp only [output, execute, usable]
  rw [readable]
  rfl

theorem queryOutput_of_silent {run : Run Table} (silent : run.log = []) :
    queryOutput run = (queryResponse run.result).output := by
  unfold queryOutput
  rw [silent]
  rfl

theorem output_query_of_quiet {options : QueryOptions} {config : Config}
    (usable : queryText given input = .ok text)
    (readable : loadConfig reader options.config = .ok config) (quiet : options.log = false)
    (stamp : Stamp) :
    (Command.query options given).output reader input stamp =
      (queryResponse ((engine options config reader).answerTo (.query text))).output := by
  have off : (engine options config reader).config.logEvents = false := by
    unfold engine
    rw [quiet]
    rfl
  rw [output_query usable readable, queryOutput_of_silent (Engine.log_run_of_quiet off stamp _),
    Engine.result_run]

/-- Both commands give this response to a text, however the text is given to them, and its line
represents the object. -/
def BothPrint (text : String) (response : Response) (fields : List (String × Value)) : Prop :=
  response.output.Prints fields ∧
    ∀ reader input given stamp, queryText given input = .ok text →
      (Command.parse given).output reader input stamp = response.output ∧
        ∀ options config, loadConfig reader options.config = .ok config → options.log = false →
          (Command.query options given).output reader input stamp = response.output

theorem bothPrint_of_rejected {rejection : Rejection}
    (rejected : Request.ofText text = .error rejection) :
    BothPrint text (.error rejection.code rejection.text)
      [("status", .string "error"), ("code", .string rejection.code),
        ("message", .string rejection.text)] := by
  refine ⟨prints_error _ _, ?_⟩
  intro reader input given stamp usable
  constructor
  · rw [output_parse usable, parseOutput, rejected]
    rfl
  · intro options config readable quiet
    rw [output_query_of_quiet usable readable quiet,
      Engine.answerTo_of_refused (Engine.admitted_of_rejected rejected _)]
    rfl

end Command

namespace Engine

/-- A text that cannot be read fails alike everywhere, before any table is loaded. One that can be
read is answered as its request is, unless the settings refuse it. -/
theorem run_text_agrees (engine : Engine) (stamp : Stamp) (text : String) :
    (∀ rejection, Request.ofText text = .error rejection →
      engine.Refuses stamp (.query text) (.rejected rejection) ∧
        Command.BothPrint text (.error rejection.code rejection.text)
          [("status", .string "error"), ("code", .string rejection.code),
            ("message", .string rejection.text)]) ∧
      (∀ request, Request.ofText text = .ok request →
        ¬(request.ungroupedAggregate = true ∧ engine.config.rejectUngroupedAggregate = true) →
        ∀ other, (engine.run stamp (.query text)).result =
              (engine.run other (.request request)).result ∧
            (engine.run stamp (.query text)).metrics =
              (engine.run other (.request request)).metrics) ∧
      ∀ request, Request.ofText text = .ok request → request.ungroupedAggregate = true →
        engine.config.rejectUngroupedAggregate = true →
        engine.Refuses stamp (.query text)
          (.ungroupedAggregate (String.ofList (Text.trim text.toList))) := by
  refine ⟨?_, ?_, ?_⟩
  · intro rejection rejected
    have refused := admitted_of_rejected rejected engine
    exact ⟨refuses_of_refused refused stamp, Command.bothPrint_of_rejected rejected⟩
  · intro request read allowed other
    exact run_eq_of_admitted_eq (admitted_of_read read allowed) stamp other
  · intro request read ungrouped refusing
    exact refuses_of_refused (admitted_of_ungrouped read ungrouped refusing) stamp

def guesthouse : Engine where
  source _ := .ok [.ofEntries [("name", .string "Ann")]]
  config := { rejectUngroupedAggregate := true }

def guestNames : Request where
  fields := ["name"]
  table := "guests"
  conditions := []
  join := none
  groupBy := none
  orderBy := none
  ungroupedAggregate := false

theorem run_text_agrees_of_guests :
    let asked (text : String) := guesthouse.run ⟨"", ""⟩ (.query text)
    let printed (command : Option String → Command) :=
      (command (some "SELECT name")).output (fun _ => .error .notFound) ⟨#[]⟩ ⟨"", ""⟩
    let message := "[REJECT] QUERY_INVALID_SELECT: Invalid SELECT format: 'SELECT name'"
    (guesthouse.Refuses ⟨"", ""⟩ (.query "SELECT name") (.rejected (.notSelection "SELECT name")) ∧
        printed (.query {}) = printed .parse ∧
        (printed .parse).Prints [("status", .string "error"),
          ("code", .string "QUERY_INVALID_SELECT"), ("message", .string message)]) ∧
      (asked "SELECT name FROM guests").result =
        (guesthouse.run ⟨"", ""⟩ (.request guestNames)).result ∧
      guesthouse.Refuses ⟨"", ""⟩ (.query "SELECT COUNT(*) FROM guests ")
        (.ungroupedAggregate "SELECT COUNT(*) FROM guests") := by
  have cut : Request.ofText "SELECT name" = .error (.notSelection "SELECT name") := rfl
  have plain : Request.ofText "SELECT name FROM guests" = .ok guestNames := rfl
  have aggregate : Request.ofText "SELECT COUNT(*) FROM guests " =
      .ok { guestNames with fields := ["COUNT(*)"], ungroupedAggregate := true } := by
    decide +kernel
  obtain ⟨rejected, -, -⟩ := guesthouse.run_text_agrees ⟨"", ""⟩ "SELECT name"
  obtain ⟨-, read, -⟩ := guesthouse.run_text_agrees ⟨"", ""⟩ "SELECT name FROM guests"
  obtain ⟨-, -, refused⟩ := guesthouse.run_text_agrees ⟨"", ""⟩ "SELECT COUNT(*) FROM guests "
  obtain ⟨fails, shown, commands⟩ := rejected _ cut
  obtain ⟨parsed, queried⟩ := commands (fun _ => .error .notFound) ⟨#[]⟩ (some "SELECT name") _ rfl
  obtain ⟨answers, -⟩ := read _ plain (fun both => Bool.false_ne_true both.1) ⟨"", ""⟩
  rw [← parsed] at shown
  exact ⟨⟨fails, (queried {} {} rfl rfl).trans parsed.symm, shown⟩, answers,
    refused _ aggregate rfl rfl⟩

end Engine

end TableQuery
