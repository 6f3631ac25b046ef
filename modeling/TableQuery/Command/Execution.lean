import TableQuery.Command.Arguments
import TableQuery.Command.Response
import TableQuery.Engine
import TableQuery.Request.Printing
import TableQuery.Source.Csv

/-! Commands executed.

A query that fails is an answer like any other. Only when the command itself cannot run, for want
of a usable request or of readable settings, it ends with a message on the error stream.
-/

set_option autoImplicit false

namespace TableQuery

inductive CommandError where
  | config (error : ConfigError)
  | input (failure : ReadFailure)
  | emptyInput
  | inputNotJson
  | missingQuery
  | runtime (text : String)
  deriving DecidableEq, Repr

namespace CommandError

def codes : List String :=
  ["JOINQL_CLI_CONFIG_ERROR", "JOINQL_CLI_IO_ERROR", "JOINQL_CLI_INVALID_REQUEST",
   "JOINQL_CLI_RUNTIME_FAILED"]

def code : CommandError → String
  | config _ => "JOINQL_CLI_CONFIG_ERROR"
  | input _ => "JOINQL_CLI_IO_ERROR"
  | emptyInput | inputNotJson | missingQuery => "JOINQL_CLI_INVALID_REQUEST"
  | runtime _ => "JOINQL_CLI_RUNTIME_FAILED"

def message : CommandError → String
  | config error => error.text
  | input failure => failure.text
  | emptyInput => "Empty input"
  | inputNotJson => "JSON error: not a JSON value"
  | missingQuery => "Request must contain a string \"query\""
  | runtime text => text

def text (error : CommandError) : String :=
  error.code ++ ": " ++ error.message

def output (error : CommandError) : Output :=
  ⟨1, "", error.text ++ "\n"⟩

end CommandError

namespace Command

def firstLine (input : ByteArray) : ByteArray :=
  ⟨(input.toList.takeWhile (· != 10)).toArray⟩

def requestText (line : String) : Except CommandError String :=
  if (Text.trim line.toList).isEmpty then .error .emptyInput
  else match Json.value? line with
    | none => .error .inputNotJson
    | some (.object fields) =>
      match fields.lookup "query" with
      | some (.string text) => .ok text
      | _ => .error .missingQuery
    | some _ => .error .missingQuery

def readRequest (input : ByteArray) : Except CommandError String :=
  match decodeText (firstLine input) with
  | .ok line => requestText line
  | .error failure => .error (.input failure)

def queryText (text : Option String) (input : ByteArray) : Except CommandError String :=
  match text with
  | some text => .ok text
  | none => readRequest input

def loadConfig (reader : Reader) : Option String → Except CommandError Config
  | some path => (Config.ofFile reader path).mapError .config
  | none => .ok {}

def source (options : QueryOptions) : Csv.Directory :=
  ⟨options.data, options.inferNumbers⟩

/-- The engine for a query command. Without `--log` it logs nothing, whatever the settings say. -/
def engine (options : QueryOptions) (config : Config) (reader : Reader) : Engine where
  source := (source options).load reader
  config := if options.log then config else config.quiet

def queryResponse : Except QueryError Table → Response
  | .ok rows => .data (.array (rows.map Row.toValue))
  | .error error => .error error.code error.text

def parseResponse : Except Rejection Request → Response
  | .ok request => .data request.toValue
  | .error rejection => .error rejection.code rejection.text

def parseOutput (text : String) : Output :=
  (parseResponse (Request.ofText text)).output

def queryOutput (run : Run Table) : Output where
  exitCode := 0
  stdout := LogLine.joined (LogLine.outputTexts run.log) ++ (queryResponse run.result).line
  stderr := LogLine.joined (LogLine.errorTexts run.log)

def execute (reader : Reader) (input : ByteArray) (stamp : Stamp) :
    Command → Except CommandError Output
  | .query options text => do
    -- A request that cannot be used is reported even if the settings are unreadable too.
    let text ← queryText text input
    let config ← loadConfig reader options.config
    return queryOutput ((engine options config reader).run stamp (.query text))
  | .parse text => do
    let text ← queryText text input
    return parseOutput text

def output (reader : Reader) (input : ByteArray) (stamp : Stamp) (command : Command) : Output :=
  match command.execute reader input stamp with
  | .ok output => output
  | .error error => error.output

def tablePaths (options : QueryOptions) (text : String) : List String :=
  match Request.ofText text with
  | .ok request =>
    (request.table :: (request.join.map Join.table).toList).map (source options).tablePath
  | .error _ => []

def paths (input : ByteArray) : Command → List String
  | .query options text =>
    options.config.toList ++
      match queryText text input with
      | .ok text => tablePaths options text
      | .error _ => []
  | .parse _ => []

def readsInput : Command → Bool
  | .query _ text | .parse text => text.isNone

end Command

end TableQuery
