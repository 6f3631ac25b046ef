import TableQuery.Proofs.Command.Agreement
import TableQuery.Proofs.Command.Options
import TableQuery.Proofs.Engine.Provenance
import TableQuery.Proofs.Text.Classes

/-! The streams of a command.

Without `--log` a command writes to one of its streams only. It answers with one line of JSON on the
standard output, also when the query fails. Only when it lacks a usable request or usable settings
it ends with a line on the error stream instead.
-/

set_option autoImplicit false

namespace TableQuery

namespace Json

theorem readUnsigned?_of_not_digit {negative : Bool} {text : List Char}
    (other : ∀ c ∈ text.head?, c.isDigit = false) : readUnsigned? negative text = none := by
  have empty : text.takeWhile Char.isDigit = [] := by
    cases text with
    | nil => rfl
    | cons c rest => exact List.takeWhile_cons_of_neg (Bool.eq_false_iff.1 (other c rfl))
  rw [readUnsigned?, empty]
  rfl

theorem readValue?_of_blank {depth : Nat} {text : List Char}
    (blank : ∀ c ∈ text.head?, Text.isBlank c = true) : readValue? depth text = none := by
  have other : ∀ c ∈ text.head?, c.isDigit = false := by
    intro c first
    apply Bool.eq_false_iff.2
    intro digit
    exact Bool.false_ne_true ((Text.not_blank_of_isDigit digit).symm.trans (blank c first))
  have number : readNumber? text = none := by
    unfold readNumber?
    split
    · cases blank '-' rfl
    · exact readUnsigned?_of_not_digit other
  unfold readValue?
  split
  · cases blank '[' rfl
  · cases blank '\x7b' rfl
  · cases blank '"' rfl
  · cases blank 'n' rfl
  · cases blank 't' rfl
  · cases blank 'f' rfl
  · exact number

theorem value?_of_blank {text : String} (blank : ∀ c ∈ text.toList, Text.isBlank c = true) :
    value? text = none := by
  have none_read : readValue? greatestDepth (skipGap text.toList) = none := by
    apply readValue?_of_blank
    intro c first
    exact blank c ((List.dropWhile_sublist isGap).subset (List.mem_of_mem_head? first))
  rw [value?, readWhole?, none_read]
  rfl

end Json

namespace Command

variable {reader : Reader} {input : ByteArray} {text : String}

/-- The first line of the input is a JSON object with this text as its `query`. -/
def HasRequest (input : ByteArray) (text : String) : Prop :=
  ∃ line fields, decodeText (firstLine input) = .ok line ∧
    Json.value? line = some (.object fields) ∧ fields.lookup "query" = some (.string text)

theorem requestText_eq_ok_iff {line : String} : requestText line = .ok text ↔
    ∃ fields, Json.value? line = some (.object fields) ∧
      fields.lookup "query" = some (.string text) := by
  unfold requestText
  split
  · rename_i empty
    rw [Json.value?_of_blank (Text.blank_of_trim_nil (List.isEmpty_iff.1 empty))]
    simp
  · cases Json.value? line with
    | none => simp
    | some value =>
      cases value with
      | object fields =>
        simp only [Option.some.injEq, Value.object.injEq, exists_eq_left']
        split
        · rename_i found
          simp [found]
        · rename_i other
          simpa using other text
      | _ => simp

theorem readRequest_eq_ok_iff : readRequest input = .ok text ↔ HasRequest input text := by
  unfold readRequest HasRequest
  cases decodeText (firstLine input) with
  | error failure => simp
  | ok line => simp [requestText_eq_ok_iff]

/-- The text of a query: an argument, or that of the request on the input. -/
def HasText (given : Option String) (input : ByteArray) (text : String) : Prop :=
  match given with
  | some own => text = own
  | none => HasRequest input text

/-- The settings of a query: those in its file, or the default ones. -/
def HasConfig (reader : Reader) : Option String → Config → Prop
  | none, config => config = {}
  | some path, config =>
    ∃ document, reader path = .ok document ∧ Config.ofJson document = .ok config

/-- A command that reads the input finds no usable request there. -/
def LacksRequest (command : Command) (input : ByteArray) : Prop :=
  command.readsInput = true ∧ ∀ text, ¬HasRequest input text

/-- A query names a file that cannot be read or that holds no settings. -/
def LacksConfig (command : Command) (reader : Reader) : Prop :=
  ∃ options given path, command = .query options given ∧ options.config = some path ∧
    ∀ document, reader path = .ok document → ∃ error, Config.ofJson document = .error error

/-- The object tells by its status whether a result is a success, and a success has its data, which
tell it from every other one. -/
structure Reports {ε α : Type} (fields : List (String × Value)) (result : Except ε α)
    (data : α → Value) : Prop where
  keys : (fields.map Prod.fst).Nodup
  status : fields.lookup "status" = some (.string (if result.isOk then "ok" else "error"))
  distinct : Function.Injective data
  data : ∀ value, result = .ok value → fields.lookup "data" = some (data value)

def Answers (reader : Reader) (input : ByteArray) (stamp : Stamp) (fields : List (String × Value)) :
    Command → Prop
  | query options given => ∃ text config, HasText given input text ∧
      HasConfig reader options.config config ∧
      Reports fields ((engine options config reader).run stamp (.query text)).result
        fun rows => .array (rows.map fun row => .object row.entries)
  | parse given => ∃ text, HasText given input text ∧
      Reports fields (Request.ofText text) Request.toValue

section
variable {reader : Reader} {input : ByteArray} {given : Option String}

theorem hasText_of_queryText {text : String} (usable : queryText given input = .ok text) :
    HasText given input text := by
  cases given with
  | some own =>
    cases usable
    rfl
  | none => exact readRequest_eq_ok_iff.1 usable

theorem unusable_of_queryText {error : CommandError}
    (unusable : queryText given input = .error error) :
    given.isNone = true ∧ ∀ text, ¬HasRequest input text := by
  cases given with
  | some own => cases unusable
  | none =>
    refine ⟨rfl, fun text request => ?_⟩
    cases unusable.symm.trans (readRequest_eq_ok_iff.2 request)

theorem hasConfig_of_loadConfig {file : Option String} {config : Config}
    (readable : loadConfig reader file = .ok config) : HasConfig reader file config := by
  cases file with
  | none =>
    cases readable
    rfl
  | some path =>
    simp only [loadConfig, Config.ofFile] at readable
    cases found : reader path with
    | error failure => simp [found, mapError_error] at readable
    | ok document =>
      cases settings : Config.ofJson document with
      | error error => simp [found, settings, mapError_error] at readable
      | ok others =>
        simp only [found, settings, mapError_ok] at readable
        cases readable
        exact ⟨document, found, settings⟩

theorem unusable_of_loadConfig {file : Option String} {error : CommandError}
    (unreadable : loadConfig reader file = .error error) :
    ∃ path, file = some path ∧ ∀ document, reader path = .ok document →
      ∃ error, Config.ofJson document = .error error := by
  cases file with
  | none => cases unreadable
  | some path =>
    refine ⟨path, rfl, fun document found => ?_⟩
    simp only [loadConfig, Config.ofFile, found] at unreadable
    cases settings : Config.ofJson document with
    | error error => exact ⟨error, rfl⟩
    | ok config => simp [settings, mapError_ok] at unreadable

end

theorem exists_reports_queryResponse (result : Except QueryError Table) :
    ∃ fields, (queryResponse result).toValue = .object fields ∧
      Reports fields result fun rows => .array (rows.map fun row => .object row.entries) := by
  have distinct := Value.array_map_injective Row.toValue_injective
  cases result with
  | error error => exact ⟨_, rfl, by simp, rfl, distinct, nofun⟩
  | ok rows => exact ⟨_, rfl, by simp, rfl, distinct, fun value same => by cases same; rfl⟩

theorem exists_reports_parseResponse (result : Except Rejection Request) :
    ∃ fields, (parseResponse result).toValue = .object fields ∧
      Reports fields result Request.toValue := by
  have distinct := Request.toValue_injective
  cases result with
  | error error => exact ⟨_, rfl, by simp, rfl, distinct, nofun⟩
  | ok request => exact ⟨_, rfl, by simp, rfl, distinct, fun value same => by cases same; rfl⟩

theorem representable_parseResponse (result : Except Rejection Request) :
    (parseResponse result).toValue.Representable := by
  apply representable_toValue
  intro value same
  cases result with
  | error error => cases same
  | ok request =>
    cases same
    exact request.representable_toValue

theorem representable_queryResponse (options : QueryOptions) (config : Config) (reader : Reader)
    (call : Call) :
    (queryResponse ((engine options config reader).answerTo call)).toValue.Representable := by
  apply representable_toValue
  intro value same
  cases answers : (engine options config reader).answerTo call with
  | error error =>
    rw [answers] at same
    cases same
  | ok rows =>
    rw [answers] at same
    cases same
    exact representable_table
      (Engine.all_answerTo .null (fun _ _ => Csv.representable_load _) answers)

/-- A command either answers on the standard output, or it lacks what it needs and says so on the
error stream. -/
def OnOneStream (command : Command) (reader : Reader) (input : ByteArray) (stamp : Stamp) : Prop :=
  (∃ fields, (command.output reader input stamp).Prints fields ∧
      command.Answers reader input stamp fields) ∨
    (command.output reader input stamp).Complains ∧
      (command.LacksRequest input ∨ command.LacksConfig reader)

section
variable {reader : Reader} {input : ByteArray} {stamp : Stamp} {given : Option String}

theorem onOneStream_of_fails {command : Command} {error : CommandError}
    (fails : command.execute reader input stamp = .error error)
    (lacking : command.LacksRequest input ∨ command.LacksConfig reader) :
    command.OnOneStream reader input stamp := by
  have complains : (command.output reader input stamp).Complains := by
    rw [output, fails]
    exact complains_output error
  exact .inr ⟨complains, lacking⟩

theorem onOneStream_parse : (parse given).OnOneStream reader input stamp := by
  cases usable : queryText given input with
  | error error =>
    have fails : (parse given).execute reader input stamp = .error error := by
      rw [execute, usable]
      rfl
    exact onOneStream_of_fails fails (.inl (unusable_of_queryText usable))
  | ok text =>
    obtain ⟨fields, object, reports⟩ := exists_reports_parseResponse (Request.ofText text)
    rw [OnOneStream, output_parse usable]
    have prints := prints_output object (representable_parseResponse _)
    exact .inl ⟨fields, prints, text, hasText_of_queryText usable, reports⟩

theorem onOneStream_query {options : QueryOptions} (quiet : options.log = false) :
    (query options given).OnOneStream reader input stamp := by
  cases usable : queryText given input with
  | error error =>
    have fails : (query options given).execute reader input stamp = .error error := by
      rw [execute, usable]
      rfl
    exact onOneStream_of_fails fails (.inl (unusable_of_queryText usable))
  | ok text =>
    cases readable : loadConfig reader options.config with
    | error error =>
      obtain ⟨path, named, unusable⟩ := unusable_of_loadConfig readable
      have fails : (query options given).execute reader input stamp = .error error := by
        rw [execute, usable, readable]
        rfl
      exact onOneStream_of_fails fails (.inr ⟨options, given, path, rfl, named, unusable⟩)
    | ok config =>
      obtain ⟨fields, object, reports⟩ :=
        exists_reports_queryResponse ((engine options config reader).answerTo (.query text))
      rw [← Engine.result_run _ stamp] at reports
      rw [OnOneStream, output_query_of_quiet usable readable quiet]
      have prints := prints_output object (representable_queryResponse options config reader _)
      exact .inl ⟨fields, prints, text, config, hasText_of_queryText usable,
        hasConfig_of_loadConfig readable, reports⟩

end

def twoLineCell : Reader := fun path =>
  if path = "d/t.csv" then .ok "name\n\"a\nb\"\n" else .error .notFound

end Command

end TableQuery
