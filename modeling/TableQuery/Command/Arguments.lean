/-! Command-line arguments.

The first argument names a command. After it come options and at most one query text, in any
order. `--` ends the options: everything behind it is text.

The value of an option is checked when the next argument has been understood, so a next argument
that is at fault itself is reported first.
-/

set_option autoImplicit false

namespace TableQuery

structure QueryOptions where
  /-- The directory of the tables. -/
  data : String := "."
  /-- The file of the settings. -/
  config : Option String := none
  inferNumbers : Bool := false
  log : Bool := false
  deriving DecidableEq, Repr

/-- A command. Without a text of its own it reads the query from the standard input. -/
inductive Command where
  | query (options : QueryOptions) (text : Option String)
  | parse (text : Option String)
  deriving DecidableEq, Repr

inductive Notice where
  | help
  | version
  | noCommand
  | unknownCommand
  | unknownArgument
  | emptyValue
  | repeatedArgument
  | unexpectedValue
  deriving DecidableEq, Repr

/-- Asking for help or the version is no failure. -/
def Notice.exitCode : Notice → Nat
  | help | version => 0
  | _ => 2

namespace Command

inductive Form where
  /-- The argument `--`. -/
  | escape
  /-- `--name` or `--name=value`. -/
  | long (name : String) (value : Option String)
  /-- A dash and letters, of which this is the first. -/
  | short (letter : Char)
  | plain
  deriving DecidableEq, Repr

def cutAtEquals : List Char → List Char × Option (List Char)
  | [] => ([], none)
  | c :: rest =>
    if c = '=' then ([], some rest)
    else
      let cut := cutAtEquals rest
      (c :: cut.1, cut.2)

def Form.ofArgument (argument : String) : Form :=
  match argument.toList with
  | ['-', '-'] => .escape
  | '-' :: '-' :: rest =>
    let cut := cutAtEquals rest
    .long (String.ofList cut.1) (cut.2.map String.ofList)
  | '-' :: letter :: _ => .short letter
  | _ => .plain

inductive Valued where
  | data
  | config
  deriving DecidableEq, Repr

inductive Flag where
  | inferNumbers
  | log
  deriving DecidableEq, Repr

inductive Switch where
  | valued (option : Valued)
  | flag (flag : Flag)

def queryOption? (name : String) : Option Switch :=
  if name = "data" then some (.valued .data)
  else if name = "config" then some (.valued .config)
  else if name = "infer-numbers" then some (.flag .inferNumbers)
  else if name = "log" then some (.flag .log)
  else none

structure Draft where
  data : Option String := none
  config : Option String := none
  inferNumbers : Bool := false
  log : Bool := false
  text : Option String := none
  /-- An option whose value has not been checked yet, with the value if it was there. -/
  pending : Option (Valued × Option String) := none
  /-- Whether the options have ended. -/
  escaped : Bool := false

namespace Draft

def given? (draft : Draft) : Valued → Option String
  | .data => draft.data
  | .config => draft.config

def store (draft : Draft) (option : Valued) (value : String) : Except Notice Draft :=
  if (draft.given? option).isSome then .error .repeatedArgument
  else if value.isEmpty then .error .emptyValue
  else .ok (match option with
    | .data => { draft with data := some value }
    | .config => { draft with config := some value })

def settle (draft : Draft) : Except Notice Draft :=
  match draft.pending with
  | none => .ok draft
  | some (_, none) => .error .emptyValue
  | some (option, some value) => { draft with pending := none }.store option value

def raise (draft : Draft) : Flag → Except Notice Draft
  | .inferNumbers =>
    if draft.inferNumbers then .error .repeatedArgument
    else .ok { draft with inferNumbers := true }
  | .log => if draft.log then .error .repeatedArgument else .ok { draft with log := true }

def addLong (options : String → Option Switch) (draft : Draft) (name : String)
    (value : Option String) : Except Notice Draft :=
  -- A fault of this argument goes before one of the pending option.
  if name = "help" then
    if value.isSome then .error .unexpectedValue else draft.settle.bind fun _ => .error .help
  else match options name with
    | none => .error .unknownArgument
    | some (.flag flag) =>
      if value.isSome then .error .unexpectedValue
      else draft.settle.bind fun settled => settled.raise flag
    | some (.valued option) =>
      draft.settle.bind fun settled =>
        match value with
        | some value => settled.store option value
        | none => .ok { settled with pending := some (option, none) }

def addText (draft : Draft) (argument : String) : Except Notice Draft :=
  if draft.text.isSome then .error .unknownArgument
  else draft.settle.map fun settled => { settled with text := some argument }

/-- Takes an argument without dashes: the value that an option waits for, or else the text. -/
def addPlain (draft : Draft) (argument : String) : Except Notice Draft :=
  match draft.pending with
  | some (option, none) => .ok { draft with pending := some (option, some argument) }
  | _ => draft.addText argument

def add (options : String → Option Switch) (draft : Draft) (argument : String) :
    Except Notice Draft :=
  if draft.escaped then draft.addText argument
  else match Form.ofArgument argument with
    | .escape => .ok { draft with escaped := true }
    | .long name value => draft.addLong options name value
    | .short letter =>
      if letter = 'h' then draft.settle.bind fun _ => .error .help else .error .unknownArgument
    | .plain => draft.addPlain argument

def ofArguments (options : String → Option Switch) (arguments : List String) :
    Except Notice Draft := do
  let draft ← arguments.foldlM (add options) {}
  draft.settle

end Draft

def names : List String :=
  ["query", "parse", "help"]

/-- `help` takes the name of one command, of which none has commands of its own. -/
def helpNotice : List String → Notice
  | [] => .help
  | [name] => if name ∈ names then .help else .unknownCommand
  | _ => .unknownCommand

def ofQueryArguments (arguments : List String) : Except Notice Command := do
  let draft ← Draft.ofArguments queryOption? arguments
  let defaults : QueryOptions := {}
  return .query
    { data := draft.data.getD defaults.data, config := draft.config,
      inferNumbers := draft.inferNumbers, log := draft.log } draft.text

def ofParseArguments (arguments : List String) : Except Notice Command := do
  let draft ← Draft.ofArguments (fun _ => none) arguments
  return .parse draft.text

/-- The fault of a first argument that names no command. -/
def firstNotice (argument : String) (rest : List String) : Notice :=
  match Form.ofArgument argument with
  | .escape =>
    match rest with
    | [] => .noCommand
    | name :: _ => if name ∈ names then .unknownArgument else .unknownCommand
  | .long name value =>
    if name = "help" ∨ name = "version" then
      if value.isSome then .unexpectedValue else if name = "help" then .help else .version
    else .unknownArgument
  | .short letter =>
    if letter = 'h' then .help else if letter = 'V' then .version else .unknownArgument
  | .plain => .unknownCommand

def ofArguments : List String → Except Notice Command
  | [] => .error .noCommand
  | argument :: rest =>
    if argument = "query" then ofQueryArguments rest
    else if argument = "parse" then ofParseArguments rest
    else if argument = "help" then .error (helpNotice rest)
    else .error (firstNotice argument rest)

end Command

end TableQuery
