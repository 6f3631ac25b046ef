/-! Files and the paths that name them.

Paths are texts of names with slashes between them. A lookup goes through a path name by name,
so each name but the last has to be a directory, even if `..` follows it.
-/

set_option autoImplicit false

namespace TableQuery

inductive ReadFailure where
  | notFound
  | notDirectory
  | isDirectory
  | notText
  | nameTooLong
  /-- The path holds a NUL character. -/
  | notName
  /-- Another reason of the system, in its own words. -/
  | other (text : String)
  deriving DecidableEq, Repr

def ReadFailure.text : ReadFailure → String
  | notFound => "No such file or directory (os error 2)"
  | notDirectory => "Not a directory (os error 20)"
  | isDirectory => "Is a directory (os error 21)"
  | notText => "stream did not contain valid UTF-8"
  | nameTooLong => "File name too long (os error 36)"
  | notName => "file name contained an unexpected NUL byte"
  | other text => text

abbrev Reader : Type := String → Except ReadFailure String

def decodeText (bytes : ByteArray) : Except ReadFailure String :=
  match String.fromUTF8? bytes with
  | some text => .ok text
  | none => .error .notText

def greatestPath : Nat := 4095

def greatestName : Nat := 255

/-- The fault of a path that names no file, whatever files there are. -/
def pathFault? (path : String) : Option ReadFailure :=
  if path.toList.contains '\x00' then some .notName
  else if path.isEmpty then some .notFound
  else if greatestPath < path.utf8ByteSize then some .nameTooLong
  else none

/-- A path inside a directory. An absolute path stays as it is. -/
def pathIn (directory path : String) : String :=
  if path.startsWith "/" || directory.isEmpty then path
  else if directory.endsWith "/" then directory ++ path
  else directory ++ "/" ++ path

inductive Entry where
  | file (content : ByteArray)
  | directory

/-- Everything below one working directory, by the names on the way there. The directories above
an entry exist too; above the working directory nothing is known. -/
structure Files where
  entries : List (List String × Entry)

namespace Files

def namesOf (path : String) : List String :=
  path.splitOn "/"

def ofList (entries : List (String × Entry)) : Files :=
  ⟨entries.map fun entry =>
    ((namesOf entry.1).filter fun name => name != "" && name != ".", entry.2)⟩

def find? (files : Files) (names : List String) : Option Entry :=
  match files.entries.find? (·.1 == names) with
  | some entry => some entry.2
  | none =>
    if names.isEmpty || files.entries.any (names.isPrefixOf ·.1) then some .directory else none

inductive Location where
  | within (names : List String)
  | outside

def Location.entry (files : Files) : Location → Option Entry
  | within names => files.find? names
  | outside => some .directory

def Location.up : Location → Location
  | within [] => outside
  | within names => within names.dropLast
  | outside => outside

def step (files : Files) (place : Location) (name : String) : Except ReadFailure Location :=
  -- Every name asks for a directory before it, also the empty name after a last slash.
  match place.entry files with
  | none => .error .notFound
  | some (.file _) => .error .notDirectory
  | some .directory =>
    if name = "" ∨ name = "." then .ok place
    else if name = ".." then .ok place.up
    else if greatestName < name.utf8ByteSize then .error .nameTooLong
    else match place with
      | .outside => .error .notFound
      | .within names =>
        if (files.find? (names ++ [name])).isSome then .ok (.within (names ++ [name]))
        else .error .notFound

def read (files : Files) : Reader := fun path =>
  match pathFault? path with
  | some failure => .error failure
  | none => do
    let start := if path.startsWith "/" then Location.outside else .within []
    let place ← (namesOf path).foldlM files.step start
    match place.entry files with
    | some (.file content) => decodeText content
    | some .directory => .error .isDirectory
    | none => .error .notFound

end Files

end TableQuery
