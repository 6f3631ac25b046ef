import TableQuery.Command.Execution

/-! The command line: reads the files and the input that a command needs, and prints its output. -/

set_option autoImplicit false

namespace TableQuery

def usage : String :=
  "Usage: joinql query [--data DIR] [--config FILE] [--infer-numbers] [--log] [SQL]\n" ++
  "       joinql parse [SQL]\n" ++
  "Without SQL the query is read from the standard input as a JSON object with a \"query\" field.\n"

def versionLine : String :=
  "joinql 0.1.0\n"

def noticeText : Notice → String
  | .version => versionLine
  | _ => usage

def readFailure : IO.Error → ReadFailure
  | .noFileOrDirectory .. => .notFound
  | .inappropriateType _ code details =>
    if code = 20 then .notDirectory else if code = 21 then .isDirectory else .other details
  | error => .other (toString error)

def readText (path : String) : IO (Except ReadFailure String) := do
  match pathFault? path with
  | some failure => return .error failure
  | none =>
    try
      return decodeText (← IO.FS.readBinFile path)
    catch error => return .error (readFailure error)

/-- Reads up to the first line feed or the end of the input. -/
partial def readLine (stream : IO.FS.Stream) (read : ByteArray) : IO ByteArray := do
  let chunk ← stream.read 4096
  if chunk.isEmpty || chunk.toList.contains 10 then return read ++ chunk
  else readLine stream (read ++ chunk)

def freshIdentifier : IO String := do
  let bytes ← IO.getRandomBytes 16
  let digit (n : Nat) : Char := Nat.digitChar (n % 16)
  let digits := bytes.toList.flatMap fun byte => [digit (byte.toNat / 16), digit byte.toNat]
  let groups := [digits.take 8, (digits.drop 8).take 4, '4' :: (digits.drop 13).take 3,
    'a' :: (digits.drop 17).take 3, digits.drop 20]
  return "-".intercalate (groups.map String.ofList)

def execute (command : Command) : IO UInt32 := do
  let started ← IO.monoMsNow
  let stdin ← IO.getStdin
  let input ← if command.readsInput then readLine stdin ByteArray.empty else pure ByteArray.empty
  let files ← (command.paths input).mapM fun path => return (path, ← readText path)
  let reader : Reader := fun path => (files.lookup path).getD (.error .notFound)
  let stamp : Stamp := ⟨← freshIdentifier, toString ((← IO.monoMsNow) - started)⟩
  let output := command.output reader input stamp
  IO.print output.stdout
  IO.eprint output.stderr
  return output.exitCode.toUInt32

end TableQuery

def main (arguments : List String) : IO UInt32 := do
  match TableQuery.Command.ofArguments arguments with
  | .ok command => TableQuery.execute command
  | .error notice =>
    if notice.exitCode = 0 then IO.print (TableQuery.noticeText notice)
    else IO.eprint (TableQuery.noticeText notice)
    return notice.exitCode.toUInt32
