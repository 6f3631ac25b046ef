import TableQuery.Value

/-! Compact JSON text of values: no spaces, fields in their own order, and control characters
only inside escapes. -/

set_option autoImplicit false

namespace TableQuery.Json

def escape (c : Char) : List Char :=
  if c = '"' then ['\\', '"']
  else if c = '\\' then ['\\', '\\']
  else if c = '\x08' then ['\\', 'b']
  else if c = '\t' then ['\\', 't']
  else if c = '\n' then ['\\', 'n']
  else if c = '\x0c' then ['\\', 'f']
  else if c = '\r' then ['\\', 'r']
  else if c.toNat < 0x20 then
    ['\\', 'u', '0', '0', Nat.digitChar (c.toNat / 16), Nat.digitChar (c.toNat % 16)]
  else [c]

def quoted (text : String) : List Char :=
  '"' :: text.toList.flatMap escape ++ ['"']

def commaSeparated (parts : List (List Char)) : List Char :=
  [','].intercalate parts

mutual

def chars : Value → List Char
  | .null => "null".toList
  | .bool value => (Value.boolText value).toList
  | .int value => (Value.intText value).toList
  | .float value => value.text.toList
  | .string value => quoted value
  | .array items => '[' :: commaSeparated (itemChars items) ++ [']']
  | .object fields => '\x7b' :: commaSeparated (fieldChars fields) ++ ['\x7d']

def itemChars : List Value → List (List Char)
  | [] => []
  | item :: rest => chars item :: itemChars rest

def fieldChars : List (String × Value) → List (List Char)
  | [] => []
  | (key, value) :: rest => (quoted key ++ ':' :: chars value) :: fieldChars rest

end

end TableQuery.Json

namespace TableQuery

def Value.json (value : Value) : String :=
  String.ofList (Json.chars value)

end TableQuery
