import TableQuery.Json.Number
import TableQuery.Row

/-! JSON documents read into values.

Each reader takes the text at hand and gives what it read with the text after it. Arrays and
objects may be nested 127 deep. A repeated key of an object keeps its first place and takes its
last value; `members?` gives the fields of the outermost object as they are written.
-/

set_option autoImplicit false

namespace TableQuery.Json

def isGap (c : Char) : Bool :=
  c == ' ' || c == '\t' || c == '\n' || c == '\r'

def skipGap (text : List Char) : List Char :=
  text.dropWhile isGap

def hexValue? (c : Char) : Option Nat :=
  if c.isDigit then some (c.toNat - '0'.toNat)
  else if 'a' ≤ c ∧ c ≤ 'f' then some (c.toNat - 'a'.toNat + 10)
  else if 'A' ≤ c ∧ c ≤ 'F' then some (c.toNat - 'A'.toNat + 10)
  else none

def readUnit? : List Char → Option (Nat × List Char)
  | a :: b :: c :: d :: rest => do
    let value := (← hexValue? a) * 0x1000 + (← hexValue? b) * 0x100 + (← hexValue? c) * 0x10
    return (value + (← hexValue? d), rest)
  | _ => none

/-- The character of a four-digit escape. A high surrogate needs an escaped low one after it,
and a low one may not stand alone. -/
def readEscapedUnit? (text : List Char) : Option (Char × List Char) := do
  let (unit, rest) ← readUnit? text
  if unit < 0xD800 ∨ 0xDFFF < unit then
    return (Char.ofNat unit, rest)
  else if 0xDC00 ≤ unit then none
  else match rest with
    | '\\' :: 'u' :: rest => do
      let (low, rest) ← readUnit? rest
      if 0xDC00 ≤ low ∧ low ≤ 0xDFFF then
        return (Char.ofNat (0x10000 + (unit - 0xD800) * 0x400 + (low - 0xDC00)), rest)
      else none
    | _ => none

def readCharacter? : List Char → Option (Char × List Char)
  | '\\' :: mark :: rest =>
    match mark with
    | '"' => some ('"', rest)
    | '\\' => some ('\\', rest)
    | '/' => some ('/', rest)
    | 'b' => some ('\x08', rest)
    | 'f' => some ('\x0c', rest)
    | 'n' => some ('\n', rest)
    | 'r' => some ('\r', rest)
    | 't' => some ('\t', rest)
    | 'u' => readEscapedUnit? rest
    | _ => none
  | c :: rest => if c = '\\' ∨ c.toNat < 0x20 then none else some (c, rest)
  | [] => none

/-- The rest of a string after its opening quote; `bound` limits the number of characters. -/
def readStringBody? : (bound : Nat) → List Char → Option (List Char × List Char)
  | 0, _ => none
  | bound + 1, text =>
    match text with
    | '"' :: rest => some ([], rest)
    | _ => do
      let (c, rest) ← readCharacter? text
      let (body, rest) ← readStringBody? bound rest
      return (c :: body, rest)

def readString? : List Char → Option (String × List Char)
  | '"' :: rest => (readStringBody? rest.length rest).map fun read => (String.ofList read.1, read.2)
  | _ => none

def readItems? {α : Type} (readItem? : List Char → Option (α × List Char)) (close : Char) :
    (bound : Nat) → List Char → Option (List α × List Char)
  | 0, _ => none
  | bound + 1, text => do
    let (item, rest) ← readItem? (skipGap text)
    match skipGap rest with
    | ',' :: rest =>
      let (items, rest) ← readItems? readItem? close bound rest
      return (item :: items, rest)
    | c :: rest => if c = close then return ([item], rest) else none
    | [] => none

def readGroup? {α : Type} (readItem? : List Char → Option (α × List Char)) (close : Char)
    (text : List Char) : Option (List α × List Char) :=
  match skipGap text with
  | [] => none
  | c :: rest =>
    if c = close then some ([], rest) else readItems? readItem? close text.length (c :: rest)

def readMember? (readValue? : List Char → Option (Value × List Char)) (text : List Char) :
    Option ((String × Value) × List Char) := do
  let (key, rest) ← readString? text
  match skipGap rest with
  | ':' :: rest =>
    let (value, rest) ← readValue? (skipGap rest)
    return ((key, value), rest)
  | _ => none

def readWord? (word : String) (text : List Char) : Option (List Char) :=
  if word.toList.isPrefixOf text then some (text.drop word.length) else none

def readValue? : (depth : Nat) → List Char → Option (Value × List Char)
  | depth, text =>
    match text with
    | '[' :: rest =>
      match depth with
      | 0 => none
      | depth + 1 =>
        (readGroup? (readValue? depth) ']' rest).map fun read => (.array read.1, read.2)
    | '\x7b' :: rest =>
      match depth with
      | 0 => none
      | depth + 1 =>
        (readGroup? (readMember? (readValue? depth)) '\x7d' rest).map fun read =>
          ((Row.ofEntries read.1).toValue, read.2)
    | '"' :: _ => (readString? text).map fun read => (.string read.1, read.2)
    | 'n' :: _ => (readWord? "null" text).map fun rest => (.null, rest)
    | 't' :: _ => (readWord? "true" text).map fun rest => (.bool true, rest)
    | 'f' :: _ => (readWord? "false" text).map fun rest => (.bool false, rest)
    | _ => readNumber? text

def greatestDepth : Nat := 127

def readWhole? {α : Type} (read? : List Char → Option (α × List Char)) (text : String) :
    Option α := do
  let (result, rest) ← read? (skipGap text.toList)
  if (skipGap rest).isEmpty then return result else none

def value? (text : String) : Option Value :=
  readWhole? (readValue? greatestDepth) text

/-- The fields of an object in written order, repeated keys included. -/
def members? (text : String) : Option (List (String × Value)) :=
  readWhole? (fun text => match text with
    | '\x7b' :: rest => readGroup? (readMember? (readValue? (greatestDepth - 1))) '\x7d' rest
    | _ => none) text

def items? (text : String) : Option (List Value) :=
  readWhole? (fun text => match text with
    | '[' :: rest => readGroup? (readValue? (greatestDepth - 1)) ']' rest
    | _ => none) text

end TableQuery.Json
