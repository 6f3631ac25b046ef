import TableQuery.Text.Blank

/-! Where a scan of query text stands: inside a quoted literal or outside.

Inside a literal every quote closes it. Outside, a quote opens one only at the start of a token,
so the apostrophe in a bare word such as `O'Brien` is plain text.
-/

set_option autoImplicit false

namespace TableQuery.Query

open Text

structure Place where
  inside : Bool
  previous : Option Char
  deriving DecidableEq, Repr

namespace Place

def start : Place :=
  ⟨false, none⟩

/-- Whether a quote here stands at the start of a token: at the start of the text or after
white space, an operator character, an opening parenthesis or a comma. -/
def startsToken (place : Place) : Bool :=
  match place.previous with
  | none => true
  | some c => isSpace c || c == '=' || c == '<' || c == '>' || c == '!' || c == '(' || c == ','

/-- Whether `c` opens or closes a literal here. -/
def toggles (place : Place) (c : Char) : Bool :=
  c == '\'' && (place.inside || place.startsToken)

def next (place : Place) (c : Char) : Place :=
  ⟨place.inside != place.toggles c, some c⟩

def after (place : Place) (text : List Char) : Place :=
  text.foldl next place

def isPlain (place : Place) (c : Char) : Bool :=
  !place.inside && !place.toggles c

/-- Whether a keyword that begins with `c` may begin here: in plain text after white space. -/
def admitsKeyword (place : Place) (c : Char) : Bool :=
  place.isPlain c && place.previous.any isSpace

@[simp] theorem after_nil (place : Place) : place.after [] = place := rfl

@[simp] theorem after_cons (place : Place) (c : Char) (text : List Char) :
    place.after (c :: text) = (place.next c).after text := rfl

theorem after_append (place : Place) (first second : List Char) :
    place.after (first ++ second) = (place.after first).after second :=
  List.foldl_append

end Place

end TableQuery.Query
