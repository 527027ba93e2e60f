/-!
# JSON Values and Their Text

The JSON documents this library writes, as values and as text. Numbers are whole and not
negative, since reports count and place things and do nothing else with numbers. The members
of an object keep the order they were given in.

There are two layouts. The compact one has no blanks. The indented one starts every element
and every member on a line of its own, two spaces further in than what holds it, and writes
an empty list or object without a line break.

Not everything that is to be written has a JSON form. A writer that comes to such a value has
written what stands in front of it, and that is a document too, of a kind: one that breaks off.

## Main definitions

* `Json`: A JSON value.
* `Json.escapeChar`, `Json.quote`: Strings as text.
* `Json.compact`: The compact text of a value.
* `Json.indented`: The indented text of a value.
* `BrokenJson`: A JSON value that breaks off.
* `BrokenJson.indented`: The indented text of such a value, as far as it goes.
-/

namespace CloneScan

/-- A JSON value. -/
inductive Json where
  | null
  | truth (b : Bool)
  | number (n : Nat)
  | string (s : String)
  | array (items : List Json)
  | object (members : List (String × Json))
  deriving Repr, Inhabited

namespace Json

/-- The hexadecimal digit of a number below sixteen. -/
def hexDigit (n : Nat) : Char :=
  Char.ofNat (if n < 10 then 48 + n else 87 + n)

/-- A character as it stands in a string: after a backslash where it has to be. -/
def escapeChar (c : Char) : List Char :=
  if c = '"' then ['\\', '"']
  else if c = '\\' then ['\\', '\\']
  else if c = '\x08' then ['\\', 'b']
  else if c = '\x0c' then ['\\', 'f']
  else if c = '\n' then ['\\', 'n']
  else if c = '\r' then ['\\', 'r']
  else if c = '\t' then ['\\', 't']
  else if c.toNat < 32 then ['\\', 'u', '0', '0', hexDigit (c.toNat / 16), hexDigit (c.toNat % 16)]
  else [c]

/-- A string as text, in quotes. -/
def quote (s : String) : List Char :=
  '"' :: s.toList.flatMap escapeChar ++ ['"']

/-- A value without parts as text; `none` for a list or an object. -/
def scalar : Json → Option (List Char)
  | null => some "null".toList
  | truth b => some (if b then "true".toList else "false".toList)
  | number n => some (Nat.toDigits 10 n)
  | string s => some (quote s)
  | array _ | object _ => none

mutual

/-- The compact text of a value. -/
def compact : Json → List Char
  | array items => '[' :: compactItems items ++ [']']
  | object members => '\x7b' :: compactMembers members ++ ['\x7d']
  | v => (scalar v).getD []

/-- The elements of a list, with commas between them. -/
def compactItems : List Json → List Char
  | [] => []
  | [v] => compact v
  | v :: vs => compact v ++ ',' :: compactItems vs

/-- The members of an object, with commas between them. -/
def compactMembers : List (String × Json) → List Char
  | [] => []
  | [(name, v)] => quote name ++ ':' :: compact v
  | (name, v) :: rest => quote name ++ ':' :: compact v ++ ',' :: compactMembers rest

end

/-- The start of a line at a given depth. -/
def newLine (depth : Nat) : List Char :=
  '\n' :: List.replicate (2 * depth) ' '

mutual

/-- The indented text of a value that stands at a given depth. -/
def indentedAt (depth : Nat) : Json → List Char
  | array [] => ['[', ']']
  | array items => '[' :: indentedItems (depth + 1) items ++ newLine depth ++ [']']
  | object [] => ['\x7b', '\x7d']
  | object members => '\x7b' :: indentedMembers (depth + 1) members ++ newLine depth ++ ['\x7d']
  | v => (scalar v).getD []

/-- The elements of a list, each on a line of its own. -/
def indentedItems (depth : Nat) : List Json → List Char
  | [] => []
  | [v] => newLine depth ++ indentedAt depth v
  | v :: vs => newLine depth ++ indentedAt depth v ++ ',' :: indentedItems depth vs

/-- The members of an object, each on a line of its own. -/
def indentedMembers (depth : Nat) : List (String × Json) → List Char
  | [] => []
  | [(name, v)] => newLine depth ++ quote name ++ ':' :: ' ' :: indentedAt depth v
  | (name, v) :: rest =>
    newLine depth ++ quote name ++ ':' :: ' ' :: indentedAt depth v ++
      ',' :: indentedMembers depth rest

end

/-- The indented text of a value. -/
def indented (v : Json) : List Char :=
  indentedAt 0 v

end Json

/-- A JSON value that breaks off at a part that has no JSON form. -/
inductive BrokenJson where
  /-- There is nothing of it. -/
  | here
  /-- A list that breaks off in an element, with the elements in front of that. -/
  | inArray (before : List Json) (element : BrokenJson)
  /-- An object that breaks off in a member, with the members in front of that. -/
  | inObject (before : List (String × Json)) (name : String) (value : BrokenJson)
  deriving Repr, Inhabited

namespace BrokenJson

open Json

/-- The comma behind the parts in front, if there are any. -/
def comma {α : Type} (before : List α) : List Char :=
  if before.isEmpty then [] else [',']

/-- The indented text of a value that stands at a given depth, up to where it breaks off. -/
def indentedAt (depth : Nat) : BrokenJson → List Char
  | here => []
  | inArray before element =>
    '[' :: indentedItems (depth + 1) before ++ comma before ++ newLine (depth + 1) ++
      indentedAt (depth + 1) element
  | inObject before name value =>
    '\x7b' :: indentedMembers (depth + 1) before ++ comma before ++ newLine (depth + 1) ++
      quote name ++ ':' :: ' ' :: indentedAt (depth + 1) value

/-- The indented text of a value, up to where it breaks off. -/
def indented (v : BrokenJson) : List Char :=
  indentedAt 0 v

end BrokenJson

end CloneScan
