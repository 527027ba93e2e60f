import CloneScan.Json.Reader

/-!
# Codecs

A codec says how the values of a type are written as JSON and how they are read back. A value
with a part that has no JSON form is written up to that part. Readers are driven by the type:
they take a text from left to right and refuse it at the first place where it is not what the
type wants, so a value of the wrong sort is reported even when the text goes wrong further on.

A record is described once, by the list of its fields, and both directions follow from it. Its
members may come in any order and be mixed with members of other names; each of its own may
come once. A record may also be written as the list of its fields in order. A field with a
default may be left out in either form.

## Main definitions

* `Codec`: How a type is written and read.
* `Codec.truth`, `Codec.text`, `Codec.whole`: The codecs of plain values.
* `Codec.optional`, `Codec.list`, `Codec.variant`: Codecs made from others.
* `Fields`: The fields of a record.
* `Codec.record`: The codec of a record.
* `Codec.decode`: Reads a whole text.
-/

namespace CloneScan

open Json

/-- How the values of a type are written as JSON and read back. -/
structure Codec (α : Type) where
  /-- A value as JSON, or what there is of it up to a part that has no JSON form. -/
  write : α → Except BrokenJson Json
  /-- Reads a value. -/
  read : JsonReader α

/-- Refuses a value of the wrong sort, saying what was found and what was wanted. -/
def Json.refuse {α : Type} (wanted : String) (text : List Char) : Except JsonError α :=
  match text with
  | [] => .error .endInValue
  | _ => do throw (.wrongType (← identify text) wanted)

namespace Codec

/-- Truth values. -/
def truth : Codec Bool where
  write b := .ok (.truth b)
  read text :=
    match passBlanks text with
    | 't' :: rest => do return (true, ← passWord "rue".toList rest)
    | 'f' :: rest => do return (false, ← passWord "alse".toList rest)
    | rest => refuse "a boolean" rest

/-- Strings, where `wanted` says what the string is for. -/
def text (wanted : String) : Codec String where
  write s := .ok (.string s)
  read text :=
    match passBlanks text with
    | '"' :: rest => readString rest
    | rest => refuse wanted rest

/-- Numbers that a 64-bit word holds, where `wanted` names the sort of word. -/
def whole (wanted : String) : Codec Nat where
  write n := .ok (.number n)
  read text :=
    match passBlanks text with
    | [] => .error .endInValue
    | c :: rest =>
      if c = '-' ∨ c.isDigit then do
        match ← readNumber (c :: rest) with
        | (.integer (.ofNat n), rest) => return (n, rest)
        | (.integer n, _) => throw (.wrongValue (.integer n) wanted)
        | (found, _) => throw (.wrongType found wanted)
      else refuse wanted (c :: rest)

/-- Values that may be absent, written as `null` then. -/
def optional {α : Type} (c : Codec α) : Codec (Option α) where
  write a := a.elim (.ok .null) c.write
  read text :=
    match passBlanks text with
    | 'n' :: rest => do return (none, ← passWord "ull".toList rest)
    | _ => do
      let (a, rest) ← c.read text
      return (some a, rest)

/-- Goes on to the next element of a list: what is left when there is one, nothing at the end.
    The first element has no comma before it. -/
def nextElement (first : Bool) (text : List Char) : Except JsonError (Option (List Char)) :=
  match passBlanks text with
  | [] => .error .endInList
  | ']' :: _ => .ok none
  | c :: rest =>
    if first then .ok (some (c :: rest))
    else if c = ',' then
      match passBlanks rest with
      | [] => .error .endInValue
      | ']' :: _ => .error .trailingComma
      | rest => .ok (some rest)
    else .error .noListEnd

/-- The end of a list that has all the elements it may have. -/
def passListEnd (text : List Char) : Except JsonError (List Char) :=
  match passBlanks text with
  | [] => .error .endInList
  | ']' :: rest => .ok rest
  | ',' :: rest =>
    if (passBlanks rest).head? = some ']' then .error .trailingComma else .error .trailingText
  | _ => .error .trailingText

/-- The elements of a list up to its end. Every element has a character and so does the end, and
    the rounds are counted by the characters of a text that is no shorter. -/
def readElements {α : Type} (c : Codec α) : List Char → Bool → JsonReader (List α)
  | [], _, _ => .error .endInList
  | _ :: fuel, first, text => do
    match ← nextElement first text with
    | none => return ([], text)
    | some rest =>
      let (a, rest) ← c.read rest
      let (later, rest) ← readElements c fuel false rest
      return (a :: later, rest)

/-- The elements of a list as JSON; where one breaks off, it and those in front of it. -/
def writeElements {α : Type} (c : Codec α) :
    List α → Except (List Json × BrokenJson) (List Json)
  | [] => .ok []
  | a :: as =>
    match c.write a, writeElements c as with
    | .error part, _ => .error ([], part)
    | .ok v, .error (before, part) => .error (v :: before, part)
    | .ok v, .ok vs => .ok (v :: vs)

/-- Lists. -/
def list {α : Type} (c : Codec α) : Codec (List α) where
  write as :=
    match writeElements c as with
    | .ok vs => .ok (.array vs)
    | .error (before, part) => .error (.inArray before part)
  read text :=
    match passBlanks text with
    | '[' :: rest => do
      let (as, rest) ← readElements c ('[' :: rest) true rest
      return (as, ← passListEnd rest)
    | rest => refuse "a sequence" rest

/-- The value that a name stands for. -/
def findVariant {α : Type} (label : α → String) (all : List α) (name : String) :
    Except JsonError α :=
  match all.find? fun a => label a == name with
  | some a => .ok a
  | none => .error (.unknownVariant name (all.map label))

/-- Values that are told by their names. They are written as the name; an object with the name
    as its one member, and nothing as its value, is read too. -/
def variant {α : Type} (label : α → String) (all : List α) : Codec α where
  write a := .ok (.string (label a))
  read text :=
    match passBlanks text with
    | [] => .error .endInValue
    | '"' :: rest => do
      let (name, rest) ← readString rest
      return (← findVariant label all name, rest)
    | '\x7b' :: rest => do
      let (name, rest) ← (Codec.text "variant identifier").read rest
      let a ← findVariant label all name
      let rest ← match passBlanks (← passColon rest) with
        | 'n' :: rest => passWord "ull".toList rest
        | rest => refuse "unit" rest
      match passBlanks rest with
      | [] => throw .endInObject
      | '\x7d' :: rest => return (a, rest)
      | _ => throw .noValue
    | _ => .error .noValue

end Codec

/-! ## Records -/

/-- The fields of a record in order, where `τ` holds the values of all fields and `σ` those
    that have been read. -/
inductive Fields : Type → Type → Type 1 where
  /-- No more fields. -/
  | nil : Fields Unit Unit
  /-- A field with its name, its codec and the value it has when it is left out, then the other
      fields. -/
  | cons {α σ τ : Type} (name : String) (codec : Codec α) (default : Option α)
      (rest : Fields σ τ) : Fields (Option α × σ) (α × τ)

namespace Fields

/-- The number of fields. -/
def count {σ τ : Type} : Fields σ τ → Nat
  | nil => 0
  | cons _ _ _ rest => rest.count + 1

/-- The members of a record; where one breaks off, its name, what there is of it, and the members
    in front of it. -/
def write {σ τ : Type} :
    Fields σ τ → τ → Except (List (String × Json) × String × BrokenJson) (List (String × Json))
  | nil, _ => .ok []
  | cons name codec _ rest, (a, later) =>
    match codec.write a, rest.write later with
    | .error part, _ => .error ([], name, part)
    | .ok v, .error (before, broken) => .error ((name, v) :: before, broken)
    | .ok v, .ok members => .ok ((name, v) :: members)

/-- No field has been read. -/
def noneRead {σ τ : Type} : Fields σ τ → σ
  | nil => ()
  | cons _ _ _ rest => (none, rest.noneRead)

/-- The reader of what follows the name of a member: the colon and the value. A field that has
    been read is refused at its name. Members of other names have no reader. -/
def member? {σ τ : Type} (key : String) : Fields σ τ → σ → Option (JsonReader σ)
  | nil, _ => none
  | cons name codec _ rest, (slot, later) =>
    if key = name then some fun text => do
      if slot.isSome then throw (.repeatedField name)
      let (a, left) ← codec.read (← passColon text)
      return ((some a, later), left)
    else (rest.member? key later).map fun read text => do
      let (later, left) ← read text
      return ((slot, later), left)

/-- The values of all fields, once the members have been read. The first field that was left out
    and has no default is reported. -/
def complete {σ τ : Type} : Fields σ τ → σ → Except JsonError τ
  | nil, _ => .ok ()
  | cons name _ default rest, (slot, later) =>
    match slot <|> default with
    | some a => do return (a, ← rest.complete later)
    | none => .error (.missingField name)

/-- Goes on to the name of the next member of an object: what follows its quote when there is
    one, nothing at the end. The first member has no comma before it. -/
def nextMember (first : Bool) (text : List Char) : Except JsonError (Option (List Char)) :=
  match passBlanks text with
  | [] => .error .endInObject
  | '\x7d' :: _ => .ok none
  | c :: rest =>
    if first then (if c = '"' then .ok (some rest) else .error .nameNoString)
    else if c = ',' then
      match passBlanks rest with
      | [] => .error .endInValue
      | '"' :: rest => .ok (some rest)
      | '\x7d' :: _ => .error .trailingComma
      | _ => .error .nameNoString
    else .error .noObjectEnd

/-- What follows the name of a member: a field is read, and a member of another name is skipped
    whatever its value. -/
def readMember {σ τ : Type} (fields : Fields σ τ) (key : String) (slots : σ) : JsonReader σ :=
  match fields.member? key slots with
  | some read => read
  | none => fun text => do return (slots, ← passValue (← passColon text))

/-- The members of an object up to its end. Every member has a character and so does the end, and
    the rounds are counted by the characters of a text that is no shorter. -/
def readMembers {σ τ : Type} (fields : Fields σ τ) : List Char → Bool → σ → JsonReader σ
  | [], _, _, _ => .error .endInObject
  | _ :: fuel, first, slots, text => do
    match ← nextMember first text with
    | none => return (slots, text)
    | some rest =>
      let (key, rest) ← readString rest
      let (slots, rest) ← fields.readMember key slots rest
      readMembers fields fuel false slots rest

/-- The fields of a record that is written as a list. `done` fields have been read, and `wanted`
    says what the whole list should be. -/
def readList {σ τ : Type} (wanted : String) : Fields σ τ → Nat → JsonReader τ
  | nil, _, text => .ok ((), text)
  | cons _ codec default rest, done, text => do
    let (a, left) ← match ← Codec.nextElement (done == 0) text with
      | some left => codec.read left
      | none => match default with
        | some a => pure (a, text)
        | none => throw (.wrongLength done wanted)
    let (later, left) ← rest.readList wanted (done + 1) left
    return ((a, later), left)

end Fields

namespace Codec

/-- The codec of a record, by its name, its fields, and how its values are put together. -/
def record {α σ τ : Type} (name : String) (fields : Fields σ τ) (make : τ → α) (parts : α → τ) :
    Codec α where
  write a :=
    match fields.write (parts a) with
    | .ok members => .ok (.object members)
    | .error (before, name, part) => .error (.inObject before name part)
  read text :=
    match passBlanks text with
    | '[' :: rest => do
      let wanted := s!"struct {name} with {fields.count} elements"
      let (values, rest) ← fields.readList wanted 0 rest
      return (make values, ← passListEnd rest)
    | '\x7b' :: rest => do
      let (slots, rest) ← fields.readMembers ('\x7b' :: rest) true fields.noneRead rest
      let values ← fields.complete slots
      -- The members end at the closing brace, and nowhere else.
      return (make values, (passBlanks rest).tail)
    | rest => refuse s!"struct {name}" rest

/-- The codec of a type whose values stand for those of another one, as far as they do. The
    others have no JSON form. -/
def wrap {α β : Type} (c : Codec α) (make : α → β) (part? : β → Option α) : Codec β where
  write b := (part? b).elim (.error .here) c.write
  read text := do
    let (a, rest) ← c.read text
    return (make a, rest)

/-- Reads a whole text. -/
def decode {α : Type} (c : Codec α) (text : String) : Except JsonError α := do
  let (a, rest) ← c.read text.toList
  if (passBlanks rest).isEmpty then return a
  throw .trailingText

/-- The compact text of a value, if all of it has a JSON form. -/
def encode {α : Type} (c : Codec α) (a : α) : Except BrokenJson String :=
  (c.write a).map fun v => String.ofList v.compact

end Codec

end CloneScan
