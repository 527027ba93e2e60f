import CloneScan.Decimal.Shortest
import CloneScan.Json.Value
import CloneScan.Text.Bytes
import CloneScan.Text.Shown

/-!
# Reading JSON

The pieces of a JSON text, read from left to right. Every reader takes the characters that
are left and gives back what it read with those left after it, or the first problem it met.

A text is read for a purpose: the reader knows what sort of value it wants. A value of
another sort is read only as far as it takes to say what it is. A value that nobody wants
is passed over, and then only its form is checked: escapes need not stand for characters,
and numbers may have any size.

## Main definitions

* `JsonError`, `JsonError.message`: What is wrong with a text.
* `JsonReader`: A reader of a piece.
* `Json.passBlanks`: What is left after blanks.
* `Json.readString`, `Json.readNumber`: Strings and numbers.
* `Json.passValue`: What is left after a value of any sort.
* `Json.identify`: What sort of value comes next.
-/

namespace CloneScan

/-- A value in place of the one that was wanted. -/
inductive Found where
  | null
  | truth (b : Bool)
  | integer (n : Int)
  /-- A number with a fraction or an exponent, or too large for a word. -/
  | fraction (text : String)
  | string (s : String)
  | sequence
  | map
  deriving Repr, DecidableEq

/-- A value in place of the one that was wanted, in words. -/
def Found.describe : Found → String
  | null => "null"
  | truth b => s!"boolean `{b}`"
  | integer n => s!"integer `{n}`"
  | fraction text => s!"floating point `{text}`"
  | string s => s!"string {Text.shown s}"
  | sequence => "sequence"
  | map => "map"

/-- What is wrong with a JSON text. -/
inductive JsonError where
  | endInValue
  | endInObject
  | endInList
  | endInString
  | noValue
  | noColon
  /-- A member is followed neither by a comma nor by the end of the object. -/
  | noObjectEnd
  /-- An element is followed neither by a comma nor by the end of the list. -/
  | noListEnd
  /-- A word other than `null`, `true` and `false`. -/
  | badWord
  | badNumber
  /-- A number that is too large to be told. -/
  | hugeNumber
  | badEscape
  /-- The name of a member is no string. -/
  | nameNoString
  | trailingComma
  /-- Something follows where nothing should. -/
  | trailingText
  | controlCharacter
  /-- The escape of half a character, out of place. -/
  | loneHalf
  /-- The escape of the first half of a character, without the second. -/
  | missingHalf
  /-- A member that must be there is not. -/
  | missingField (name : String)
  /-- A member that is there twice. -/
  | repeatedField (name : String)
  /-- A word that is none of those allowed. -/
  | unknownVariant (name : String) (allowed : List String)
  /-- A value of another sort. -/
  | wrongType (found : Found) (wanted : String)
  /-- A value of the right sort that is not allowed. -/
  | wrongValue (found : Found) (wanted : String)
  /-- A list with too few elements. -/
  | wrongLength (length : Nat) (wanted : String)
  deriving Repr, DecidableEq

/-- What is wrong with a JSON text, in words. -/
def JsonError.message : JsonError → String
  | endInValue => "EOF while parsing a value"
  | endInObject => "EOF while parsing an object"
  | endInList => "EOF while parsing a list"
  | endInString => "EOF while parsing a string"
  | noValue => "expected value"
  | noColon => "expected `:`"
  | noObjectEnd => "expected `,` or `\x7d`"
  | noListEnd => "expected `,` or `]`"
  | badWord => "expected ident"
  | badNumber => "invalid number"
  | hugeNumber => "number out of range"
  | badEscape => "invalid escape"
  | nameNoString => "key must be a string"
  | trailingComma => "trailing comma"
  | trailingText => "trailing characters"
  | controlCharacter => "control character (\\u0000-\\u001F) found while parsing a string"
  | loneHalf => "lone leading surrogate in hex escape"
  | missingHalf => "unexpected end of hex escape"
  | missingField name => s!"missing field `{name}`"
  | repeatedField name => s!"duplicate field `{name}`"
  | unknownVariant name allowed =>
    let choices := ", ".intercalate (allowed.map fun a => s!"`{a}`")
    s!"unknown variant `{name}`, expected one of {choices}"
  | wrongType found wanted => s!"invalid type: {found.describe}, expected {wanted}"
  | wrongValue found wanted => s!"invalid value: {found.describe}, expected {wanted}"
  | wrongLength length wanted => s!"invalid length {length}, expected {wanted}"

/-- A reader of a piece of a JSON text. -/
abbrev JsonReader (α : Type) := List Char → Except JsonError (α × List Char)

namespace Json

/-- What is left after blanks: spaces, tabs and the two characters of line endings. -/
def passBlanks : List Char → List Char
  | [] => []
  | c :: rest =>
    if c = ' ' ∨ c = '\t' ∨ c = '\n' ∨ c = '\r' then passBlanks rest else c :: rest

/-- What is left after a word of which the first letter was read already. -/
def passWord : List Char → List Char → Except JsonError (List Char)
  | [], text => .ok text
  | _ :: _, [] => .error .endInValue
  | w :: word, c :: rest => if c = w then passWord word rest else .error .badWord

/-! ## Strings -/

/-- The value of a hexadecimal digit. -/
def hexValue? (c : Char) : Option Nat :=
  if '0' ≤ c ∧ c ≤ '9' then some (c.toNat - 48)
  else if 'a' ≤ c ∧ c ≤ 'f' then some (c.toNat - 87)
  else if 'A' ≤ c ∧ c ≤ 'F' then some (c.toNat - 55)
  else none

/-- The number that four hexadecimal digits write. The text ends too early only when fewer than
    four bytes are left of it. -/
def readUnit (text : List Char) : Except JsonError (Nat × List Char) :=
  match text with
  | a :: b :: c :: d :: rest =>
    match hexValue? a, hexValue? b, hexValue? c, hexValue? d with
    | some p, some q, some r, some s => .ok (((16 * p + q) * 16 + r) * 16 + s, rest)
    | _, _, _, _ => .error .badEscape
  | _ => if 4 ≤ Text.size text then .error .badEscape else .error .endInString

/-- The escapes that stand for one character of their own, by the letter after the backslash. -/
def letterEscapes : List (Char × Char) :=
  [('"', '"'), ('\\', '\\'), ('/', '/'), ('b', '\x08'), ('f', '\x0c'), ('n', '\n'), ('r', '\r'),
    ('t', '\t')]

/-- The character whose number four digits write, or two times four: a number from `D800` to
    `DBFF` is the first half of a character, and one from `DC00` to `DFFF` the second. -/
def readCodePoint (text : List Char) : Except JsonError (Char × List Char) := do
  let (n, rest) ← readUnit text
  if 0xDC00 ≤ n ∧ n ≤ 0xDFFF then throw .loneHalf
  if n < 0xD800 ∨ 0xDBFF < n then return (Char.ofNat n, rest)
  match rest with
  | [] => throw .endInString
  | '\\' :: [] => throw .endInString
  | '\\' :: 'u' :: rest =>
    let (m, rest) ← readUnit rest
    if m < 0xDC00 ∨ 0xDFFF < m then throw .loneHalf
    return (Char.ofNat (0x10000 + (n - 0xD800) * 0x400 + (m - 0xDC00)), rest)
  | _ => throw .missingHalf

/-- The character an escape stands for, where `text` follows the backslash. -/
def readEscape (text : List Char) : Except JsonError (Char × List Char) :=
  match text with
  | [] => .error .endInString
  | c :: rest =>
    if c = 'u' then readCodePoint rest
    else match letterEscapes.lookup c with
      | some d => .ok (d, rest)
      | none => .error .badEscape

/-- What is left after an escape of which only the form matters. -/
def passEscape (text : List Char) : Except JsonError (List Char) :=
  match text with
  | [] => .error .endInString
  | c :: rest =>
    if c = 'u' then do return (← readUnit rest).2
    else if (letterEscapes.lookup c).isSome then .ok rest
    else .error .badEscape

/-- The characters of a string up to its closing quote. Every round reads a character, so the
    rounds are counted by the characters of a text that is no shorter. -/
def readChars : List Char → JsonReader (List Char)
  | _, [] => .error .endInString
  | fuel, c :: rest =>
    if c = '"' then .ok ([], rest)
    else match fuel with
      | [] => .error .endInString
      | _ :: fuel =>
        if c = '\\' then do
          let (d, rest) ← readEscape rest
          let (later, rest) ← readChars fuel rest
          return (d :: later, rest)
        else if c.toNat < 32 then .error .controlCharacter
        else do
          let (later, rest) ← readChars fuel rest
          return (c :: later, rest)

/-- A string, where `text` follows the opening quote. -/
def readString (text : List Char) : Except JsonError (String × List Char) := do
  let (chars, rest) ← readChars text text
  return (String.ofList chars, rest)

/-- What is left after the characters of a string of which only the form matters. -/
def passChars : List Char → List Char → Except JsonError (List Char)
  | _, [] => .error .endInString
  | fuel, c :: rest =>
    if c = '"' then .ok rest
    else match fuel with
      | [] => .error .endInString
      | _ :: fuel =>
        if c = '\\' then do passChars fuel (← passEscape rest)
        else if c.toNat < 32 then .error .controlCharacter
        else passChars fuel rest

/-- What is left after a string of which only the form matters. -/
def passString (text : List Char) : Except JsonError (List Char) :=
  passChars text text

/-! ## Numbers -/

/-- The greatest number a word holds, one less than the 64th power of two. -/
def wordMax : Nat :=
  18446744073709551615

/-- The greatest number whose negative a word with a sign holds, the 63rd power of two. -/
def negativeMax : Nat :=
  9223372036854775808

/-- Takes digits into a number as long as it stays a word: the number, and how many digits were
    taken. -/
def takeDigits (n taken : Nat) : List Char → Nat × Nat
  | [] => (n, taken)
  | d :: ds =>
    let next := 10 * n + (d.toNat - 48)
    if wordMax < next then (n, taken) else takeDigits next (taken + 1) ds

/-- Fractions are told without an exponent up to sixteen digits in front of the point and up to
    four zeros after it. -/
def fractionLayout : DecimalLayout :=
  ⟨16, 4⟩

/-- A number with a sign, digits, and a power of ten, as what it is found to be. Digits that a
    word could not take have been left out. -/
def fractionOf (negative : Bool) (digits : Nat) (power : Int) : Except JsonError Found :=
  match Binary.ofDecimal digits power with
  | some b => .ok (.fraction (b.render fractionLayout negative))
  | none => .error .hugeNumber

/-- The greatest power of ten that is told apart, one less than the 31st power of two. -/
def powerMax : Nat :=
  2147483647

/-- The power of ten after the mark of an exponent, and the number with it. -/
def readExponent (negative : Bool) (digits : Nat) (power : Int) (text : List Char) :
    Except JsonError (Found × List Char) := do
  let (down, text) := match text with
    | '+' :: rest => (false, rest)
    | '-' :: rest => (true, rest)
    | rest => (false, rest)
  match text with
  | [] => throw .endInValue
  | c :: _ =>
    if !c.isDigit then throw .badNumber
    let written := text.takeWhile Char.isDigit
    let rest := text.dropWhile Char.isDigit
    let e := written.foldl (fun n d => 10 * n + (d.toNat - 48)) 0
    if e ≤ powerMax then
      return (← fractionOf negative digits (power + if down then -(e : Int) else e), rest)
    else if digits ≠ 0 ∧ !down then throw .hugeNumber
    else return (← fractionOf negative 0 0, rest)

/-- The digits after a point, and the number with them. -/
def readFraction (negative : Bool) (digits : Nat) (power : Int) (text : List Char) :
    Except JsonError (Found × List Char) := do
  match text with
  | [] => throw .endInValue
  | c :: _ =>
    if !c.isDigit then throw .badNumber
    let (digits, taken) := takeDigits digits 0 (text.takeWhile Char.isDigit)
    match text.dropWhile Char.isDigit with
    | 'e' :: rest | 'E' :: rest => readExponent negative digits (power - taken) rest
    | rest => return (← fractionOf negative digits (power - taken), rest)

/-- A whole number with a sign as what it is found to be. Zero with a minus sign is no whole
    number, and neither is one below the least that a word with a sign holds. -/
def integerOf (negative : Bool) (digits : Nat) : Except JsonError Found :=
  if !negative then .ok (.integer digits)
  else if digits ≠ 0 ∧ digits ≤ negativeMax then .ok (.integer (-(digits : Int)))
  else fractionOf true digits 0

/-- A number after its sign. A zero stands alone before the point. -/
def readUnsigned (negative : Bool) (text : List Char) : Except JsonError (Found × List Char) := do
  let written := text.takeWhile Char.isDigit
  let rest := text.dropWhile Char.isDigit
  match text, written with
  | [], _ => throw .endInValue
  | _, [] => throw .badNumber
  | _, '0' :: _ :: _ => throw .badNumber
  | _, _ =>
    let (digits, taken) := takeDigits 0 0 written
    let power : Int := (written.length - taken : Nat)
    match rest with
    | '.' :: rest => readFraction negative digits power rest
    | 'e' :: rest | 'E' :: rest => readExponent negative digits power rest
    | rest =>
      if power = 0 then return (← integerOf negative digits, rest)
      return (← fractionOf negative digits power, rest)

/-- A number, with its sign. -/
def readNumber (text : List Char) : Except JsonError (Found × List Char) :=
  match text with
  | '-' :: rest => readUnsigned true rest
  | _ => readUnsigned false text

/-- What is left after the exponent of a number of which only the form matters. -/
def passExponent (text : List Char) : Except JsonError (List Char) :=
  let digits := match text with
    | '+' :: rest | '-' :: rest => rest
    | rest => rest
  if (digits.head?.map Char.isDigit).getD false then .ok (digits.dropWhile Char.isDigit)
  else .error .badNumber

/-- What is left after a number of which only the form matters. -/
def passNumber (text : List Char) : Except JsonError (List Char) :=
  let text := match text with
    | '-' :: rest => rest
    | _ => text
  match text.takeWhile Char.isDigit, text.dropWhile Char.isDigit with
  | [], _ => .error .badNumber
  | '0' :: _ :: _, _ => .error .badNumber
  | _, '.' :: rest =>
    if (rest.head?.map Char.isDigit).getD false then
      match rest.dropWhile Char.isDigit with
      | 'e' :: rest | 'E' :: rest => passExponent rest
      | rest => .ok rest
    else .error .badNumber
  | _, 'e' :: rest | _, 'E' :: rest => passExponent rest
  | _, rest => .ok rest

/-! ## Values of any sort -/

/-- What is left after the colon that follows the name of a member. -/
def passColon (text : List Char) : Except JsonError (List Char) :=
  match passBlanks text with
  | [] => .error .endInObject
  | ':' :: rest => .ok rest
  | _ => .error .noColon

mutual

/-- What is left after a value of which only the form matters. Between two characters of the
    text at most two calls follow one another, so a fuel of twice its length is enough. -/
def passValueWith : Nat → List Char → Except JsonError (List Char)
  | 0, _ => .error .endInValue
  | fuel + 1, text =>
    match passBlanks text with
    | [] => .error .endInValue
    | 'n' :: rest => passWord "ull".toList rest
    | 't' :: rest => passWord "rue".toList rest
    | 'f' :: rest => passWord "alse".toList rest
    | '"' :: rest => passString rest
    | '[' :: rest =>
      match passBlanks rest with
      | [] => .error .endInList
      | ']' :: rest => .ok rest
      | rest => passElements fuel rest
    | '\x7b' :: rest =>
      match passBlanks rest with
      | [] => .error .endInObject
      | '\x7d' :: rest => .ok rest
      | rest => passMembers fuel rest
    | c :: rest =>
      if c = '-' ∨ c.isDigit then passNumber (c :: rest) else .error .noValue

/-- What is left after the elements of a list that has some, and its end. -/
def passElements : Nat → List Char → Except JsonError (List Char)
  | 0, _ => .error .endInList
  | fuel + 1, text => do
    match passBlanks (← passValueWith fuel text) with
    | [] => throw .endInList
    | ',' :: rest => passElements fuel rest
    | ']' :: rest => return rest
    | _ => throw .noListEnd

/-- What is left after the members of an object that has some, and its end. -/
def passMembers : Nat → List Char → Except JsonError (List Char)
  | 0, _ => .error .endInObject
  | fuel + 1, text => do
    match passBlanks text with
    | [] => throw .endInObject
    | '"' :: rest =>
      let rest ← passValueWith fuel (← passColon (← passString rest))
      match passBlanks rest with
      | [] => throw .endInObject
      | ',' :: rest => passMembers fuel rest
      | '\x7d' :: rest => return rest
      | _ => throw .noObjectEnd
    | _ => throw .nameNoString

end

/-- What is left after a value of which only the form matters. -/
def passValue (text : List Char) : Except JsonError (List Char) :=
  passValueWith (2 * text.length + 2) text

/-- What sort of value comes next, where none of the wanted sort does. A list or an object is
    known by its bracket; any other value is read to its end. -/
def identify (text : List Char) : Except JsonError Found :=
  match text with
  | 'n' :: rest => do
    let _ ← passWord "ull".toList rest
    return .null
  | 't' :: rest => do
    let _ ← passWord "rue".toList rest
    return .truth true
  | 'f' :: rest => do
    let _ ← passWord "alse".toList rest
    return .truth false
  | '"' :: rest => do return .string (← readString rest).1
  | '[' :: _ => .ok .sequence
  | '\x7b' :: _ => .ok .map
  | c :: rest =>
    if c = '-' ∨ c.isDigit then do return (← readNumber (c :: rest)).1 else .error .noValue
  | [] => .error .noValue

end Json

end CloneScan
