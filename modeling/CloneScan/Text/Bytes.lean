/-!
# Byte Offsets

A syntax tree names places in a text by byte offsets into its UTF-8 form, while a report
counts characters. The functions here go from one to the other without building the bytes:
a character takes `Char.utf8Size` of them, so an offset is found by walking the characters
and subtracting.

An offset that falls inside a character, or beyond the end, is not a place in the text. The
functions answer `none` there, and the caller says what stands in for the missing piece.

## Main definitions

* `size`: The number of bytes of a text.
* `dropBytes`: What follows an offset.
* `takeBytes`: What precedes an offset.
* `slice`: The characters between two offsets.
-/

namespace CloneScan

namespace Text

/-- The number of bytes of the UTF-8 form of a text. -/
def size : List Char → Nat
  | [] => 0
  | c :: rest => c.utf8Size + size rest

/-- The characters from a byte offset on. -/
def dropBytes : Nat → List Char → Option (List Char)
  | 0, text => some text
  | _ + 1, [] => none
  | n + 1, c :: rest => if c.utf8Size ≤ n + 1 then dropBytes (n + 1 - c.utf8Size) rest else none

/-- The characters before a byte offset. -/
def takeBytes : Nat → List Char → Option (List Char)
  | 0, _ => some []
  | _ + 1, [] => none
  | n + 1, c :: rest =>
    if c.utf8Size ≤ n + 1 then (takeBytes (n + 1 - c.utf8Size) rest).map (c :: ·) else none

/-- The characters from one byte offset up to another. -/
def slice (text : List Char) (start stop : Nat) : Option (List Char) :=
  if start ≤ stop then (dropBytes start text).bind (takeBytes (stop - start)) else none

end Text

end CloneScan
