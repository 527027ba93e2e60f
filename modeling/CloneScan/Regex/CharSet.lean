import CloneScan.Unicode.CaseFold
import CloneScan.Unicode.Digit
import CloneScan.Unicode.Word

/-!
# Sets of Characters

What one place of a regular expression can match. A set is given by its membership test, so
the set operations are the boolean ones and nothing has to be kept in order.

Closing a set under case asks, for a character, whether any of its case variants is a
member. Where a pattern is told to look at ASCII alone, only the letters of that range have
variants, and a set must not reach beyond it.

## Main definitions

* `CharSet`: A set of characters.
* `CharSet.closeCase`, `CharSet.closeAsciiCase`: The set with all case variants.
* `CharSet.isAscii`: No member lies just beyond ASCII.
* `NamedSet`: The sets that a pattern can name by a word.
* `ClassLetter`: The sets that a pattern can name by a letter.
-/

namespace CloneScan

/-- A set of characters, given by its membership test. -/
structure CharSet where
  /-- The character is a member. -/
  has : Char → Bool

namespace CharSet

/-- The set without members. -/
def empty : CharSet :=
  ⟨fun _ => false⟩

/-- The set of all characters. -/
def all : CharSet :=
  ⟨fun _ => true⟩

/-- The set of one character. -/
def single (c : Char) : CharSet :=
  ⟨fun d => d == c⟩

/-- The set of the characters from `first` to `last`. -/
def range (first last : Char) : CharSet :=
  ⟨fun c => first ≤ c && c ≤ last⟩

/-- The members of either set. -/
def union (s t : CharSet) : CharSet :=
  ⟨fun c => s.has c || t.has c⟩

/-- The members of both sets. -/
def inter (s t : CharSet) : CharSet :=
  ⟨fun c => s.has c && t.has c⟩

/-- The members of the first set alone. -/
def diff (s t : CharSet) : CharSet :=
  ⟨fun c => s.has c && !t.has c⟩

/-- The members of exactly one of the sets. -/
def symmDiff (s t : CharSet) : CharSet :=
  ⟨fun c => s.has c != t.has c⟩

/-- The characters that are no members. -/
def compl (s : CharSet) : CharSet :=
  ⟨fun c => !s.has c⟩

/-- The set with all case variants of its members. -/
def closeCase (s : CharSet) : CharSet :=
  ⟨fun c => (Unicode.variants c).any s.has⟩

/-- The ASCII letter in the other case; any other character is kept. -/
def otherAsciiCase (c : Char) : Char :=
  if c.isLower then c.toUpper else if c.isUpper then c.toLower else c

/-- The set with the ASCII letters it has in either case. -/
def closeAsciiCase (s : CharSet) : CharSet :=
  ⟨fun c => s.has c || s.has (otherAsciiCase c)⟩

/-- No member lies in the half of the byte range beyond ASCII. -/
def isAscii (s : CharSet) : Bool :=
  (List.range 128).all fun n => !s.has (Char.ofNat (n + 128))

end CharSet

/-- The sets that a pattern can name by a word. All of them lie within ASCII. -/
inductive NamedSet where
  | alnum
  | alpha
  | ascii
  | blank
  | cntrl
  | digit
  | graph
  | lower
  | printable
  | punct
  | space
  | upper
  | word
  | xdigit
  deriving Repr, DecidableEq

namespace NamedSet

/-- The set of a name, if a pattern may use it. -/
def ofName? (name : String) : Option NamedSet :=
  [("alnum", alnum), ("alpha", alpha), ("ascii", ascii), ("blank", blank), ("cntrl", cntrl),
    ("digit", digit), ("graph", graph), ("lower", lower), ("print", printable),
    ("punct", punct), ("space", space), ("upper", upper), ("word", word),
    ("xdigit", xdigit)].lookup name

/-- The bounds of the ranges that make up a named set. -/
def ranges : NamedSet → List (Char × Char)
  | alnum => [('0', '9'), ('A', 'Z'), ('a', 'z')]
  | alpha => [('A', 'Z'), ('a', 'z')]
  | ascii => [('\x00', '\x7f')]
  | blank => [('\t', '\t'), (' ', ' ')]
  | cntrl => [('\x00', '\x1f'), ('\x7f', '\x7f')]
  | digit => [('0', '9')]
  | graph => [('!', '~')]
  | lower => [('a', 'z')]
  | printable => [(' ', '~')]
  | punct => [('!', '/'), (':', '@'), ('[', '\x60'), ('\x7b', '~')]
  | space => [('\t', '\r'), (' ', ' ')]
  | upper => [('A', 'Z')]
  | word => [('0', '9'), ('A', 'Z'), ('_', '_'), ('a', 'z')]
  | xdigit => [('0', '9'), ('A', 'F'), ('a', 'f')]

/-- The members of a named set. -/
def toSet (s : NamedSet) : CharSet :=
  s.ranges.foldr (fun bounds t => (CharSet.range bounds.1 bounds.2).union t) CharSet.empty

end NamedSet

/-- The sets that a pattern can name by a letter. -/
inductive ClassLetter where
  | digit
  | space
  | word
  deriving Repr, DecidableEq

namespace ClassLetter

/-- The members of the set, among all characters. -/
def toSet : ClassLetter → CharSet
  | digit => ⟨Unicode.isDigit⟩
  | space => ⟨Unicode.isBlank⟩
  | word => ⟨Unicode.isWord⟩

/-- The members of the set that lie within ASCII. -/
def toAsciiSet : ClassLetter → CharSet
  | digit => NamedSet.digit.toSet
  | space => NamedSet.space.toSet
  | word => NamedSet.word.toSet

end ClassLetter

end CloneScan
