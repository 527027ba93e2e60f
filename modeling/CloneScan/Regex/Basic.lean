import CloneScan.Regex.CharSet

/-!
# Regular Expressions

What a pattern means once every flag is settled. An expression matches a stretch of a text
between two places; places lie between characters, so a text of `n` characters has `n + 1`
of them. A *look* matches at a place without moving: it only asks what stands on either
side.

The expression says nothing about which match is preferred. Whether a text matches does not
depend on that.

## Main definitions

* `Look`: A condition on the two sides of a place.
* `Look.holds`: The condition holds between two neighbours.
* `Regex`: An expression.
* `Regex.Spans`: An expression matches from one place to another.
-/

namespace CloneScan

/-- A condition on the two sides of a place. A line ends at a line feed; with `crlf`, also at a
    carriage return, and not between the two. A word is made of word characters of all scripts
    or, without `unicode`, of ASCII ones. -/
inductive Look where
  /-- Nothing stands before. -/
  | textStart
  /-- Nothing stands after. -/
  | textEnd
  /-- A line starts here. -/
  | lineStart (crlf : Bool)
  /-- A line ends here. -/
  | lineEnd (crlf : Bool)
  /-- A word starts or ends here. -/
  | wordEdge (unicode : Bool)
  /-- No word starts or ends here. -/
  | noWordEdge (unicode : Bool)
  | wordStart (unicode : Bool)
  | wordEnd (unicode : Bool)
  /-- No word character stands before. -/
  | afterNoWord (unicode : Bool)
  /-- No word character stands after. -/
  | beforeNoWord (unicode : Bool)
  deriving Repr, DecidableEq

namespace Look

/-- There is a neighbour, and it is a word character. -/
def isWord (unicode : Bool) (neighbour : Option Char) : Bool :=
  let words := if unicode then ClassLetter.word.toSet else ClassLetter.word.toAsciiSet
  (neighbour.map words.has).getD false

/-- The condition holds between two neighbours. There is none before the first character of a
    text and none after the last. -/
def holds (look : Look) (before after : Option Char) : Bool :=
  match look with
  | textStart => before.isNone
  | textEnd => after.isNone
  | lineStart false => before.isNone || before == some '\n'
  | lineStart true =>
    before.isNone || before == some '\n' || before == some '\r' && after != some '\n'
  | lineEnd false => after.isNone || after == some '\n'
  | lineEnd true =>
    after.isNone || after == some '\r' || after == some '\n' && before != some '\r'
  | wordEdge u => isWord u before != isWord u after
  | noWordEdge u => isWord u before == isWord u after
  | wordStart u => !isWord u before && isWord u after
  | wordEnd u => isWord u before && !isWord u after
  | afterNoWord u => !isWord u before
  | beforeNoWord u => !isWord u after

end Look

/-- A regular expression. -/
inductive Regex where
  /-- Matches the empty stretch. -/
  | empty
  /-- Matches one character of the set. -/
  | one (set : CharSet)
  /-- Matches the empty stretch at a place where the condition holds. -/
  | look (l : Look)
  /-- Matches what the first part matches, followed by what the second matches. -/
  | seq (first second : Regex)
  /-- Matches what either part matches. -/
  | alt (first second : Regex)
  /-- Matches between `least` and `most` stretches of the body, one after the other. -/
  | repeated (body : Regex) (least : Nat) (most : Option Nat)

namespace Regex

/-- The character before a place. -/
def before (text : List Char) : Nat → Option Char
  | 0 => none
  | i + 1 => text[i]?

/-- `Spans text r i j` says that `r` matches the stretch of `text` from place `i` to place
    `j`. -/
inductive Spans (text : List Char) : Regex → Nat → Nat → Prop where
  | empty {i : Nat} : Spans text .empty i i
  | one {set : CharSet} {i : Nat} {c : Char} (at_place : text[i]? = some c)
      (member : set.has c = true) : Spans text (.one set) i (i + 1)
  | look {l : Look} {i : Nat} (holds : l.holds (before text i) text[i]? = true) :
      Spans text (.look l) i i
  | seq {r s : Regex} {i j k : Nat} (first : Spans text r i j) (second : Spans text s j k) :
      Spans text (.seq r s) i k
  | altFirst {r s : Regex} {i j : Nat} (first : Spans text r i j) : Spans text (.alt r s) i j
  | altSecond {r s : Regex} {i j : Nat} (second : Spans text s i j) : Spans text (.alt r s) i j
  | done {r : Regex} {most : Option Nat} {i : Nat} : Spans text (.repeated r 0 most) i i
  | more {r : Regex} {least : Nat} {most : Option Nat} {i j k : Nat} (room : most ≠ some 0)
      (first : Spans text r i j)
      (rest : Spans text (.repeated r (least - 1) (most.map (· - 1))) j k) :
      Spans text (.repeated r least most) i k

/-- The expression matches the whole of a text. -/
def MatchesAll (r : Regex) (text : List Char) : Prop :=
  Spans text r 0 text.length

/-- The expression matches some stretch of a text. -/
def Occurs (r : Regex) (text : List Char) : Prop :=
  ∃ i j, i ≤ text.length ∧ Spans text r i j

end Regex

end CloneScan
