/-!
# Tables of Characters

A property of characters is a list of ranges of code points, and a map between characters
is a list of runs that move by one offset. Both are kept in ascending order, so a search
stops as soon as it has passed the character it looks for.

The lists are plain data: what a table says about a character is decided by `has` and
`move` alone, and both are total on every character.

## Main definitions

* `RangeTable`: A property, as ascending ranges.
* `RangeTable.has`: A character has the property.
* `RangeTable.hasSecond`: A character is one of every second one in a table.
* `PropertyValues`: The values of a property, with their names.
* `ShiftRun`: A run of characters moved by one offset.
* `ShiftRun.move`: Where a list of runs sends a character.
* `ShiftRun.sources`: What a list of runs sends to a character.
-/

namespace CloneScan

namespace Unicode

/-- A property of characters, as ascending ranges of code points with both ends included. -/
abbrev RangeTable := List (Nat × Nat)

/-- The code point lies in one of the ranges. The ranges ascend, so the search is over at the
    first one that starts beyond it. -/
def RangeTable.hasCode (n : Nat) : RangeTable → Bool
  | [] => false
  | (first, last) :: rest => if n < first then false else n ≤ last || RangeTable.hasCode n rest

/-- The character has the property. -/
def RangeTable.has (t : RangeTable) (c : Char) : Bool :=
  RangeTable.hasCode c.toNat t

/-- The character is the first of a range of the table, or an even number of code points beyond
    it. -/
def RangeTable.hasSecond (t : RangeTable) (c : Char) : Bool :=
  t.any fun (first, last) => first ≤ c.toNat && c.toNat ≤ last && (c.toNat - first) % 2 == 0

/-- The values of a property: the names of each, in small letters and without blanks or dashes,
    and its characters. A value may have names and no characters. -/
abbrev PropertyValues := List (List String × Option (Char → Bool))

/-- Every `step`-th code point from `first` to `last`, moved by `offset`. -/
structure ShiftRun where
  first : Nat
  last : Nat
  /-- The distance between neighbours in the run. -/
  step : Nat
  /-- What is added to a code point of the run. -/
  offset : Int
  deriving Repr, DecidableEq

/-- The code point belongs to the run. -/
def ShiftRun.has (r : ShiftRun) (n : Nat) : Bool :=
  r.first ≤ n && n ≤ r.last && (n - r.first) % r.step == 0

/-- The character a list of ascending runs sends `c` to; `c` itself when no run has it. -/
def ShiftRun.move : List ShiftRun → Char → Char
  | [], c => c
  | r :: rest, c =>
    if c.toNat < r.first then c
    else if r.has c.toNat then Char.ofNat (c.toNat + r.offset).toNat
    else ShiftRun.move rest c

/-- The characters that some run of the list sends to `c`. -/
def ShiftRun.sources (runs : List ShiftRun) (c : Char) : List Char :=
  runs.filterMap fun r =>
    let n := (c.toNat - r.offset : Int).toNat
    if r.has n then some (Char.ofNat n) else none

end Unicode

end CloneScan
