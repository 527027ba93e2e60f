import CloneScan.Regex.Basic

/-!
# Sweeping a Text

Whether an expression occurs in a text is decided for all places at once. A set of places is
a number whose bits are the places, and an expression moves such a set: from every place it
may start at to every place it may then end at. A set of characters moves the places it
holds at one step on; a condition keeps the places it holds at.

Where sets of characters and conditions hold depends on the text alone, so both are turned
into sets of places first. What is left is a `Sweep`.

A repetition is swept until nothing is gained. A mandatory copy that gives back the set it was
given will do so again, and an optional one only has to be tried from places that were not
reached before; so neither takes more rounds than the text has places, whatever the bounds of
the repetition are.

## Main definitions

* `PlaceSet`: A set of places.
* `Sweep`: An expression located in a text.
* `Regex.locate`: Locates an expression.
* `Sweep.run`: Moves a set of places.
* `Regex.occursIn`: The expression matches some stretch of a text.
-/

namespace CloneScan

/-- A set of places of a text: bit `i` is set when place `i` is a member. -/
abbrev PlaceSet := Nat

namespace PlaceSet

/-- The set whose members are the indices of the true entries of a list. -/
def ofList : List Bool → PlaceSet
  | [] => 0
  | b :: rest => 2 * ofList rest + b.toNat

/-- All places of a text of the given length. -/
def upTo (length : Nat) : PlaceSet :=
  Nat.pow 2 (length + 1) - 1

/-- The members of the first set that are not in the second. -/
def minus (s t : PlaceSet) : PlaceSet :=
  s ^^^ (s &&& t)

end PlaceSet

/-- An expression located in a text: its character sets and conditions have become the places
    where they hold. -/
inductive Sweep where
  /-- Every place leads to itself. -/
  | stay
  /-- The places of the set lead one step on. -/
  | advance (places : PlaceSet)
  /-- The places of the set lead to themselves. -/
  | keep (places : PlaceSet)
  /-- One sweep after another. -/
  | seq (first second : Sweep)
  /-- Either of two sweeps. -/
  | alt (first second : Sweep)
  /-- Between `least` and `most` rounds of a sweep. -/
  | repeated (body : Sweep) (least : Nat) (most : Option Nat)
  deriving Repr

/-- The two neighbours of every place of a text, from a given character before it. -/
def neighbours (before : Option Char) : List Char → List (Option Char × Option Char)
  | [] => [(before, none)]
  | c :: rest => (before, some c) :: neighbours (some c) rest

/-- Locates an expression in a text. -/
def Regex.locate (text : List Char) : Regex → Sweep
  | .empty => .stay
  | .one set => .advance (PlaceSet.ofList (text.map set.has))
  | .look l => .keep (PlaceSet.ofList ((neighbours none text).map fun p => l.holds p.1 p.2))
  | .seq r s => .seq (r.locate text) (s.locate text)
  | .alt r s => .alt (r.locate text) (s.locate text)
  | .repeated r least most => .repeated (r.locate text) least most

namespace Sweep

/-- Makes a number of rounds, or fewer when a round changes nothing. -/
def rounds (round : PlaceSet → PlaceSet) : Nat → PlaceSet → PlaceSet
  | 0, s => s
  | n + 1, s => if round s = s then s else rounds round n (round s)

/-- Adds what at most `n` further rounds reach. Only the places of `fresh`, which the last
    round added to `reached`, can lead to anything new. -/
def closure (round : PlaceSet → PlaceSet) : Nat → PlaceSet → PlaceSet → PlaceSet
  | 0, reached, _ => reached
  | n + 1, reached, fresh =>
    let gained := (round fresh).minus reached
    if gained = 0 then reached else closure round n (reached ||| gained) gained

/-- Moves a set of places of a text of the given length. -/
def run (length : Nat) : Sweep → PlaceSet → PlaceSet
  | stay, s => s
  | advance places, s => (s &&& places) <<< 1
  | keep places, s => s &&& places
  | seq a b, s => b.run length (a.run length s)
  | alt a b, s => a.run length s ||| b.run length s
  | repeated a least most, s =>
    let start := rounds (a.run length) least s
    let extra := match most with
      | some m => min (m - least) (length + 1)
      | none => length + 1
    closure (a.run length) extra start start

end Sweep

/-- The expression matches some stretch of a text. -/
def Regex.occursIn (r : Regex) (text : List Char) : Bool :=
  (r.locate text).run text.length (PlaceSet.upTo text.length) != 0

end CloneScan
