/-!
# Spans of a File

A span is a stretch of characters of a file, from a first position up to one that is not in
it any more. Lines are counted from one, characters within a line from zero. Spans are only
made against a file whose line lengths are known, so a refused one has a cause, and there
are four.

## Main definitions

* `Position`: A place in a file.
* `Span`: A stretch of a file.
* `SpanError`: Why a span is refused.
* `SpanError.message`: The cause in words.
-/

namespace CloneScan

/-- A place in a file: a line, counted from one, and an offset into it, counted from zero. -/
structure Position where
  /-- The line, counted from one. -/
  line : Nat
  /-- The number of characters of the line before the place. -/
  offset : Nat
  deriving Repr, DecidableEq, Inhabited

namespace Position

/-- A place precedes another one: on an earlier line, or further left on the same. -/
def Before (p q : Position) : Prop :=
  p.line < q.line ∨ p.line = q.line ∧ p.offset < q.offset

instance (p q : Position) : Decidable (p.Before q) :=
  inferInstanceAs (Decidable (_ ∨ _))

end Position

/-- A stretch of a file, its first place included and its last excluded. -/
structure Span where
  /-- The place of the first character. -/
  start : Position
  /-- The place after the last character. -/
  stop : Position
  deriving Repr, DecidableEq, Inhabited

/-- Why a span is refused. -/
inductive SpanError where
  /-- The file has no such line. -/
  | noSuchLine (line lines : Nat)
  /-- The line is shorter than that. -/
  | beyondLine (line offset length : Nat)
  /-- The start does not precede the end. -/
  | empty (start stop : Position)
  /-- A column of zero, where columns are counted from one. -/
  | zeroColumn (line : Nat)
  deriving Repr, DecidableEq

/-- Why a span is refused, in words. -/
def SpanError.message : SpanError → String
  | noSuchLine line lines => s!"line {line} is out of range, file has {lines} line(s)"
  | beyondLine line offset length =>
    s!"offset {offset} is beyond the end of line {line} (length {length})"
  | empty start stop =>
    s!"start {start.line}:{start.offset} is not before end {stop.line}:{stop.offset}"
  | zeroColumn line => s!"column 0 at line {line}, columns are 1-based"

end CloneScan
