import CloneScan.PathMap
import CloneScan.Span
import CloneScan.Token
import CloneScan.Text.Lines

/-!
# Source Files

A file under analysis is known by its path and the lengths of its lines. That is all it
takes to tell whether a span lies inside it, and nothing else of the text is kept.

A token reports where it starts, but not where it ends; `tokenSpan` finds the end on the
token's own line. Places are 64-bit numbers. A token so far to the right that its end has
no such number is refused before the file is asked, as lying beyond its line.

## Main definitions

* `SourceFile`: A path with the lengths of its lines.
* `SourceFile.ofText`: Measures a text.
* `SourceFile.span`: A span that lies inside the file.
* `SourceFile.tokenSpan`: The span of a token on its own line.
* `AnalysisSet`: The files under analysis.
-/

namespace CloneScan

/-- The first number that a 64-bit word cannot hold, the 64th power of two. -/
def wordLimit : Nat :=
  18446744073709551616

/-- A file under analysis: its path and the lengths of its lines in characters. -/
structure SourceFile where
  /-- Where the file was read. -/
  path : Path
  /-- The lengths of the lines, from the first line on. -/
  lineLengths : Array Nat
  deriving Repr, DecidableEq

namespace SourceFile

/-- Measures a text. A carriage return that ends a line does not count. -/
def ofText (path : Path) (text : String) : SourceFile :=
  ⟨path, ((Text.lines text.toList).map fun line => (Text.withoutReturn line).length).toArray⟩

/-- The number of lines. -/
def lineCount (f : SourceFile) : Nat :=
  f.lineLengths.size

/-- The length of a line, counted from one; there is no line zero. -/
def lineLength (f : SourceFile) : Nat → Option Nat
  | 0 => none
  | n + 1 => f.lineLengths[n]?

/-- A place of the file. The end of a line is one, although no character stands there. -/
def position (f : SourceFile) (line offset : Nat) : Except SpanError Position :=
  match f.lineLength line with
  | none => .error (.noSuchLine line f.lineCount)
  | some length =>
    if offset > length then .error (.beyondLine line offset length) else .ok ⟨line, offset⟩

/-- The span between two places of the file, the first of which precedes the second. -/
def span (f : SourceFile) (start stop : Position) : Except SpanError Span := do
  let first ← f.position start.line start.offset
  let last ← f.position stop.line stop.offset
  if first.Before last then return ⟨first, last⟩
  throw (.empty start stop)

/-- The span of a token on its own line. -/
def tokenSpan (f : SourceFile) (t : Token) : Except SpanError Span :=
  match t.column with
  | 0 => .error (.zeroColumn t.line)
  | offset + 1 =>
    let stop := offset + t.charLength
    if stop < wordLimit then f.span ⟨t.line, offset⟩ ⟨t.line, stop⟩
    else .error (.beyondLine t.line offset ((f.lineLength t.line).getD 0))

end SourceFile

/-- The files under analysis, keyed by path. -/
abbrev AnalysisSet := PathMap SourceFile

namespace AnalysisSet

/-- Adds a file, or replaces the one of the same path. -/
def add (s : AnalysisSet) (f : SourceFile) : AnalysisSet :=
  PathMap.insert s f.path f

end AnalysisSet

end CloneScan
