import CloneScan.Log
import CloneScan.Path
import CloneScan.Tree.Reading

/-!
# Translation Units

A source file as visitors see it: its events in order, closed by the token that ends the
file. A source that had to be mended gives a unit like any other and says so.

## Main definitions

* `TranslationUnit`: The events of one file.
* `TranslationUnit.ofParsed`: The unit of a parsed source.
* `TranslationUnit.parse`: The unit of a text, by a grammar.
* `TranslationUnit.tokens`, `TranslationUnit.comments`: The tokens and comments of a unit.
-/

namespace CloneScan

/-- A source file as an ordered sequence of events. -/
structure TranslationUnit where
  /-- Where the source was read. -/
  path : Path
  /-- The events, in reading order. -/
  events : List Event
  /-- The parser had to mend the source. -/
  hasErrors : Bool
  deriving Repr, DecidableEq

namespace TranslationUnit

/-- The unit of a parsed source: the events of its tree, then the end of the file. -/
def ofParsed (path : Path) (source : String) (parsed : ParsedSource) : TranslationUnit :=
  let text := source.toList
  let stop := endPlace text
  let ending := Event.token (Token.endAt stop.1 stop.2)
  ⟨path, (Cursor.start parsed.root).read (.ofList text) ++ [ending], parsed.hasErrors⟩

/-- The unit of a text, as the grammar parses it. -/
def parse (grammar : Grammar) (path : Path) (source : String) : Logged TranslationUnit := do
  let unit := ofParsed path source (grammar source)
  Logged.note .debug "parsed translation unit"
    [("file", .text path.shown), ("events", .number unit.events.length),
      ("has_errors", .truth unit.hasErrors)]
  return unit

/-- The tokens of a unit, in order. -/
def tokens (u : TranslationUnit) : List Token :=
  u.events.filterMap Event.token?

/-- The comments of a unit, in order. -/
def comments (u : TranslationUnit) : List Comment :=
  u.events.filterMap Event.comment?

end TranslationUnit

end CloneScan
