import CloneScan.Token

/-!
# Events

What a visitor sees of a source file: the syntax tree in reading order, as a flat list. A
named inner node opens and closes; tokens and comments stand between, and a comment is never
a token.

## Main definitions

* `Comment`: A comment and where it starts.
* `Event`: One step of the reading.
* `Event.opens`, `Event.closes`: The step opens or closes a node of a kind.
-/

namespace CloneScan

/-- A comment as it stands in the source, its delimiters included. -/
structure Comment where
  text : String
  /-- The line it starts on, counted from one. -/
  line : Nat
  /-- The character it starts at, counted from one. -/
  column : Nat
  deriving Repr, DecidableEq, Inhabited

/-- One step of reading a syntax tree. -/
inductive Event where
  /-- A named inner node begins. -/
  | enter (kind : String) (line : Nat)
  /-- A named inner node is complete. -/
  | leave (kind : String)
  | token (t : Token)
  | comment (c : Comment)
  deriving Repr, DecidableEq, Inhabited

namespace Event

/-- The step opens a node of the given kind. -/
def opens (kind : String) : Event → Bool
  | enter k _ => k == kind
  | _ => false

/-- The step closes a node of the given kind. -/
def closes (kind : String) : Event → Bool
  | leave k => k == kind
  | _ => false

/-- The token of a step that is one. -/
def token? : Event → Option Token
  | token t => some t
  | _ => none

/-- The comment of a step that is one. -/
def comment? : Event → Option Comment
  | comment c => some c
  | _ => none

end Event

/-- The kind of the nodes that define functions. -/
def functionDefinition : String :=
  "function_definition"

end CloneScan
