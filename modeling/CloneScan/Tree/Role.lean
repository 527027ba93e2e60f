import CloneScan.Event
import CloneScan.Tree.Basic
import CloneScan.Text.Lines
import CloneScan.Text.ByteIndex

/-!
# The Role of a Node

What a node of the syntax tree contributes to the events of its file. Most inner nodes are
brackets around what their children contribute; leaves, and literals whatever they are made
of, are tokens. Directives contribute nothing, and neither does the condition of a
conditional one: what they say concerns the file, not the program in it.

A node's role depends on its parent only for those conditions, which are ordinary expressions
told apart by the part they play there.

The second half places a node in its text. Rows and columns come from the parser in bytes;
an event gives the line and the character, both counted from one.

## Main definitions

* `Role`: What a node contributes.
* `role`: The role of a node below a given parent.
* `placeOf`: The line and character a node starts at.
* `tokenOf`, `commentOf`: The token or comment a node is.
* `endPlace`: The place just past the last character of a text.
-/

namespace CloneScan

/-- What a node contributes to the events of its file. -/
inductive Role where
  /-- A named inner node: brackets around what its children contribute. -/
  | branch
  /-- An anonymous inner node: what its children contribute. -/
  | transparent
  /-- One token, whatever is below. -/
  | token (kind : TokenKind)
  /-- One comment, whatever is below. -/
  | comment
  /-- Nothing, whatever is below. -/
  | skipped
  deriving Repr, DecidableEq

/-- The kinds of literal that are one token although the grammar divides them. -/
def wholeLiterals : List String :=
  ["string_literal", "raw_string_literal", "char_literal", "system_lib_string"]

/-- The directives that take no part in the events. -/
def directives : List String :=
  ["preproc_include", "preproc_def", "preproc_function_def", "preproc_call"]

/-- The part that holds the condition of a conditional directive, by the kind of directive. -/
def conditionField (directive : String) : Option String :=
  if directive = "preproc_if" ∨ directive = "preproc_elif" then some "condition"
  else if directive = "preproc_ifdef" ∨ directive = "preproc_elifdef" then some "name"
  else none

/-- The node is the condition, or the tested name, of a conditional directive above it. -/
def isCondition (parent : Option Node) (n : Node) : Bool :=
  match parent with
  | none => false
  | some p => n.field.isSome && n.field == conditionField p.kind

/-- The node takes part in no event: a directive, a mark that starts one, or a condition. -/
def isDirective (parent : Option Node) (n : Node) : Bool :=
  directives.contains n.kind || n.kind.toList.head? == some '#' || isCondition parent n

/-- The role of a tree below `parent`. A missing node is a token before all else; a comment is
    one wherever it stands. -/
def role (parent : Option Node) (t : SyntaxTree) : Role :=
  if t.node.missing then .token (TokenKind.ofNode t.node.kind)
  else if t.node.kind = "comment" then .comment
  else if isDirective parent t.node then .skipped
  else if wholeLiterals.contains t.node.kind || t.children.isEmpty then
    .token (TokenKind.ofNode t.node.kind)
  else if t.node.named then .branch
  else .transparent

/-- The role lets the children of a node contribute. -/
def Role.descends : Role → Bool
  | branch | transparent => true
  | token _ | comment | skipped => false

/-- The source text of a node; empty when its bytes are not a piece of the text. -/
def textOf (source : ByteIndex) (n : Node) : List Char :=
  (source.slice n.startByte n.stopByte).getD []

/-- The line and the character a node starts at, counted from one. Where the bytes before it on
    its line are not a piece of the text, the byte column stands in for the character. -/
def placeOf (source : ByteIndex) (n : Node) : Nat × Nat :=
  let before := source.slice (n.startByte - n.column) n.startByte
  (n.row + 1, (before.map List.length).getD n.column + 1)

/-- The place just past the last character of a text. -/
def endPlace (source : List Char) : Nat × Nat :=
  let lines := Text.lines source
  (lines.length, (lines.getLast?.getD []).length + 1)

/-- The token a node is. A missing node stands for the text its kind prescribes, and a node
    that covers nothing is no token at all. -/
def tokenOf (source : ByteIndex) (kind : TokenKind) (n : Node) : Option Token :=
  let place := placeOf source n
  if n.missing then some ⟨kind, n.kind, place.1, place.2, true⟩
  else if n.startByte = n.stopByte then none
  else some ⟨kind, String.ofList (textOf source n), place.1, place.2, false⟩

/-- The comment a node is. A line comment of a text with two-character line endings reaches to
    the carriage return, which is not part of what was written. -/
def commentOf (source : ByteIndex) (n : Node) : Comment :=
  let place := placeOf source n
  ⟨String.ofList (Text.withoutReturn (textOf source n)), place.1, place.2⟩

end CloneScan
