/-!
# Syntax Trees

The tree a parser makes of a source file. The grammar is not this library's business: a
node says what it is by the name of its kind, and a parser is any function from a text to a
tree.

A node covers a range of bytes of the text and knows the row and the byte column where it
starts, both counted from zero. It is *named* when the grammar gives it a rule of its own,
*missing* when the parser put it in to mend a broken source. A child may play a named part
in its parent, its *field*.

## Main definitions

* `Node`: What a parser says about one node.
* `SyntaxTree`: A node with its children.
* `ParsedSource`: A tree, and whether the source had to be mended.
* `Grammar`: A parser.
* `Grammar.ofParsedTexts`: The parser that knows some texts.
-/

namespace CloneScan

/-- What a parser says about one node. -/
structure Node where
  /-- The kind of the node in the grammar. -/
  kind : String
  /-- The grammar has a rule of that name. -/
  named : Bool
  /-- The parser put the node in; nothing in the source stands for it. -/
  missing : Bool
  /-- The byte the node starts at. -/
  startByte : Nat
  /-- The byte after the last one of the node. -/
  stopByte : Nat
  /-- The row the node starts in, counted from zero. -/
  row : Nat
  /-- The byte of its row the node starts at, counted from zero. -/
  column : Nat
  /-- The part the node plays in its parent. -/
  field : Option String
  deriving Repr, DecidableEq, Inhabited

/-- A node with its children, in the order of the source. -/
inductive SyntaxTree where
  | mk (node : Node) (children : List SyntaxTree)
  deriving Repr, Inhabited

namespace SyntaxTree

/-- The node at the top of a tree. -/
def node : SyntaxTree → Node
  | mk n _ => n

/-- The trees below the node at the top. -/
def children : SyntaxTree → List SyntaxTree
  | mk _ cs => cs

mutual

/-- The number of nodes of a tree. -/
def size : SyntaxTree → Nat
  | mk _ cs => 1 + sizeAll cs

/-- The number of nodes of several trees. -/
def sizeAll : List SyntaxTree → Nat
  | [] => 0
  | t :: ts => size t + sizeAll ts

end

end SyntaxTree

/-- What a parser makes of a source file. -/
structure ParsedSource where
  root : SyntaxTree
  /-- The parser had to mend the source. -/
  hasErrors : Bool
  deriving Repr, Inhabited

/-- A parser: it makes a tree of every text. -/
abbrev Grammar := String → ParsedSource

/-- The parser that knows some texts. All others come out as nothing but a fault. -/
def Grammar.ofParsedTexts (known : List (String × ParsedSource)) : Grammar := fun text =>
  (known.lookup text).getD ⟨.mk ⟨"ERROR", true, false, 0, 0, 0, 0, none⟩ [], true⟩

end CloneScan
