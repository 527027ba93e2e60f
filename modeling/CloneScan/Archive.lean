import CloneScan.Exchange
import CloneScan.FileSystem
import CloneScan.Tree.Listing

/-!
# Archives

What the program is given to work on: the files it may look at and, for the sources among
them, the trees that a parser made of them, all in one JSON document. The program opens no
file and parses no source itself. Whoever lays down the archive has done both.

A member of an archive stands at a path. Its text is what a file says or where a link leads; a
file without text holds bytes that are none. A member that is closed is a file that nobody may
open, or a directory that nobody may open or look names up in. The trees come as listings, and a
source without one counts as a text the parser could make nothing of.

## Main definitions

* `TreeListing`: What a parser made of a source, as a listing.
* `Member`: What stands at a path.
* `Archive`: The members, and the directory the program runs in.
* `Archive.fileSystem`: The files of an archive.
* `Archive.grammar`: The parser that knows the sources of an archive.
* `Archive.ofText`: Reads an archive.
-/

namespace CloneScan

/-- What a parser made of a source, as a listing. -/
structure TreeListing where
  /-- The parser had to mend the source. -/
  hasErrors : Bool
  /-- The nodes of the tree, each before its children. -/
  nodes : List Listed
  deriving Repr, DecidableEq

/-- The parsed source of a listing, if its numbers add up to one tree. -/
def TreeListing.parsed? (l : TreeListing) : Option ParsedSource :=
  (SyntaxTree.ofListing? l.nodes).map fun root => ⟨root, l.hasErrors⟩

/-- What a member of an archive is. -/
inductive MemberKind where
  | file
  | link
  | directory
  deriving Repr, DecidableEq

/-- The name of what a member is. -/
def MemberKind.label : MemberKind → String
  | file => "file"
  | link => "link"
  | directory => "directory"

/-- What stands at a path. -/
structure Member where
  path : Path
  /-- What stands there. -/
  kind : MemberKind
  /-- The text of a file, or the path a link says. -/
  text : Option String
  /-- There is no permission to read it. -/
  closed : Bool
  /-- What a parser made of the text. -/
  tree : Option TreeListing
  deriving Repr, DecidableEq

/-- The entry of a file system that a member is. -/
def Member.entry (m : Member) : Entry :=
  match m.kind with
  | .file => if m.closed then .file (.error .permissionDenied) else .ofText? m.text
  | .link => .link (Path.ofString (m.text.getD ""))
  | .directory => .directory (if m.closed then .denied else .full) []

/-- The files a run may look at, with the trees of the sources. -/
structure Archive where
  /-- The directory the program runs in, as a path from the top. -/
  workingDirectory : Path
  /-- The members, in the order they are laid down. -/
  members : List Member
  deriving Repr, DecidableEq

namespace Archive

/-- The files of an archive. -/
def fileSystem (a : Archive) : FileSystem :=
  a.members.foldl (fun fs m => fs.put m.path m.entry) (.emptyAt a.workingDirectory.names)

/-- The texts whose trees an archive holds, with the trees. -/
def parsedTexts (a : Archive) : List (String × ParsedSource) :=
  a.members.filterMap fun m => do
    let text ← m.text
    let tree ← m.tree
    let parsed ← tree.parsed?
    return (text, parsed)

/-- The parser that knows the sources of an archive. -/
def grammar (a : Archive) : Grammar :=
  Grammar.ofParsedTexts a.parsedTexts

end Archive

/-! ## The JSON form -/

/-- The JSON form of a node in a listing. -/
def Listed.codec : Codec Listed :=
  Codec.record "Node"
    (.cons "kind" stringCodec none <| .cons "named" Codec.truth none <|
      .cons "missing" Codec.truth none <| .cons "children" sizeCodec none <|
      .cons "start_byte" sizeCodec none <| .cons "end_byte" sizeCodec none <|
      .cons "row" sizeCodec none <| .cons "column" sizeCodec none <|
      .cons "field" stringCodec.optional (some none) .nil)
    (fun (kind, named, missing, children, start, stop, row, column, field, _) =>
      ⟨⟨kind, named, missing, start, stop, row, column, field⟩, children⟩)
    (fun ⟨n, children⟩ => (n.kind, n.named, n.missing, children, n.startByte, n.stopByte, n.row,
      n.column, n.field, ()))

/-- The JSON form of a listing. -/
def TreeListing.codec : Codec TreeListing :=
  Codec.record "Tree"
    (.cons "has_error" Codec.truth none <| .cons "nodes" Listed.codec.list none .nil)
    (fun (hasErrors, nodes, _) => ⟨hasErrors, nodes⟩)
    (fun l => (l.hasErrors, l.nodes, ()))

/-- The JSON form of a member. -/
def Member.codec : Codec Member :=
  Codec.record "Member"
    (.cons "path" Path.codec none <|
      .cons "kind" (Codec.variant MemberKind.label [.file, .link, .directory]) (some .file) <|
      .cons "text" stringCodec.optional (some none) <|
      .cons "closed" Codec.truth (some false) <|
      .cons "tree" TreeListing.codec.optional (some none) .nil)
    (fun (path, kind, text, closed, tree, _) => ⟨path, kind, text, closed, tree⟩)
    (fun m => (m.path, m.kind, m.text, m.closed, m.tree, ()))

/-- The JSON form of an archive. -/
def Archive.codec : Codec Archive :=
  Codec.record "Archive"
    (.cons "directory" Path.codec (some ⟨"/"⟩) <| .cons "members" Member.codec.list none .nil)
    (fun (directory, members, _) => ⟨directory, members⟩)
    (fun a => (a.workingDirectory, a.members, ()))

/-- Reads an archive. -/
def Archive.ofText (text : String) : Except JsonError Archive :=
  Archive.codec.decode text

end CloneScan
