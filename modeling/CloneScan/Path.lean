import CloneScan.Text.Raw

/-!
# Paths

A path is the raw text it was given as, and that is what a report prints of it, as far as it
is a text. Two raw texts name the same path when they have the same components: runs of
slashes, a slash at the end and single dots after the start do not count. A dot at the very
start does, and two dots are never resolved, since what they lead to is a matter of the file
system.

The components are a view. `Path.Same` compares it, the containers keyed by path use it, and
the text is never rewritten to match.

## Main definitions

* `Path`: A path as it was written.
* `Component`: One step of a path.
* `Component.ofPieces`: The steps that the pieces of a path stand for.
* `Path.components`: The steps of a path.
* `Path.Same`: Two paths have the same steps.
* `Path.names`: The names along a path.
* `Path.join`: The path of an entry of a directory.
* `Path.extensionOf`: The extension of a file name.
* `Path.ofString`, `Path.text?`: A path from a text, and as a text if it is one.
* `Path.shown`: A path as a reader is shown it.
-/

namespace CloneScan

/-- A path as it was written. -/
structure Path where
  text : RawText
  deriving Repr, DecidableEq, Inhabited

/-- The byte between the pieces of a path. -/
def slash : UInt8 :=
  0x2F

/-- The byte in front of an extension. -/
def dot : UInt8 :=
  0x2E

/-- One step of a path. -/
inductive Component where
  | root
  /-- The directory the program runs in, written at the start of a path. -/
  | here
  /-- The directory above. -/
  | up
  /-- An entry of a directory. -/
  | name (bytes : List UInt8)
  deriving Repr, DecidableEq

/-- The pieces of a row of bytes between its slashes. -/
def splitSlashes : List UInt8 → List (List UInt8)
  | [] => [[]]
  | b :: rest =>
    if b = slash then [] :: splitSlashes rest
    else match splitSlashes rest with
      | [] => [[b]]
      | piece :: later => (b :: piece) :: later

/-- The step a piece stands for behind a slash: nothing for an empty one and for a single dot. -/
def Component.ofPiece? (piece : List UInt8) : Option Component :=
  if piece = [] ∨ piece = [dot] then none
  else if piece = [dot, dot] then some .up
  else some (.name piece)

/-- The step that the first piece of a path stands for. -/
def Component.ofFirst? (piece : List UInt8) : Option Component :=
  if piece = [] then some .root
  else if piece = [dot] then some .here
  else ofPiece? piece

/-- The steps that the pieces of a path stand for. -/
def Component.ofPieces : List (List UInt8) → List Component
  | [] => []
  | first :: rest => (ofFirst? first).toList ++ rest.filterMap ofPiece?

/-- The steps of a path. -/
def Path.components (p : Path) : List Component :=
  if p.text.isEmpty then [] else Component.ofPieces (splitSlashes p.text.bytes)

/-- Two paths have the same steps, and so stand for the same place. -/
def Path.Same (p q : Path) : Prop :=
  p.components = q.components

instance (p q : Path) : Decidable (p.Same q) :=
  inferInstanceAs (Decidable (p.components = q.components))

/-- The name a step gives, if it gives one. -/
def Component.name? : Component → Option RawText
  | name bytes => some ⟨bytes⟩
  | _ => none

namespace Path

/-- The path that is written as a text. -/
def ofString (s : String) : Path :=
  ⟨s⟩

/-- The path starts at the root. -/
def isAbsolute (p : Path) : Bool :=
  p.components.head? == some .root

/-- The names along a path, in order. -/
def names (p : Path) : List RawText :=
  p.components.filterMap Component.name?

/-- The path of an entry of the directory `p`. A slash goes between the two unless `p` ends in
    one already. -/
def join (p : Path) (entry : RawText) : Path :=
  if p.text.isEmpty || p.text.bytes.getLast? = some slash then ⟨p.text ++ entry⟩
  else ⟨p.text ++ "/" ++ entry⟩

/-- The extension of a file name: what follows its last dot, unless that dot comes first. A
    name that ends in a dot has the empty extension. -/
def extensionOf (name : RawText) : Option RawText :=
  let reversed := name.bytes.reverse
  match reversed.dropWhile (· ≠ dot) with
  | [] => none
  | [_] => none
  | _ :: _ :: _ =>
    if name = ".." then none else some ⟨(reversed.takeWhile (· ≠ dot)).reverse⟩

/-- A path as a text, if it is one. -/
def text? (p : Path) : Option String :=
  p.text.text?

/-- A path as a reader is shown it. -/
def shown (p : Path) : String :=
  p.text.shown

end Path

end CloneScan
