import CloneScan.Fault

/-!
# File Systems

A finite file system, as far as a scan looks at one: files with their text, directories with
their entries, and symbolic links. The program runs in one of its directories, and every path
that does not begin with a slash is meant from there.

Not everything that is there can be read. A file may have no text, or refuse to be opened. A
directory says for itself whether names may be looked up in it, whether it may be opened, and
whether its listing comes to an end; each of these may be refused while the others are not.

A path is looked up piece by piece. Every piece but the last must lead to a directory in which
names may be looked up, and the whole path must lead to a directory when a slash ends it. A
symbolic link is followed wherever it stands in the path; what it says is looked up from the
directory it is in. There is a limit to the links on one way, so that links in a circle lead
nowhere.

## Main definitions

* `Access`: What may be done with a directory.
* `Entry`: What a name in a directory stands for.
* `FileSystem`: The top directory and the one the program runs in.
* `FileSystem.lookUp`: What a path leads to.
* `FileSystem.isDirectory`: The path leads to a directory.
* `FileSystem.readText`: The text of a file.
* `FileSystem.put`: Adds an entry.

## Theorems

* `FileSystem.links_le_of_follow`: Looking up a path never gives back links.
-/

namespace CloneScan

/-- What may be done with a directory: for each thing the cause why it may not, if there is
    one. -/
structure Access where
  /-- Why no name can be looked up in it. -/
  search : Option ReadError
  /-- Why it cannot be opened. -/
  opening : Option ReadError
  /-- Why its listing breaks off. -/
  listing : Option ReadError
  deriving Repr, DecidableEq, Inhabited

namespace Access

/-- Everything may be done. -/
def full : Access :=
  ⟨none, none, none⟩

/-- Nothing may be done, for want of permission. -/
def denied : Access :=
  ⟨some .permissionDenied, some .permissionDenied, none⟩

/-- Why the entries cannot be told. -/
def refusal (a : Access) : Option ReadError :=
  a.opening <|> a.listing

end Access

/-- What a name in a directory stands for. -/
inductive Entry where
  /-- A file, with its text or the cause why that cannot be read. -/
  | file (content : Except ReadError String)
  /-- A symbolic link, with the path it says. -/
  | link (target : Path)
  /-- A directory, with its entries in the order the system lists them. -/
  | directory (access : Access) (entries : List (RawText × Entry))
  deriving Repr, Inhabited

namespace Entry

/-- The file with the given text, or one that holds none. -/
def ofText? (text : Option String) : Entry :=
  file (text.elim (.error .notText) .ok)

/-- The file with the given bytes. -/
def ofBytes (bytes : ByteArray) : Entry :=
  ofText? (String.fromUTF8? bytes)

/-- The entry is a directory. -/
def isDirectory : Entry → Bool
  | directory _ _ => true
  | _ => false

/-- What a name stands for in a directory. -/
def child? (name : RawText) : Entry → Option Entry
  | directory _ entries => entries.lookup name
  | _ => none

/-- The entries of a directory; none of anything else. -/
def entries : Entry → List (RawText × Entry)
  | directory _ es => es
  | _ => []

/-- A directory with other entries than it has, and one that may be used freely in the place of
    anything else. -/
def withEntries (es : List (RawText × Entry)) : Entry → Entry
  | directory access _ => directory access es
  | _ => directory .full es

/-- Why a piece of a path cannot be followed from here, if so. It takes a directory, and one in
    which names may be looked up unless the piece is empty. -/
def hindrance (piece : List UInt8) : Entry → Option ReadError
  | directory access _ => if piece = [] then none else access.search
  | _ => some .notDirectory

/-- The entry with a new one at the end of a way down. Directories are made on the way where
    there are none, and a directory that is there keeps what is in it. -/
def put (new : Entry) : List RawText → Entry → Entry
  | [], old => if new.isDirectory && old.isDirectory then old else new
  | name :: rest, old =>
    match old.child? name with
    | some below =>
      old.withEntries (old.entries.map fun e =>
        if e.1 = name then (name, put new rest below) else e)
    | none => old.withEntries (old.entries ++ [(name, put new rest (directory .full []))])

/-- What a way down leads to, by the names along it. -/
def descend : List RawText → Entry → Option Entry
  | [], e => some e
  | name :: rest, e => (e.child? name).bind (descend rest)

end Entry

/-- A file system with a program running in it. -/
structure FileSystem where
  /-- What may be done with the top directory. -/
  access : Access
  /-- The entries of the top directory. -/
  entries : List (RawText × Entry)
  /-- The names from the top down to the directory the program runs in, no link among them. -/
  workingDirectory : List RawText
  deriving Repr

/-- Where a path leads: the names from the top directory down, no link among them, what stands
    there, and how many links may still be followed on the way further. -/
structure Place where
  /-- The names from the top directory down. -/
  names : List RawText
  /-- What stands there. -/
  entry : Entry
  /-- The links that may still be followed. -/
  links : Nat
  deriving Repr

namespace FileSystem

/-- The top directory as an entry. -/
def root (fs : FileSystem) : Entry :=
  .directory fs.access fs.entries

/-- The file system whose only directories are those down to the one the program runs in. -/
def emptyAt (workingDirectory : List RawText) : FileSystem :=
  ⟨.full, (Entry.put (.directory .full []) workingDirectory (.directory .full [])).entries,
    workingDirectory⟩

/-- The file system with an entry at the names along a path. -/
def put (fs : FileSystem) (path : Path) (e : Entry) : FileSystem :=
  let start := if path.isAbsolute then [] else fs.workingDirectory
  { fs with entries := (Entry.put e (start ++ path.names) fs.root).entries }

/-- The place of some names, if they lead anywhere. -/
def placeAt (fs : FileSystem) (names : List RawText) (links : Nat) : Except ReadError Place :=
  match fs.root.descend names with
  | some e => .ok ⟨names, e, links⟩
  | none => .error .notFound

/-- What a path says when it is meant from the directory at `names`: the names to start from and
    the pieces to follow. One that begins with a slash starts at the top, and the empty path
    leads nowhere. -/
def piecesFrom (names : List RawText) (path : Path) :
    Option (List RawText × List (List UInt8)) :=
  if path.text.isEmpty then none
  else
    let pieces := splitSlashes path.text.bytes
    some (if pieces.head? = some [] then [] else names, pieces)

/-- Looks up the pieces of a path from the directory at `names`. Each link that is followed uses
    up one of `links`, and each piece is used up itself. -/
def follow (fs : FileSystem) :
    Nat → List RawText → List (List UInt8) → Except ReadError Place
  | links, names, [] => fs.placeAt names links
  | links, names, piece :: rest =>
    match fs.placeAt names links with
    | .error cause => .error cause
    | .ok here =>
      match here.entry.hindrance piece with
      | some cause => .error cause
      | none =>
        if piece = [] ∨ piece = [dot] then follow fs links names rest
        else if piece = [dot, dot] then follow fs links names.dropLast rest
        else match here.entry.child? ⟨piece⟩, links with
          | none, _ => .error .notFound
          | some (.link _), 0 => .error .tooManyLinks
          | some (.link target), links + 1 =>
            match piecesFrom names target with
            | none => .error .notFound
            | some (start, pieces) => follow fs links start (pieces ++ rest)
          | some _, links => follow fs links (names ++ [⟨piece⟩]) rest
  termination_by links _ pieces => (links, pieces.length)

/-- Looking up a path never gives back links. -/
theorem links_le_of_follow {fs : FileSystem} {links : Nat} {names : List RawText}
    {pieces : List (List UInt8)} {place : Place} (h : fs.follow links names pieces = .ok place) :
    place.links ≤ links := by
  fun_induction follow fs links names pieces <;> grind [placeAt]

/-- How many links one way may follow. -/
def linkLimit : Nat :=
  40

/-- What a path leads to. -/
def lookUp (fs : FileSystem) (path : Path) : Except ReadError Place :=
  match piecesFrom fs.workingDirectory path with
  | none => .error .notFound
  | some (start, pieces) => fs.follow linkLimit start pieces

/-- The path leads to a directory. -/
def isDirectory (fs : FileSystem) (path : Path) : Bool :=
  match fs.lookUp path with
  | .ok place => place.entry.isDirectory
  | .error _ => false

/-- The text of the file that a path leads to. -/
def readText (fs : FileSystem) (path : Path) : Except Fault String :=
  match fs.lookUp path with
  | .error cause => .error (.unreadable path cause)
  | .ok place =>
    match place.entry with
    | .directory access _ => .error (.unreadable path (access.opening.getD .isDirectory))
    | .file (.ok text) => .ok text
    | .file (.error cause) => .error (.unreadable path cause)
    | .link _ => .error (.unreadable path .tooManyLinks)

end FileSystem

end CloneScan
