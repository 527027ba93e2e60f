import CloneScan.FileSystem
import CloneScan.Report
import CloneScan.Text.LowerCase
import CloneScan.Visitor.Group

/-!
# Scanning Files

Which files a scan looks at, and what it makes of each. A path that names a directory stands
for the source files below it, told by their extensions; a path that names anything else
stands for itself. The entries of a directory are taken in the order of their names, whatever
order the system lists them in, and a directory is gone through where its name stands. One that
cannot be listed, however deep, is in the way of the whole search. A directory that can be listed
while no name can be looked up in it has only names to show, and they count as those of files.

Files are scanned one after the other. One that cannot be read, or on which a visitor fails,
has that in its report, and the scan goes on.

## Main definitions

* `Scanner`: A file system, a grammar and the extensions of source files.
* `Scanner.joinParts`: Lists one after the other, unless one of them has a fault.
* `Scanner.collectFiles`: The files that paths stand for.
* `Scanner.scanFile`, `Scanner.scanFiles`: Takes visitors over files.
* `Scanner.scanDirectory`: Takes visitors over the files below a directory.
* `AnalysisSet.ofPaths`, `AnalysisSet.ofReadable`: Reads files into an analysis set.
-/

namespace CloneScan

/-- What a scan works with. -/
structure Scanner where
  files : FileSystem
  grammar : Grammar
  /-- The extensions of source files. -/
  extensions : List String

namespace Scanner

/-- A name is that of a source file: its extension is one of those given, in either case. -/
def isSource (extensions : List String) (name : RawText) : Bool :=
  match Path.extensionOf name with
  | none => false
  | some e => extensions.any fun known => Text.lowerCase known == Text.lowerCase e.shown

/-- Entries in the order of their names, byte by byte. -/
def inOrder {α : Type} (entries : List (RawText × α)) : List (RawText × α) :=
  entries.mergeSort fun a b => decide (a.1.bytes ≤ b.1.bytes)

/-- The members of several lists, one list after the other; the first fault that stands in the
    place of a list, if there is one. -/
def joinParts {α : Type} : List (Except Fault (List α)) → Except Fault (List α)
  | [] => .ok []
  | part :: rest => do return (← part) ++ (← joinParts rest)

/-- What is no directory: the path that leads to it, when it is called like a source file. -/
def ownName (s : Scanner) (name : RawText) (path : Path) : List Path :=
  if isSource s.extensions name then [path] else []

/-- The files below the entry that stands at `names` and that `path` leads to; the entry itself
    when it is no directory but is called like a source file. A link is followed as long as
    links may be, and counts as a file where it leads nowhere. -/
def collectEntry (s : Scanner) (links : Nat) (names : List RawText) (name : RawText)
    (path : Path) : Entry → Except Fault (List Path)
  | .file _ => .ok (s.ownName name path)
  | .directory access entries =>
    match access.refusal with
    | some cause => .error (.unlistable cause)
    | none => joinParts <| (inOrder entries).attach.map fun ⟨(n, e), _⟩ =>
      if access.search.isSome then .ok (s.ownName n (path.join n))
      else collectEntry s links (names ++ [n]) n (path.join n) e
  | .link target =>
    match links, FileSystem.piecesFrom names.dropLast target with
    | links + 1, some (start, pieces) =>
      match _ : s.files.follow links start pieces with
      | .ok place => collectEntry s place.links place.names name path place.entry
      | .error _ => .ok (s.ownName name path)
    | _, _ => .ok (s.ownName name path)
  termination_by e => (links, sizeOf e)
  decreasing_by
  · rename_i member _
    have := List.sizeOf_lt_of_mem (List.mem_mergeSort.mp member)
    apply Prod.Lex.right
    simp only [Prod.mk.sizeOf_spec, Entry.directory.sizeOf_spec] at this ⊢
    omega
  · exact Prod.Lex.left _ _ (Nat.lt_succ_of_le (FileSystem.links_le_of_follow ‹_›))

/-- The files that a path stands for. -/
def collectPath (s : Scanner) (path : Path) : Except Fault (List Path) :=
  match s.files.lookUp path with
  | .error _ => .error (.noSuchPath path)
  | .ok place =>
    if place.entry.isDirectory then
      s.collectEntry place.links place.names path.text path place.entry
    else .ok [path]

/-- The files that paths stand for, path by path. -/
def collectFiles (s : Scanner) (paths : List Path) : Except Fault (List Path) :=
  joinParts (paths.map s.collectPath)

/-- The unit of the file that a path leads to. -/
def parseFile (s : Scanner) (path : Path) : Except Fault (Logged TranslationUnit) := do
  return TranslationUnit.parse s.grammar path (← s.files.readText path)

variable {σ : Type}

/-- Takes visitors over a file. A file that cannot be read shows them nothing. -/
def scanFile (s : Scanner) (group : VisitorGroup σ) (path : Path) (state : σ) :
    Logged (FileReport × σ) :=
  match s.parseFile path with
  | .error fault => do
    Logged.note .warn s!"skipping file: {fault.message}" [("file", .text path.shown)]
    return ({ FileReport.ofPath path with errors := [fault.message] }, state)
  | .ok parsing => do
    let unit ← parsing
    if unit.hasErrors then
      Logged.note .debug "syntax errors, positions may be unreliable" [("file", .text path.shown)]
    let run ← group.run unit (Context.ofPath path) state
    return (⟨path, run.context.findings, unit.hasErrors, run.complaints⟩, run.state)

/-- Takes visitors over further files, one after the other. -/
def scanOnto (s : Scanner) (group : VisitorGroup σ) (summary : Summary) (state : σ) :
    List Path → Logged (Summary × σ)
  | [] => pure (summary, state)
  | path :: rest => do
    let (report, next) ← s.scanFile group path state
    s.scanOnto group (summary.add report) next rest

/-- Takes visitors over files, one after the other. -/
def scanFiles (s : Scanner) (group : VisitorGroup σ) (paths : List Path) (state : σ) :
    Logged (Summary × σ) :=
  s.scanOnto group Summary.empty state paths

/-- Takes visitors over the source files below a directory. -/
def scanDirectory (s : Scanner) (group : VisitorGroup σ) (directory : Path) (state : σ) :
    Except Fault (Logged (Summary × σ)) := do
  if !s.files.isDirectory directory then throw (.noSuchDirectory directory)
  return s.scanFiles group (← s.collectFiles [directory]) state

end Scanner

namespace SourceFile

/-- Measures the file that a path leads to. -/
def ofPath (fs : FileSystem) (path : Path) : Except Fault SourceFile := do
  return ofText path (← fs.readText path)

end SourceFile

namespace AnalysisSet

/-- The files that paths lead to. All of them must be readable. -/
def ofPaths (fs : FileSystem) (paths : List Path) : Except Fault AnalysisSet :=
  paths.foldlM (fun set path => do return AnalysisSet.add set (← SourceFile.ofPath fs path)) .empty

/-- Adds those of the files that can be read. The others are left out, which is logged. -/
def addReadable (fs : FileSystem) (set : AnalysisSet) : List Path → Logged AnalysisSet
  | [] => pure set
  | path :: rest =>
    match SourceFile.ofPath fs path with
    | .ok file => addReadable fs (AnalysisSet.add set file) rest
    | .error fault => do
      Logged.note .debug s!"not added to analysis set: {fault.message}"
        [("file", .text path.shown)]
      addReadable fs set rest

/-- Those of the files that paths lead to that can be read. -/
def ofReadable (fs : FileSystem) (paths : List Path) : Logged AnalysisSet :=
  addReadable fs .empty paths

end AnalysisSet

end CloneScan
