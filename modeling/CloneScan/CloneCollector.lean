import CloneScan.CloneToken
import CloneScan.ImagePolicy
import CloneScan.Visitor.Basic

/-!
# The Clone Collector

The visitor that gathers clone tokens. It follows how deep in function definitions it is,
gives every token inside one its image and its span, and hands the tokens of a file over
when the file is left. A file outside the analysis set is followed for its functions alone.

A token whose span is refused is dropped with a note: sources that had to be mended can
leave tokens at places the file does not have. A file is handed over even when its functions
do not balance, and each file starts from nothing.

## Main definitions

* `Note`: A remark about a dropped token.
* `NoteChannel`: Where remarks go.
* `OpenFile`: What is known of the file being visited.
* `Collector`: The state of the visitor.
* `Collector.visitor`: The visitor.
-/

namespace CloneScan

/-- A remark about a place of a file. -/
structure Note where
  /-- What is to be said. -/
  message : String
  file : Path
  /-- The line, counted from one. -/
  line : Nat
  /-- The character of the line, counted from one. -/
  column : Nat
  deriving Repr, DecidableEq

/-- Where remarks go: into the log, or into a list that keeps them. -/
inductive NoteChannel where
  | logged
  | kept (notes : List Note)
  deriving Repr, DecidableEq

namespace NoteChannel

/-- Passes a remark on. -/
def post (c : NoteChannel) (n : Note) : Logged NoteChannel :=
  match c with
  | logged => do
    Logged.note .debug n.message
      [("file", .text n.file.shown), ("line", .number n.line), ("column", .number n.column)]
    return logged
  | kept notes => pure (kept (notes ++ [n]))

/-- The remarks that were kept. -/
def notes : NoteChannel → List Note
  | logged => []
  | kept notes => notes

end NoteChannel

/-- What is known of the file being visited. -/
structure OpenFile where
  /-- How deep in function definitions the visit is. -/
  depth : FunctionDepth
  /-- The tokens found so far; nothing for a file outside the analysis set. -/
  buffer : Option TokenBuffer
  deriving Repr, DecidableEq

/-- The state of the visitor that gathers clone tokens for a receiver of type `ε`. -/
structure Collector (ε : Type) where
  /-- What does not matter when code is compared. -/
  policy : ImagePolicy
  /-- The files under analysis. -/
  files : AnalysisSet
  /-- What the tokens of a file are handed to. -/
  receiver : ε
  /-- Where remarks go. -/
  channel : NoteChannel
  /-- The file being visited, if one is. -/
  current : Option OpenFile

namespace Collector

variable {ε : Type}

/-- A collector that visits no file, with its remarks going into the log. -/
def idle (policy : ImagePolicy) (files : AnalysisSet) (receiver : ε) : Collector ε :=
  ⟨policy, files, receiver, .logged, none⟩

/-- A file is being visited. -/
def isFileOpen (c : Collector ε) : Bool :=
  c.current.isSome

/-- A file begins. One that was never left is forgotten. -/
def enterFile : Hook (Collector ε) := fun context c => do
  if c.isFileOpen then
    Logged.note .warn "previous file was never left, discarding its cpd tokens"
      [("file", .text context.path.shown)]
  let buffer := (c.files.find? context.path).map TokenBuffer.onFile
  if buffer.isNone then
    Logged.note .trace "not in analysis set, no cpd tokens" [("file", .text context.path.shown)]
  return .ok { c with current := some ⟨.outside, buffer⟩ }

/-- A token of a file under analysis, inside a function: it is kept if it is code and its span
    lies in the file. -/
def takeToken (context : Context) (c : Collector ε) (file : OpenFile) (buffer : TokenBuffer)
    (t : Token) : Logged (Collector ε) :=
  match c.policy.image t with
  | none => pure c
  | some image =>
    match buffer.file.tokenSpan t with
    | .ok span =>
      pure { c with current := some { file with buffer := some (buffer.add span image) } }
    | .error cause => do
      let channel ← c.channel.post
        ⟨s!"CPD token dropped: {cause.message}", context.path, t.line, t.column⟩
      return { c with channel := channel }

/-- An event of the file being visited. -/
def seeEvent (e : Event) : Hook (Collector ε) := fun context c =>
  match c.current with
  | none => pure (.ok c)
  | some file =>
    match e with
    | .enter kind _ =>
      if kind = functionDefinition then
        pure (.ok { c with current := some { file with depth := file.depth.enter } })
      else pure (.ok c)
    | .leave kind =>
      if kind = functionDefinition then
        match file.depth.leave with
        | .ok depth => pure (.ok { c with current := some { file with depth := depth } })
        | .error cause => pure (.fail c (.unbalanced context.path cause))
      else pure (.ok c)
    | .token t =>
      if file.depth.isInside then
        match file.buffer with
        | none => pure (.ok c)
        | some buffer => do return .ok (← takeToken context c file buffer t)
      else pure (.ok c)
    | .comment _ => pure (.ok c)

/-- The file ends. Its tokens are handed over whether or not its functions balance. -/
def leaveFile [Receiver ε] : Hook (Collector ε) := fun context c =>
  match c.current with
  | none => pure (.ok c)
  | some file => do
    let receiver ← match file.buffer with
      | none => pure c.receiver
      | some buffer => buffer.flush c.receiver
    let closed := { c with receiver := receiver, current := none }
    match file.depth.finish with
    | .ok () => return .ok closed
    | .error cause => return .fail closed (.unbalanced context.path cause)

/-- The visitor that gathers clone tokens. -/
def visitor [Receiver ε] : Visitor (Collector ε) :=
  ⟨"CpdVisitor", enterFile, seeEvent, leaveFile⟩

end Collector

end CloneScan
