import CloneScan.CloneToken

/-!
# The Clone Store

A receiver that keeps the clone tokens of every file in memory. It holds the last tokens of
each path, in the order the paths first came, and beside them the paths of all saves.

## Main definitions

* `CloneStore`: The tokens by path, and the log of saves.
* `CloneStore.saveTokens`: Takes the tokens of a file.
* `CloneStore.report`: The tokens of every file.
-/

namespace CloneScan

/-- The clone tokens of every saved file. -/
structure CloneStore where
  /-- The last tokens of each path. -/
  files : PathMap (List CloneToken)
  /-- The path of every save, in order. -/
  flushes : List Path
  deriving Repr, Inhabited

namespace CloneStore

/-- The store that has saved nothing. -/
def empty : CloneStore :=
  ⟨.empty, []⟩

/-- Takes the tokens of a file, in place of any it had before. -/
def saveTokens (s : CloneStore) (path : Path) (tokens : List CloneToken) : CloneStore :=
  ⟨s.files.insert path tokens, s.flushes ++ [path]⟩

/-- The tokens of a file, if it was ever saved. -/
def tokens? (s : CloneStore) (path : Path) : Option (List CloneToken) :=
  s.files.find? path

/-- What the tokens of a file compare as; nothing when it was never saved. -/
def images (s : CloneStore) (path : Path) : List String :=
  ((s.tokens? path).getD []).map CloneToken.image

/-- How many times a file was saved. -/
def flushCount (s : CloneStore) (path : Path) : Nat :=
  s.flushes.countP fun flushed => flushed.Same path

/-- The number of files. -/
def fileCount (s : CloneStore) : Nat :=
  s.files.size

/-- The number of tokens of all files together. -/
def tokenCount (s : CloneStore) : Nat :=
  s.files.values.foldl (fun n tokens => n + tokens.length) 0

/-- The tokens of every file, in the order the files first came. -/
def report (s : CloneStore) : List CloneStream :=
  s.files.entries.map fun entry => ⟨entry.1, entry.2⟩

end CloneStore

/-- The store receives by saving under the path of the file, and says so. -/
instance : Receiver CloneStore where
  save f tokens s := do
    Logged.note .debug "saving cpd tokens"
      [("file", .text f.path.shown), ("tokens", .number tokens.length)]
    return s.saveTokens f.path tokens

end CloneScan
