import CloneScan.ImagePolicy

/-!
# Settings

What a run is told besides the files: what does not matter when code is compared, which
comments to report and how, and which files of a directory are sources.

## Main definitions

* `Settings`: The settings of a run.
* `Settings.initial`: The settings when nothing is said.
-/

namespace CloneScan

/-- The settings of a run. -/
structure Settings where
  /-- What does not matter when code is compared. -/
  policy : ImagePolicy
  /-- The pattern of the comments to report; none are reported without it. -/
  commentPattern : Option String
  /-- What to say of such a comment. -/
  commentMessage : Option String
  /-- The extensions of the files that are scanned when a directory is given. -/
  extensions : List String
  deriving Repr, DecidableEq

namespace Settings

/-- The extensions of source files. -/
def sourceExtensions : List String :=
  ["c", "cc", "cpp", "cxx", "c++", "h", "hh", "hpp", "hxx", "h++", "ipp"]

/-- The settings when nothing is said. -/
def initial : Settings :=
  ⟨.exact, none, none, sourceExtensions⟩

end Settings

end CloneScan
