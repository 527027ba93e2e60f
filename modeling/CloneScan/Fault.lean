import CloneScan.FunctionDepth
import CloneScan.Path
import CloneScan.Regex.Pattern

/-!
# Faults

What can go wrong with a file, a directory, a setting, a report or a visit. A fault says what
happened and to what; how that reads is decided in one place, `Fault.message`.

## Main definitions

* `ReadError`: Why a file or a directory cannot be read.
* `Fault`: What went wrong.
* `Fault.message`: What went wrong, in words.
-/

namespace CloneScan

/-- Why a file or a directory cannot be read, or why a path leads nowhere. -/
inductive ReadError where
  | notFound
  | permissionDenied
  | isDirectory
  /-- A file stands where the path needs a directory. -/
  | notDirectory
  | tooManyLinks
  /-- The system failed in reading what is there. -/
  | inputOutput
  /-- The bytes are not the UTF-8 form of a text. -/
  | notText
  deriving Repr, DecidableEq

/-- Why a file or a directory cannot be read, in words. -/
def ReadError.message : ReadError → String
  | notFound => "No such file or directory (os error 2)"
  | permissionDenied => "Permission denied (os error 13)"
  | isDirectory => "Is a directory (os error 21)"
  | notDirectory => "Not a directory (os error 20)"
  | tooManyLinks => "Too many levels of symbolic links (os error 40)"
  | inputOutput => "Input/output error (os error 5)"
  | notText => "stream did not contain valid UTF-8"

/-- What went wrong. -/
inductive Fault where
  /-- A file could not be read as text. -/
  | unreadable (path : Path) (cause : ReadError)
  /-- A pattern could not be read. -/
  | badPattern (pattern : String) (cause : PatternError)
  /-- Settings could not be understood. -/
  | badSettings (reason : String)
  /-- The functions of a file do not open and close in pairs. -/
  | unbalanced (path : Path) (cause : DepthError)
  | noSuchPath (path : Path)
  | noSuchDirectory (path : Path)
  /-- A directory could not be listed. Which one it was is not told. -/
  | unlistable (cause : ReadError)
  /-- A path that is no text was to be written as one. -/
  | pathNotText
  deriving Repr, DecidableEq

/-- What went wrong, in words. -/
def Fault.message : Fault → String
  | unreadable path cause => s!"I/O error on {path.shown}: {cause.message}"
  | badPattern pattern cause =>
    s!"Unable to compile regular expression '{pattern}': {cause.message}"
  | badSettings reason => s!"Configuration error: {reason}"
  | unbalanced path cause => s!"Scope error in {path.shown}: {cause.message}"
  | noSuchPath path => s!"Path does not exist: {path.shown}"
  | noSuchDirectory path => s!"Source directory does not exist: {path.shown}"
  | unlistable cause => cause.message
  | pathNotText => "path contains invalid UTF-8 characters"

end CloneScan
