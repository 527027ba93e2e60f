import CloneScan.CloneStore
import CloneScan.Visitor.Basic

/-!
# Reports

What a scan has to say: for every file its findings and the errors it met, for all files
together how many there were and how many failed, and beside that the clone tokens.

## Main definitions

* `FileReport`: What a scan found in one file.
* `Summary`: What a scan found in all files.
* `Summary.add`: The summary with one more file.
* `Outcome`: A summary with the clone tokens of every file.
-/

namespace CloneScan

/-- What a scan found in one file. -/
structure FileReport where
  path : Path
  /-- The findings of all rules, in the order they were reported. -/
  findings : List Finding
  /-- The parser had to mend the source. -/
  hasParseErrors : Bool
  /-- What went wrong with the file, one line each. -/
  errors : List String
  deriving Repr, DecidableEq

namespace FileReport

/-- The report on a file of which nothing is known yet. -/
def ofPath (path : Path) : FileReport :=
  ⟨path, [], false, []⟩

/-- Nothing went wrong with the file. -/
def isSuccess (r : FileReport) : Bool :=
  r.errors.isEmpty

end FileReport

/-- What a scan found in all files. -/
structure Summary where
  processed : Nat
  /-- The number of files with which something went wrong. -/
  failed : Nat
  /-- The reports on the files, in the order they were scanned. -/
  reports : List FileReport
  deriving Repr, DecidableEq

namespace Summary

/-- The summary of no files. -/
def empty : Summary :=
  ⟨0, 0, []⟩

/-- The summary with one more file. -/
def add (s : Summary) (r : FileReport) : Summary :=
  ⟨s.processed + 1, if r.isSuccess then s.failed else s.failed + 1, s.reports ++ [r]⟩

/-- The findings in all files, each with its file. -/
def findings (s : Summary) : List (Path × Finding) :=
  s.reports.flatMap fun r => r.findings.map fun f => (r.path, f)

/-- What went wrong with the files, each line with its file. -/
def errors (s : Summary) : List (Path × String) :=
  s.reports.flatMap fun r => r.errors.map fun e => (r.path, e)

/-- Nothing went wrong with any file. -/
def isSuccess (s : Summary) : Bool :=
  s.failed == 0

end Summary

/-- What a run has to say. -/
structure Outcome where
  /-- The findings and errors. -/
  summary : Summary
  /-- The clone tokens of every file that was read. -/
  clones : List CloneStream
  deriving Repr, DecidableEq

end CloneScan
