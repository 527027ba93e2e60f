import CloneScan.Archive
import CloneScan.Run

/-!
# The Program

Carries out one run: reads the command line and the archive on standard input, prints the
report, and writes the log to the error stream. It ends with 0 once there is a report, with 1
when the run cannot be carried out and with 2 when the command line is wrong. A report that
breaks off is printed as far as it goes.

## Main definitions

* `main`: The program.
-/

namespace CloneScan

/-- Says why there is no report. -/
def giveUp (reason : String) : IO UInt32 := do
  IO.eprintln s!"Error: {reason}"
  return 1

/-- Carries out a run on an archive. -/
def runOn (arguments : Arguments) (archive : Archive) : IO UInt32 := do
  let fs := archive.fileSystem
  match Options.ofArguments fs arguments with
  | .error fault => giveUp fault.message
  | .ok options =>
    let outcome := run options fs archive.grammar
    for record in outcome.records do
      if record.isShown options.debug then IO.eprintln record.render
    IO.print outcome.value.printed
    match outcome.value.result with
    | .error fault => giveUp fault.message
    | .ok told =>
      if !told.summary.isSuccess then
        IO.eprintln (LogRecord.render ⟨.warn, "some files could not be analyzed",
          [("failed", .number told.summary.failed)]⟩)
      return 0

end CloneScan

/-- The program. -/
def main (words : List String) : IO UInt32 := do
  match CloneScan.Arguments.ofWords words with
  | .error .displayHelp =>
    IO.print CloneScan.Arguments.usage
    return 0
  | .error .displayVersion =>
    IO.println CloneScan.Arguments.version
    return 0
  | .error cause =>
    IO.eprintln s!"error: {cause.message}"
    return 2
  | .ok arguments =>
    match CloneScan.Archive.ofText (← (← IO.getStdin).readToEnd) with
    | .error cause => CloneScan.giveUp s!"the archive cannot be read: {cause.message}"
    | .ok archive => CloneScan.runOn arguments archive
