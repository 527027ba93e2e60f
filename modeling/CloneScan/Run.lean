import CloneScan.CloneCollector
import CloneScan.CommandLine
import CloneScan.CommentRule
import CloneScan.Scanner

/-!
# Runs

One run of the program, from its options to the text it prints. A path whose files cannot be
told and a pattern that is none end a run before anything is scanned or printed. One thing more
can end it, and that is found out only in printing: a JSON document takes paths that are texts.
Everything else is told in the report.

## Main definitions

* `Outcome.lines`: The lines of the plain report.
* `Outcome.render`: An outcome as text, in either format.
* `Run`: What a run came to and what it printed.
* `Run.ofOutcome`: Prints an outcome.
* `run`: Carries out a run.
-/

namespace CloneScan

namespace Outcome

/-- The number of clone tokens of all files together. -/
def tokenCount (o : Outcome) : Nat :=
  o.clones.foldl (fun n s => n + s.tokens.length) 0

/-- The lines of the plain report: findings, errors, the clone tokens of each file, and the
    totals. -/
def lines (o : Outcome) : List String :=
  (o.summary.findings.map fun (path, f) =>
    s!"{path.shown}:{f.line}: [{f.rule}] {f.message}") ++
  (o.summary.errors.map fun (path, e) => s!"{path.shown}: error: {e}") ++
  (o.clones.map fun s => s!"{s.path.shown}: {s.tokens.length} cpd token(s)") ++
  [s!"Scanned {o.summary.processed} file(s), {o.summary.failed} failed, " ++
    s!"{o.tokenCount} cpd token(s), {o.summary.findings.length} issue(s)"]

/-- An outcome as text, where every line is closed by a line feed. If there is something in it
    that has no JSON form, the error is the text of what stands in front of that. -/
def render (o : Outcome) : ReportFormat → Except String String
  | .text => .ok (String.join (o.lines.map (· ++ "\n")))
  | .json =>
    match Outcome.codec.write o with
    | .ok document => .ok (String.ofList document.indented ++ "\n")
    | .error begun => .error (String.ofList begun.indented)

end Outcome

/-- What a run came to and what it printed. -/
structure Run where
  /-- What the scan had to say, or what ended the run. -/
  result : Except Fault Outcome
  /-- What was printed. -/
  printed : String

/-- The run that comes to an outcome and prints it, unless the printing breaks off. -/
def Run.ofOutcome (o : Outcome) (format : ReportFormat) : Run :=
  match o.render format with
  | .ok text => ⟨.ok o, text⟩
  | .error begun => ⟨.error .pathNotText, begun⟩

/-- What a run needs before it scans: the files and the rule for comments. -/
def Options.prepare (o : Options) (scanner : Scanner) :
    Logged (Except Fault (List Path × CommentRule)) := do
  match scanner.collectFiles o.paths with
  | .error fault => return .error fault
  | .ok files =>
    Logged.note .info "scanning" [("files", .number files.length)]
    let message := o.settings.commentMessage.getD CommentRule.defaultMessage
    return (CommentRule.make (o.settings.commentPattern.getD "") message).map fun rule =>
      (files, rule)

/-- Carries out a run: gathers clone tokens, reports comments if a pattern is given, and prints
    the outcome. -/
def run (o : Options) (fs : FileSystem) (grammar : Grammar) : Logged Run := do
  let scanner : Scanner := ⟨fs, grammar, o.settings.extensions⟩
  match ← o.prepare scanner with
  | .error fault => return ⟨.error fault, ""⟩
  | .ok (files, rule) =>
    let set ← AnalysisSet.ofReadable fs files
    let collector := Collector.idle o.settings.policy set CloneStore.empty
    let comments := if rule.isActive then some rule.visitor else none
    let group := (VisitorGroup.one Collector.visitor).both (.optional comments)
    let (summary, last, _) ← scanner.scanFiles group files (collector, ())
    return .ofOutcome ⟨summary, last.receiver.report⟩ o.format

end CloneScan
