import CloneScan.Proofs.Scan.Files
import CloneScan.Run
import Mathlib

/-!
# The Outcome of a Run

What a run comes to, once its files are known and its pattern can be read. A run reads each file
twice, first to measure it and then to parse it, and takes two visitors with a state of their own
over all files in turn. `outcome_of_run` says the outcome without any of that: there is one report
for every file that the paths stand for, and one list of clone tokens for every file among them that
holds a text, both as if that file had been the only one.

Files are named more than once when paths overlap, or when a path is spelled in two ways. Each
naming gives a report. The clone tokens are kept by path, so they are listed once, where the file
was first named.

## Main definitions

* `Scanner.outcome`: The reports and the clone tokens of several files.
* `savesAlone`: What a single file hands over.
* `totalsLine`: The last line of the plain report.

## Theorems

* `run_value`: A run ends before its scan, or comes to the outcome of its files.
* `Outcome.render_totals`: The plain report ends in the totals.
* `Scanner.summary_outcome`, `Scanner.clones_outcome`: The two halves of an outcome.
* `outcome_of_run`: The outcome of a run, file by file.
-/

namespace CloneScan

/-- What scanning several files comes to: their reports and what the store holds. -/
def Scanner.outcome (s : Scanner) (rule : CommentRule) (policy : ImagePolicy)
    (paths : List Path) : Outcome :=
  ⟨(paths.map (s.reportOn rule)).foldl Summary.add .empty,
    (CloneStore.empty.saveAll (paths.filterMap
      (s.saveOf policy (AnalysisSet.ofReadable s.files paths).value))).report⟩

/-- What the walk of a single file saves, with that file alone under analysis. -/
def savesAlone (policy : ImagePolicy) (grammar : Grammar) (path : Path) (text : String) :
    List (SourceFile × List CloneToken) :=
  (walk Collector.visitor (TranslationUnit.ofParsed path text (grammar text)) (.ofPath path)
    (Collector.idle policy (AnalysisSet.add .empty (.ofText path text)) [])).value.state.receiver

theorem savesAlone_eq (policy : ImagePolicy) (grammar : Grammar) (path : Path) (text : String) :
    savesAlone policy grammar path text
      = [(.ofText path text, cloneTokensIn policy grammar text (.ofText path text))] := by
  have hfind : (AnalysisSet.add .empty (.ofText path text)).find? path
      = some (.ofText path text) :=
    (PathMap.find?_insert .empty path path _).trans (if_pos (Path.Same.refl path))
  have hcontext : (Context.ofPath path).path = path := rfl
  rw [savesAlone, walk_idle, hcontext, hfind]
  rfl

/-- A run that comes to an outcome has printed all of it. -/
theorem Run.ofOutcome_eq_ok {o outcome : Outcome} {format : ReportFormat}
    (h : (Run.ofOutcome o format).result = .ok outcome) :
    outcome = o ∧ o.render format = .ok (Run.ofOutcome o format).printed := by
  unfold Run.ofOutcome at h ⊢
  cases hrender : o.render format with
  | error begun => rw [hrender] at h; cases h
  | ok text =>
      rw [hrender] at h
      exact ⟨(Except.ok.inj h).symm, rfl⟩

/-- A run ends before its scan where the files cannot be told or the pattern is none. Otherwise it
    comes to the outcome of its files, and prints it as far as it can be printed. -/
theorem run_value (o : Options) (fs : FileSystem) (grammar : Grammar) :
    (run o fs grammar).value =
      match Scanner.collectFiles ⟨fs, grammar, o.settings.extensions⟩ o.paths with
      | .error fault => ⟨.error fault, ""⟩
      | .ok files =>
        match CommentRule.make (o.settings.commentPattern.getD "")
            (o.settings.commentMessage.getD CommentRule.defaultMessage) with
        | .error fault => ⟨.error fault, ""⟩
        | .ok rule =>
          .ofOutcome (Scanner.outcome ⟨fs, grammar, o.settings.extensions⟩ rule
            o.settings.policy files) o.format := by
  unfold run Options.prepare
  cases hfiles : Scanner.collectFiles ⟨fs, grammar, o.settings.extensions⟩ o.paths with
  | error fault => simp only [Logged.value_bind, Logged.value_pure, hfiles]
  | ok files =>
      cases hrule : CommentRule.make (o.settings.commentPattern.getD "")
          (o.settings.commentMessage.getD CommentRule.defaultMessage) with
      | error fault =>
          simp only [Logged.value_bind, Logged.value_pure, hfiles, hrule, Except.map]
      | ok rule =>
          have hscan := Scanner.scanOnto_value ⟨fs, grammar, o.settings.extensions⟩ rule
            o.settings.policy (AnalysisSet.ofReadable fs files).value files .empty .empty
          rw [Scanner.visitors] at hscan
          simp only [Logged.value_bind, Logged.value_pure, hfiles, hrule, Except.map,
            Scanner.scanFiles, hscan, Scanner.outcome]
          rfl

/-- The last line of the plain report. -/
def totalsLine (files failed tokens issues : Nat) : String :=
  s!"Scanned {files} file(s), {failed} failed, " ++ s!"{tokens} cpd token(s), {issues} issue(s)"

namespace Outcome

theorem tokenCount_eq_sum (o : Outcome) :
    o.tokenCount = (o.clones.map fun s => s.tokens.length).sum := by
  rw [tokenCount, List.sum_eq_foldl, List.foldl_map]

theorem length_findings (s : Summary) :
    s.findings.length = (s.reports.map fun r => r.findings.length).sum := by
  simp only [Summary.findings, List.length_flatMap, List.length_map]

/-- The plain report ends in a line with the totals of the outcome. -/
theorem render_totals (o : Outcome) :
    ∃ before : List String, o.render .text = .ok (String.join (before.map (· ++ "\n")) ++
      (totalsLine o.summary.processed o.summary.failed
        (o.clones.map fun s => s.tokens.length).sum
        (o.summary.reports.map fun r => r.findings.length).sum ++ "\n")) := by
  rw [render, lines, List.map_append, String.join_append, ← tokenCount_eq_sum, ← length_findings,
    totalsLine, List.map_singleton, String.join_cons, String.join_nil, String.append_empty]
  exact ⟨_, rfl⟩

end Outcome

namespace Scanner

variable (s : Scanner) (rule : CommentRule) (policy : ImagePolicy) (paths : List Path)

/-- The reports of several files, and how many of them failed. -/
theorem summary_outcome :
    (s.outcome rule policy paths).summary
      = ⟨paths.length, paths.countP fun path => !s.files.isText path,
        paths.map (s.reportOn rule)⟩ := by
  have hsuccess : ∀ path, (s.reportOn rule path).isSuccess = s.files.isText path := by
    intro path
    rw [reportOn, FileSystem.isText]
    cases s.files.readText path with
    | error fault => rfl
    | ok text => rfl
  simp only [outcome, Summary.foldl_add, List.length_map, List.countP_map, Summary.empty,
    Nat.zero_add, List.nil_append, Function.comp_def, hsuccess]

/-- The clone tokens of several files: one list for each that holds a text, where it was first
    named, and it is the list that the file alone would give. -/
theorem clones_outcome :
    List.Forall₂
      (fun path (stream : CloneStream) => stream.path.Same path ∧
        ∃ text, s.files.readText path = .ok text ∧
          savesAlone policy s.grammar path text = [(.ofText path text, stream.tokens)])
      (Path.firsts (paths.filter s.files.isText)) (s.outcome rule policy paths).clones := by
  refine (CloneStore.report_saveAll policy (s.covers_ofReadable paths)).imp ?_
  rintro path stream ⟨-, hsame, text, htext, htokens⟩
  exact ⟨hsame, text, htext, by rw [savesAlone_eq, htokens]⟩

/-- The clone tokens of several files go by paths of these. -/
theorem path_mem_of_clones {stream : CloneStream}
    (h : stream ∈ (s.outcome rule policy paths).clones) : stream.path ∈ paths := by
  have hreport := CloneStore.report_saveAll policy (s.covers_ofReadable paths)
  rcases List.mem_iff_getElem.mp h with ⟨i, hi, rfl⟩
  rcases List.forall₂_iff_get.mp hreport with ⟨hlength, hget⟩
  exact (hget i (hlength ▸ hi) hi).1

end Scanner

/-- No two lists go by the same path, where each goes by the path of its own first spelling. -/
theorem pairwise_clones {paths : List Path} {clones : List CloneStream}
    (h : List.Forall₂ (fun path (stream : CloneStream) => stream.path.Same path)
      (Path.firsts paths) clones) :
    clones.Pairwise fun a b => ¬ a.path.Same b.path := by
  rw [List.forall₂_iff_get] at h
  rw [List.pairwise_iff_getElem]
  intro i j hi hj hij hsame
  have hi' : i < (Path.firsts paths).length := h.1 ▸ hi
  have hj' : j < (Path.firsts paths).length := h.1 ▸ hj
  have hapart := List.pairwise_iff_getElem.mp (Path.pairwise_firsts paths) i j hi' hj' hij
  exact hapart ((h.2 i hi' hi).symm.trans (hsame.trans (h.2 j hj' hj)))

/-- A run that is not ended before its scan comes to one report for each file that the paths stand
    for, in order. A file that holds no text has one error and no findings, and counts as failed.
    Any other has the findings of the comment rule, and no error. The clone tokens are listed once
    for each file that holds a text, where it was first named, and are those that the file would
    give alone. The plain report ends in the totals of all that. -/
theorem outcome_of_run (o : Options) (fs : FileSystem) (grammar : Grammar) (outcome : Outcome)
    (hrun : (run o fs grammar).value.result = .ok outcome) :
    ∃ files rule,
      Scanner.collectFiles ⟨fs, grammar, o.settings.extensions⟩ o.paths = .ok files ∧
      CommentRule.make (o.settings.commentPattern.getD "")
        (o.settings.commentMessage.getD CommentRule.defaultMessage) = .ok rule ∧
      outcome.summary.reports = files.map (fun path =>
        match fs.readText path with
        | .error fault => ⟨path, [], false, [fault.message]⟩
        | .ok text => ⟨path, rule.findingsIn grammar path text, (grammar text).hasErrors, []⟩) ∧
      outcome.summary.processed = files.length ∧
      outcome.summary.failed = files.countP (fun path => !fs.isText path) ∧
      List.Forall₂
        (fun path (stream : CloneStream) => stream.path.Same path ∧
          ∃ text, fs.readText path = .ok text ∧
            savesAlone o.settings.policy grammar path text
              = [(.ofText path text, stream.tokens)])
        (Path.firsts (files.filter fs.isText)) outcome.clones ∧
      outcome.clones.Pairwise (fun a b => ¬ a.path.Same b.path) ∧
      (o.format = .text → ∃ before : List String,
        (run o fs grammar).value.printed = String.join (before.map (· ++ "\n")) ++
          (totalsLine files.length (files.countP fun path => !fs.isText path)
            (outcome.clones.map fun s => s.tokens.length).sum
            (outcome.summary.reports.map fun r => r.findings.length).sum ++ "\n")) := by
  rw [run_value] at hrun ⊢
  cases hfiles : Scanner.collectFiles ⟨fs, grammar, o.settings.extensions⟩ o.paths with
  | error fault => simp only [hfiles, reduceCtorEq] at hrun
  | ok files =>
      cases hrule : CommentRule.make (o.settings.commentPattern.getD "")
          (o.settings.commentMessage.getD CommentRule.defaultMessage) with
      | error fault => simp only [hfiles, hrule, reduceCtorEq] at hrun
      | ok rule =>
          simp only [hfiles, hrule] at hrun ⊢
          rcases Run.ofOutcome_eq_ok hrun with ⟨rfl, hrendered⟩
          have hsummary := Scanner.summary_outcome ⟨fs, grammar, o.settings.extensions⟩ rule
            o.settings.policy files
          have hclones := Scanner.clones_outcome ⟨fs, grammar, o.settings.extensions⟩ rule
            o.settings.policy files
          have hprocessed := congrArg Summary.processed hsummary
          have hfailed := congrArg Summary.failed hsummary
          refine ⟨files, rule, rfl, rfl, congrArg Summary.reports hsummary, hprocessed, hfailed,
            hclones, pairwise_clones (hclones.imp fun _ _ h => h.1), fun hformat => ?_⟩
          rcases Outcome.render_totals (Scanner.outcome ⟨fs, grammar, o.settings.extensions⟩ rule
            o.settings.policy files) with ⟨before, hbefore⟩
          rw [hprocessed, hfailed] at hbefore
          rw [hformat] at hrendered ⊢
          exact ⟨before, (Except.ok.inj (hbefore.symm.trans hrendered)).symm⟩

/-- A directory with one source file, and beside it a file that holds no text. -/
def sourceAndImage : FileSystem :=
  ⟨.full, [("x", .directory .full [("a.cpp", .file (.ok nestedText))]),
    ("b.cpp", .file (.error .notText))], []⟩

/-- Three paths, the first and the last of which lead to the same file. -/
def overlapping : Options :=
  ⟨[⟨"x"⟩, ⟨"b.cpp"⟩, ⟨"x//a.cpp"⟩], .initial, .text, false⟩

theorem collectFiles_overlapping :
    Scanner.collectFiles ⟨sourceAndImage, fun _ => nestedFunctions, overlapping.settings.extensions⟩
      overlapping.paths = .ok [⟨"x/a.cpp"⟩, ⟨"b.cpp"⟩, ⟨"x//a.cpp"⟩] := by
  cbv

/-- Three reports, one failure and one list of clone tokens. -/
theorem outcome_of_run_overlapping :
    ∃ outcome,
      (run overlapping sourceAndImage fun _ => nestedFunctions).value.result = .ok outcome ∧
      outcome.summary.processed = 3 ∧ outcome.summary.failed = 1 ∧ outcome.clones.length = 1 := by
  have hrun : (run overlapping sourceAndImage fun _ => nestedFunctions).value.result = .ok
      (Scanner.outcome ⟨sourceAndImage, fun _ => nestedFunctions, overlapping.settings.extensions⟩
        ⟨"", CommentRule.defaultMessage, none⟩ .exact [⟨"x/a.cpp"⟩, ⟨"b.cpp"⟩, ⟨"x//a.cpp"⟩]) := by
    rw [run_value, collectFiles_overlapping]
    rfl
  rcases outcome_of_run _ _ _ _ hrun with
    ⟨files, rule, hfiles, -, -, hprocessed, hfailed, hclones, -⟩
  obtain rfl := Except.ok.inj (hfiles.symm.trans collectFiles_overlapping)
  have hfailures : [⟨"x/a.cpp"⟩, ⟨"b.cpp"⟩, ⟨"x//a.cpp"⟩].countP
      (fun path => !sourceAndImage.isText path) = 1 := by cbv
  have hfirsts : (Path.firsts ([⟨"x/a.cpp"⟩, ⟨"b.cpp"⟩, ⟨"x//a.cpp"⟩].filter
      sourceAndImage.isText)).length = 1 := by cbv
  exact ⟨_, hrun, hprocessed, hfailed.trans hfailures, hclones.length_eq.symm.trans hfirsts⟩

end CloneScan
