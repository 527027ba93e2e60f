import CloneScan.Proofs.Comment.Acceptance
import CloneScan.Proofs.Json.Writing
import CloneScan.Proofs.Scan.Collection
import CloneScan.Proofs.Scan.Outcome

/-!
# When a Run Fails

Three things end a run without a report. Two are found out before the first file is scanned, and
nothing is printed then: something is in the way of a path, or a pattern cannot be read, the path
first. The third is found out last. A report in JSON has room for a path only if that is a text, so
it breaks off at the first file that goes by another one, and what stands in front of that has been
printed. There is no fourth one. A file that cannot be read, a source that had to be mended and a
token that was dropped stay with their file, however many there are and wherever they stand.

`Options.Refused` says what a run is ended by before its scan, and `Run.BrokenOff` what it leaves
behind when it is ended in printing. `Run.Complete` says what a run owes that was not ended: a
report for every file, clone tokens for every file that holds a text, and a line for each thing that
is in them.

## Main definitions

* `Options.BadPattern`: A pattern is given, and cannot be read.
* `Options.Refused`: What ends a run before its scan.
* `Outcome.linesOwed`: The lines that an outcome calls for.
* `Run.Complete`: A run has reported on every file.
* `Run.BrokenOff`: A run has broken off in printing.

## Theorems

* `Options.make_eq_error_iff`: When the rule for comments cannot be made.
* `run_of_refused`: What a run comes to that is refused.
* `run_cases`: A run is refused, or comes to the outcome of its files.
* `Outcome.lines_perm`: The lines of the plain report.
* `Run.complete_ofOutcome`, `Run.brokenOff_ofOutcome`: The two ways in which a scan ends.
* `run_fails_iff`: When a run fails, and what it leaves behind.
-/

namespace CloneScan

/-- A pattern is given that is not empty, and it cannot be read, for a cause. -/
def Options.BadPattern (o : Options) (pattern : String) (cause : PatternError) : Prop :=
  o.settings.commentPattern = some pattern ∧ pattern ≠ "" ∧
    Regex.ofChars (CommentRule.wholeText pattern) = .error cause

/-- What ends a run before its scan: what is in the way of the first path that has something in its
    way, or else a pattern that cannot be read. -/
def Options.Refused (o : Options) (fs : FileSystem) (fault : Fault) : Prop :=
  (∃ before path after, o.paths = before ++ path :: after ∧
    (∀ p ∈ before, fs.Accessible p) ∧ fs.Obstacle path fault) ∨
  (∀ p ∈ o.paths, fs.Accessible p) ∧
    ∃ pattern cause, o.BadPattern pattern cause ∧ fault = .badPattern pattern cause

/-- The rule for comments cannot be made exactly if a pattern is given that cannot be read. -/
theorem Options.make_eq_error_iff {o : Options} {fault : Fault} :
    CommentRule.make (o.settings.commentPattern.getD "")
        (o.settings.commentMessage.getD CommentRule.defaultMessage) = .error fault ↔
      ∃ pattern cause, o.BadPattern pattern cause ∧ fault = .badPattern pattern cause := by
  unfold BadPattern
  cases o.settings.commentPattern with
  | none => exact iff_of_false nofun nofun
  | some pattern =>
      rw [Option.getD_some]
      constructor
      · intro hfault
        have hne : pattern ≠ "" := by
          rintro rfl
          cases hfault
        rcases CommentRule.make_eq_error hfault with ⟨cause, hcause, rfl⟩
        exact ⟨pattern, cause, ⟨rfl, hne, hcause⟩, rfl⟩
      · rintro ⟨pattern, cause, ⟨hpattern, hne, hcause⟩, rfl⟩
        obtain rfl := Option.some.inj hpattern
        rw [CommentRule.make, if_neg (by rwa [String.isEmpty_iff]), hcause]

section Runs

variable {o : Options} {fs : FileSystem} {grammar : Grammar}

/-- A run that is refused ends with what refuses it, and prints nothing. -/
theorem run_of_refused (hproper : fs.Proper) {fault : Fault} (h : o.Refused fs fault) :
    (run o fs grammar).value = ⟨.error fault, ""⟩ := by
  rw [run_value]
  rcases h with hpaths | ⟨hall, hpattern⟩
  · rw [(Scanner.collectFiles_eq_error_iff (s := ⟨fs, grammar, o.settings.extensions⟩)
      hproper).mpr hpaths]
  · rcases (Scanner.exists_collectFiles_iff (s := ⟨fs, grammar, o.settings.extensions⟩)
      hproper).mpr hall with ⟨files, hfiles⟩
    rw [hfiles]
    simp only [Options.make_eq_error_iff.mpr hpattern]

/-- A run is refused, or comes to the outcome of its files. -/
theorem run_cases (grammar : Grammar) (hproper : fs.Proper) :
    (∃ fault, o.Refused fs fault) ∨
      (∀ p ∈ o.paths, fs.Accessible p) ∧ (¬ ∃ pattern cause, o.BadPattern pattern cause) ∧
      ∃ files rule,
        Scanner.collectFiles ⟨fs, grammar, o.settings.extensions⟩ o.paths = .ok files ∧
        CommentRule.make (o.settings.commentPattern.getD "")
          (o.settings.commentMessage.getD CommentRule.defaultMessage) = .ok rule ∧
        (run o fs grammar).value = .ofOutcome
          (Scanner.outcome ⟨fs, grammar, o.settings.extensions⟩ rule o.settings.policy files)
          o.format := by
  rw [run_value]
  cases hfiles : Scanner.collectFiles ⟨fs, grammar, o.settings.extensions⟩ o.paths with
  | error fault =>
      exact Or.inl ⟨fault, Or.inl ((Scanner.collectFiles_eq_error_iff hproper).mp hfiles)⟩
  | ok files =>
      have hall := (Scanner.exists_collectFiles_iff hproper).mp ⟨files, hfiles⟩
      cases hrule : CommentRule.make (o.settings.commentPattern.getD "")
          (o.settings.commentMessage.getD CommentRule.defaultMessage) with
      | error fault =>
          exact Or.inl ⟨fault, Or.inr ⟨hall, Options.make_eq_error_iff.mp hrule⟩⟩
      | ok rule =>
          refine Or.inr ⟨hall, ?_, files, rule, rfl, rfl, rfl⟩
          rintro ⟨pattern, cause, hbad⟩
          have hfault := Options.make_eq_error_iff.mpr ⟨pattern, cause, hbad, rfl⟩
          rw [hrule] at hfault
          cases hfault

/-- A run is refused if something is in the way of a path, or if its pattern cannot be read. -/
theorem Options.exists_refused_iff (hproper : fs.Proper) :
    (∃ fault, o.Refused fs fault) ↔
      (∃ path ∈ o.paths, ¬ fs.Accessible path) ∨ ∃ pattern cause, o.BadPattern pattern cause := by
  constructor
  · rintro ⟨fault, ⟨before, path, after, hpaths, -, hobstacle⟩ | ⟨-, pattern, cause, hbad, -⟩⟩
    · have hmem : path ∈ o.paths := hpaths ▸ List.mem_append_right before List.mem_cons_self
      exact Or.inl ⟨path, hmem, hobstacle.not_accessible⟩
    · exact Or.inr ⟨pattern, cause, hbad⟩
  · intro h
    rcases run_cases (fun _ => default) hproper with hrefused | ⟨hall, hnone, -⟩
    · exact hrefused
    · rcases h with ⟨path, hmem, hpath⟩ | hbad
      · exact absurd (hall path hmem) hpath
      · exact absurd hbad hnone

end Runs

/-- The line of a finding in the plain report. -/
def findingLine (path : Path) (f : Finding) : String :=
  s!"{path.shown}:{f.line}: [{f.rule}] {f.message}"

/-- The line of an error in the plain report. -/
def errorLine (path : Path) (message : String) : String :=
  s!"{path.shown}: error: {message}"

/-- The line of a file's clone tokens in the plain report. -/
def clonesLine (stream : CloneStream) : String :=
  s!"{stream.path.shown}: {stream.tokens.length} cpd token(s)"

/-- The lines that the report on a file calls for in the plain report. -/
def FileReport.lines (r : FileReport) : List String :=
  r.findings.map (findingLine r.path) ++ r.errors.map (errorLine r.path)

/-- The lines that an outcome calls for in the plain report, file by file. -/
def Outcome.linesOwed (o : Outcome) : List String :=
  o.summary.reports.flatMap FileReport.lines ++ o.clones.map clonesLine ++
    [totalsLine o.summary.processed o.summary.failed (o.clones.map fun s => s.tokens.length).sum
      (o.summary.reports.map fun r => r.findings.length).sum]

/-- The plain report has the lines that its outcome calls for, each as often as it is called for.
    It has the findings of all files in front of the errors. -/
theorem Outcome.lines_perm (o : Outcome) : o.lines.Perm o.linesOwed := by
  have hlines : o.lines
      = o.summary.reports.flatMap (fun r => r.findings.map (findingLine r.path)) ++
        o.summary.reports.flatMap (fun r => r.errors.map (errorLine r.path)) ++
        o.clones.map clonesLine ++
        [totalsLine o.summary.processed o.summary.failed
          (o.clones.map fun s => s.tokens.length).sum
          (o.summary.reports.map fun r => r.findings.length).sum] := by
    rw [← tokenCount_eq_sum, ← length_findings, lines, Summary.findings, Summary.errors,
      List.map_flatMap, List.map_flatMap]
    simp only [List.map_map]
    rfl
  rw [hlines]
  exact ((List.flatMap_append_perm _ _ _).append_right _).append_right _

/-- A run has reported on every file of a list. Its outcome has a report on each, in order, and
    the clone tokens of each that holds a text; and what it printed has all of that in it. -/
structure Run.Complete (r : Run) (format : ReportFormat) (s : Scanner) (rule : CommentRule)
    (policy : ImagePolicy) (files : List Path) (outcome : Outcome) : Prop where
  result : r.result = .ok outcome
  /-- Only a file that holds no text has an error, and that one has nothing else. -/
  reports : outcome.summary.reports = files.map fun path =>
    match s.files.readText path with
    | .error fault => ⟨path, [], false, [fault.message]⟩
    | .ok text => ⟨path, rule.findingsIn s.grammar path text, (s.grammar text).hasErrors, []⟩
  processed : outcome.summary.processed = files.length
  failed : outcome.summary.failed = files.countP fun path => !s.files.isText path
  /-- A file named more than once has its clone tokens listed where it is named first. -/
  clones : List.Forall₂
    (fun path (stream : CloneStream) => stream.path.Same path ∧
      ∃ text, s.files.readText path = .ok text ∧
        savesAlone policy s.grammar path text = [(.ofText path text, stream.tokens)])
    (Path.firsts (files.filter s.files.isText)) outcome.clones
  printed : match format with
    | .json => ∃ document, Outcome.codec.write outcome = .ok document ∧
        r.printed = String.ofList document.indented ++ "\n"
    | .text => ∃ lines : List String, r.printed = String.join (lines.map (· ++ "\n")) ∧
        lines.Perm outcome.linesOwed

/-- A run has broken off in printing a report on files. What it printed is a document as far as
    the first file that goes by no text: the counts of the files, the reports on those in front,
    and the report on that one down to the path. -/
structure Run.BrokenOff (r : Run) (s : Scanner) (rule : CommentRule) (files : List Path) :
    Prop where
  result : r.result = .error .pathNotText
  printed : ∃ before path after reports, files = before ++ path :: after ∧
    (∀ p ∈ before, p.IsText) ∧ ¬ path.IsText ∧
    FileReport.codec.list.write (before.map (s.reportOn rule)) = .ok (.array reports) ∧
    r.printed = String.ofList (Outcome.begun files.length
      (files.countP fun path => !s.files.isText path) reports).indented

section Outcomes

variable {s : Scanner} {rule : CommentRule} {policy : ImagePolicy} {files : List Path}
  {format : ReportFormat}

theorem Scanner.path_reportOn (s : Scanner) (rule : CommentRule) (path : Path) :
    (s.reportOn rule path).path = path := by
  unfold reportOn
  cases s.files.readText path with
  | error fault => rfl
  | ok text => rfl

/-- Reports are written if their files go by texts. -/
theorem Scanner.outcome_writable_iff :
    Outcome.codec.Writable (s.outcome rule policy files) ↔ ∀ p ∈ files, p.IsText := by
  rw [Outcome.codec_writable_iff, summary_outcome]
  simp only [List.forall_mem_map, path_reportOn]
  exact and_iff_left_of_imp fun htext stream hstream =>
    htext _ (s.path_mem_of_clones rule policy files hstream)

/-- A run that has scanned its files and comes to an outcome has reported on all of them. -/
theorem Run.complete_ofOutcome {outcome : Outcome}
    (h : (Run.ofOutcome (s.outcome rule policy files) format).result = .ok outcome) :
    (Run.ofOutcome (s.outcome rule policy files) format).Complete format s rule policy files
      outcome := by
  rcases Run.ofOutcome_eq_ok h with ⟨rfl, hrendered⟩
  have hsummary := s.summary_outcome rule policy files
  refine ⟨h, congrArg Summary.reports hsummary, congrArg Summary.processed hsummary,
    congrArg Summary.failed hsummary, s.clones_outcome rule policy files, ?_⟩
  cases format with
  | text => exact ⟨_, (Except.ok.inj hrendered).symm, Outcome.lines_perm _⟩
  | json =>
      cases hwrite : Outcome.codec.write (s.outcome rule policy files) with
      | error begun => simp only [Outcome.render, hwrite, reduceCtorEq] at hrendered
      | ok document =>
          simp only [Outcome.render, hwrite, Except.ok.injEq] at hrendered
          exact ⟨document, rfl, hrendered.symm⟩

/-- Some list member is the first of those that a property does not hold of. -/
theorem exists_first_of_not_forall {α : Type} {P : α → Prop} {l : List α}
    (h : ∃ a ∈ l, ¬ P a) :
    ∃ before a after, l = before ++ a :: after ∧ (∀ b ∈ before, P b) ∧ ¬ P a := by
  induction l with
  | nil => exact absurd h (by simp only [List.not_mem_nil, false_and, exists_false,
      not_false_eq_true])
  | cons first rest ih =>
      by_cases hfirst : P first
      · rcases h with ⟨a, ha, hnot⟩
        rcases List.mem_cons.mp ha with rfl | hrest
        · exact absurd hfirst hnot
        · rcases ih ⟨a, hrest, hnot⟩ with ⟨before, b, after, rfl, hbefore, hb⟩
          exact ⟨first :: before, b, after, rfl, List.forall_mem_cons.mpr ⟨hfirst, hbefore⟩, hb⟩
      · exact ⟨[], first, rest, rfl, fun _ hb => absurd hb List.not_mem_nil, hfirst⟩

/-- A run that has scanned its files breaks off in a document if one of these goes by no text. -/
theorem Run.brokenOff_ofOutcome (h : ∃ p ∈ files, ¬ p.IsText) :
    (Run.ofOutcome (s.outcome rule policy files) .json).BrokenOff s rule files := by
  rcases exists_first_of_not_forall h with ⟨before, path, after, hfiles, hbefore, hpath⟩
  have hsummary := s.summary_outcome rule policy files
  have hreports : (s.outcome rule policy files).summary.reports = before.map (s.reportOn rule) ++
      s.reportOn rule path :: after.map (s.reportOn rule) := by
    rw [hsummary, hfiles, List.map_append, List.map_cons]
  obtain ⟨v, hv⟩ : FileReport.codec.list.Writable (before.map (s.reportOn rule)) := by
    rw [Codec.list_writable_iff, List.forall_mem_map]
    intro p hp
    rw [FileReport.codec_writable_iff, Scanner.path_reportOn]
    exact hbefore p hp
  rcases Codec.write_list_eq_ok_iff.mp hv with ⟨reports, -, rfl⟩
  have hbroken := Outcome.write_of_reports hreports hv (by rwa [Scanner.path_reportOn])
  rw [hsummary] at hbroken
  simp only [Run.ofOutcome, Outcome.render, hbroken]
  exact ⟨rfl, before, path, after, reports, hfiles, hbefore, hpath, hv, rfl⟩

/-- A run that has scanned its files fails only by a path that is no text, in a document. -/
theorem Run.exists_error_ofOutcome_iff :
    (∃ fault, (Run.ofOutcome (s.outcome rule policy files) format).result = .error fault) ↔
      format = .json ∧ ∃ p ∈ files, ¬ p.IsText := by
  cases format with
  | text => exact iff_of_false nofun nofun
  | json =>
      rw [and_iff_right rfl]
      refine ⟨fun ⟨fault, hfault⟩ => ?_, fun h => ⟨_, (Run.brokenOff_ofOutcome h).result⟩⟩
      by_contra hnone
      have hall : ∀ p ∈ files, p.IsText := fun p hp => by
        by_contra hp'
        exact hnone ⟨p, hp, hp'⟩
      obtain ⟨document, hdocument⟩ : Outcome.codec.Writable (s.outcome rule policy files) :=
        Scanner.outcome_writable_iff.mpr hall
      simp only [Run.ofOutcome, Outcome.render, hdocument, reduceCtorEq] at hfault

end Outcomes

/-- A run that comes to an outcome has reported on every file. -/
theorem run_complete {o : Options} {fs : FileSystem} {grammar : Grammar} {outcome : Outcome}
    (h : (run o fs grammar).value.result = .ok outcome) :
    ∃ files rule,
      Scanner.collectFiles ⟨fs, grammar, o.settings.extensions⟩ o.paths = .ok files ∧
      CommentRule.make (o.settings.commentPattern.getD "")
        (o.settings.commentMessage.getD CommentRule.defaultMessage) = .ok rule ∧
      (run o fs grammar).value.Complete o.format ⟨fs, grammar, o.settings.extensions⟩ rule
        o.settings.policy files outcome := by
  rw [run_value] at h ⊢
  cases hfiles : Scanner.collectFiles ⟨fs, grammar, o.settings.extensions⟩ o.paths with
  | error fault => simp only [hfiles, reduceCtorEq] at h
  | ok files =>
      cases hrule : CommentRule.make (o.settings.commentPattern.getD "")
          (o.settings.commentMessage.getD CommentRule.defaultMessage) with
      | error fault => simp only [hfiles, hrule, reduceCtorEq] at h
      | ok rule =>
          simp only [hfiles, hrule] at h ⊢
          exact ⟨files, rule, rfl, rfl, Run.complete_ofOutcome h⟩

/-- A run fails exactly if something is in the way of a path, or the pattern given cannot be read,
    or the report is to be JSON and a file goes by no text. The first two are found out before the
    scan, the path before the pattern, and nothing is printed then. The third leaves the beginning
    of a document. Every other run reports on every file the paths stand for, whether or not it can
    be read, had to be mended or lost tokens, and prints all of it. -/
theorem run_fails_iff (o : Options) (fs : FileSystem) (grammar : Grammar) (hproper : fs.Proper) :
    ((∃ fault, (run o fs grammar).value.result = .error fault) ↔
      (∃ path ∈ o.paths, ¬ fs.Accessible path) ∨ (∃ pattern cause, o.BadPattern pattern cause) ∨
        o.format = .json ∧ ∃ files,
          Scanner.collectFiles ⟨fs, grammar, o.settings.extensions⟩ o.paths = .ok files ∧
          ∃ p ∈ files, ¬ p.IsText) ∧
    (∀ fault, o.Refused fs fault → (run o fs grammar).value = ⟨.error fault, ""⟩) ∧
    (∀ fault, (run o fs grammar).value.result = .error fault → o.Refused fs fault ∨
      o.format = .json ∧ ∃ files rule,
        Scanner.collectFiles ⟨fs, grammar, o.settings.extensions⟩ o.paths = .ok files ∧
        CommentRule.make (o.settings.commentPattern.getD "")
          (o.settings.commentMessage.getD CommentRule.defaultMessage) = .ok rule ∧
        (run o fs grammar).value.BrokenOff ⟨fs, grammar, o.settings.extensions⟩ rule files) ∧
    ∀ outcome, (run o fs grammar).value.result = .ok outcome →
      ∃ files rule,
        Scanner.collectFiles ⟨fs, grammar, o.settings.extensions⟩ o.paths = .ok files ∧
        CommentRule.make (o.settings.commentPattern.getD "")
          (o.settings.commentMessage.getD CommentRule.defaultMessage) = .ok rule ∧
        (run o fs grammar).value.Complete o.format ⟨fs, grammar, o.settings.extensions⟩ rule
          o.settings.policy files outcome := by
  refine ⟨?_, fun fault => run_of_refused hproper, fun fault hfault => ?_,
    fun outcome => run_complete⟩
  · rcases run_cases grammar hproper with
      ⟨fault, hrefused⟩ | ⟨hall, hreadable, files, rule, hfiles, -, hvalue⟩
    · have hgiven := (Options.exists_refused_iff hproper).mp ⟨fault, hrefused⟩
      refine iff_of_true ⟨fault, ?_⟩ (or_assoc.mp (Or.inl hgiven))
      rw [run_of_refused hproper hrefused]
    · have hpaths : ¬ ∃ path ∈ o.paths, ¬ fs.Accessible path := fun ⟨path, hmem, hpath⟩ =>
        hpath (hall path hmem)
      rw [or_iff_right hpaths, or_iff_right hreadable, hvalue, Run.exists_error_ofOutcome_iff]
      simp only [hfiles, Except.ok.injEq, exists_eq_left']
  · rcases run_cases grammar hproper with
      ⟨cause, hrefused⟩ | ⟨-, -, files, rule, hfiles, hrule, hvalue⟩
    · rw [run_of_refused hproper hrefused] at hfault
      exact Or.inl (Except.error.inj hfault ▸ hrefused)
    · rw [hvalue] at hfault ⊢
      rcases Run.exists_error_ofOutcome_iff.mp ⟨fault, hfault⟩ with ⟨hformat, hpath⟩
      rw [hformat]
      exact Or.inr ⟨rfl, files, rule, hfiles, hrule, Run.brokenOff_ofOutcome hpath⟩

theorem sourceAndImage_proper : sourceAndImage.Proper := by
  have hinner : (Entry.directory .full [("a.cpp", .file (.ok nestedText))]).Proper :=
    .directory (List.nodup_singleton _) (List.forall_mem_singleton.mpr (by decide))
      (List.forall_mem_singleton.mpr (.file _))
  exact .directory (by decide) (by decide)
    (List.forall_mem_cons.mpr ⟨hinner, List.forall_mem_singleton.mpr (.file _)⟩)

/-- A path that leads nowhere behind one that does, and a pattern that cannot be read. -/
def mistaken : Options :=
  ⟨[⟨"x"⟩, ⟨"none"⟩], { Settings.initial with commentPattern := some "(" }, .text, false⟩

/-- The path is reported and the pattern is not, and a file that cannot be read ends no run. -/
theorem run_fails_iff_mistaken :
    sourceAndImage.Proper ∧
      (run mistaken sourceAndImage fun _ => nestedFunctions).value
        = ⟨.error (.noSuchPath ⟨"none"⟩), ""⟩ ∧
      mistaken.BadPattern "(" .unclosedGroup ∧
      ∃ outcome, (run overlapping sourceAndImage fun _ => nestedFunctions).value.result
          = .ok outcome ∧
        outcome.summary.processed = 3 := by
  have hmissing : Scanner.collectFiles
      ⟨sourceAndImage, fun _ => nestedFunctions, mistaken.settings.extensions⟩ mistaken.paths
        = .error (.noSuchPath ⟨"none"⟩) := by
    cbv
  have hrefused : mistaken.Refused sourceAndImage (.noSuchPath ⟨"none"⟩) :=
    Or.inl ((Scanner.collectFiles_eq_error_iff sourceAndImage_proper).mp hmissing)
  have hpattern : mistaken.BadPattern "(" .unclosedGroup := ⟨rfl, by decide, rfl⟩
  have hrun : (run overlapping sourceAndImage fun _ => nestedFunctions).value.result = .ok
      (Scanner.outcome ⟨sourceAndImage, fun _ => nestedFunctions, overlapping.settings.extensions⟩
        ⟨"", CommentRule.defaultMessage, none⟩ .exact [⟨"x/a.cpp"⟩, ⟨"b.cpp"⟩, ⟨"x//a.cpp"⟩]) := by
    rw [run_value, collectFiles_overlapping]
    rfl
  rcases (run_fails_iff _ _ _ sourceAndImage_proper).2.2.2 _ hrun with
    ⟨files, rule, hfiles, -, hcomplete⟩
  obtain rfl := Except.ok.inj (hfiles.symm.trans collectFiles_overlapping)
  exact ⟨sourceAndImage_proper, (run_fails_iff _ _ _ sourceAndImage_proper).2.1 _ hrefused,
    hpattern, _, hrun, hcomplete.processed⟩

/-- A name that is no text. -/
def oddName : RawText :=
  ⟨0xFF :: RawText.bytes ".cpp"⟩

/-- A source file of that name. -/
def oddlyNamed : FileSystem :=
  ⟨.full, [(oddName, .file (.ok nestedText))], []⟩

theorem collectFiles_oddlyNamed :
    Scanner.collectFiles ⟨oddlyNamed, fun _ => nestedFunctions, Settings.initial.extensions⟩
      [⟨oddName⟩] = .ok [⟨oddName⟩] := by
  cbv

theorem ofOutcome_oddlyNamed :
    Run.ofOutcome (Scanner.outcome
        ⟨oddlyNamed, fun _ => nestedFunctions, Settings.initial.extensions⟩
        ⟨"", CommentRule.defaultMessage, none⟩ .exact [⟨oddName⟩]) .json
      = ⟨.error .pathNotText, "\x7b\n  \"summary\": \x7b\n    \"files_processed\": 1,\n" ++
        "    \"files_failed\": 0,\n    \"reports\": [\n      \x7b\n        \"path\": "⟩ := by
  have hpath : ¬ Path.IsText ⟨oddName⟩ := by
    have hnone : (Path.mk oddName).text? = none := by cbv
    rintro ⟨s, hs⟩
    rw [← Path.text?_eq_some_iff, hnone] at hs
    cases hs
  have hbroken := @Run.brokenOff_ofOutcome
    ⟨oddlyNamed, fun _ => nestedFunctions, Settings.initial.extensions⟩
    ⟨"", CommentRule.defaultMessage, none⟩ .exact [⟨oddName⟩]
    ⟨_, List.mem_singleton_self _, hpath⟩
  rcases hbroken with ⟨hresult, before, path, after, reports, hfiles, -, -, hreports, hprinted⟩
  -- There is no report in front of the only one.
  obtain rfl : before = [] := by
    rcases List.singleton_eq_append_iff.mp hfiles with ⟨hnone, -⟩ | ⟨-, hnone⟩
    · exact hnone
    · exact absurd hnone (List.cons_ne_nil _ _)
  obtain rfl : [] = reports := Json.array.inj (Except.ok.inj hreports)
  have hfailed : List.countP (fun path => !oddlyNamed.isText path) [⟨oddName⟩] = 0 := by cbv
  rw [hfailed] at hprinted
  exact congrArg₂ Run.mk hresult (hprinted.trans (by cbv))

/-- Runs fail though each path given is there and no pattern is: by a directory that may not be
    listed, by a file behind one link more than may be followed, and by a name that is no text, with
    part of a document printed. -/
theorem run_fails_otherwise :
    guarded.Exists ⟨"src"⟩ ∧
      (run ⟨[⟨"src"⟩], .initial, .text, false⟩ guarded fun _ => nestedFunctions).value
        = ⟨.error (.unlistable .permissionDenied), ""⟩ ∧
      chained.readText ⟨linkName 40⟩ = .ok "" ∧
      chained.root.child? (linkName 41) = some (.link ⟨linkName 40⟩) ∧
      (run ⟨[⟨linkName 41⟩], .initial, .text, false⟩ chained fun _ => nestedFunctions).value
        = ⟨.error (.noSuchPath ⟨linkName 41⟩), ""⟩ ∧
      oddlyNamed.readText ⟨oddName⟩ = .ok nestedText ∧
      (run ⟨[⟨oddName⟩], .initial, .json, false⟩ oddlyNamed fun _ => nestedFunctions).value
        = ⟨.error .pathNotText, "\x7b\n  \"summary\": \x7b\n    \"files_processed\": 1,\n" ++
          "    \"files_failed\": 0,\n    \"reports\": [\n      \x7b\n        \"path\": "⟩ := by
  refine ⟨⟨_, lookUp_guarded⟩, ?_, by cbv, rfl, ?_, by cbv, ?_⟩
  · rw [run_value, Scanner.collectFiles_singleton, collectPath_guarded]
  · rw [run_value, Scanner.collectFiles_singleton, collectPath_chained]
  · rw [run_value, collectFiles_oddlyNamed]
    exact ofOutcome_oddlyNamed

end CloneScan
