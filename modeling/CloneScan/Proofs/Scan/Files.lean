import CloneScan.Proofs.Collector.Harvest
import CloneScan.Proofs.Comment.Findings
import CloneScan.Proofs.File.SamePath
import CloneScan.Proofs.Scan.Steady
import Mathlib.Data.List.Forall2

/-!
# Scanning Several Files

What the collector and the comment rule make of a list of files, scanned one after the other. The
visitors keep their state from one file to the next, so a scan is a fold, and what a file adds
could depend on those before it. It does not. The collector is idle between two files, whatever
the first one did, and the comment rule has no state at all. So each report is a function of its
file, and so is what each file hands over to the store.

The file under analysis is looked up under the path that is scanned, but it may have been read
under another spelling. What is saved then goes by that spelling, while the tokens are the same:
they are cut by the lengths of the lines, and these are those of the same text.

## Main definitions

* `FileSystem.isText`: A path leads to a file that holds a text.
* `cloneTokensIn`: The clone tokens of a text.
* `Collector.afterText`: The collector after a text.
* `CommentRule.findingsIn`: The findings in a text.
* `Scanner.reportOn`, `Scanner.saveOf`: What a file adds to a scan.
* `Scanner.Covers`: The files that hold a text are under analysis.
* `CloneStore.saveAll`: A store after several saves.
* `Collector.After`: What several files leave of a collector.

## Theorems

* `Collector.walk_parsed`, `walk_idle`: A walk over a parsed source, from any state and from rest.
* `Collector.steady`, `CommentRule.steady`: Both visitors are steady.
* `Collector.after_foldl`: Several files add what each of them saves.
* `Scanner.scanOnto_value`: A scan adds what its files add.
* `Scanner.covers_ofReadable`: Every file that holds a text is under analysis.
* `CloneStore.report_saveAll`: What a store reports after the saves of several files.
-/

namespace CloneScan

/-- A path leads to a file that holds a text. -/
def FileSystem.isText (fs : FileSystem) (path : Path) : Bool :=
  match fs.readText path with
  | .ok _ => true
  | .error _ => false

theorem FileSystem.isText_iff {fs : FileSystem} {path : Path} :
    fs.isText path = true ↔ ∃ text, fs.readText path = .ok text := by
  unfold isText
  cases fs.readText path with
  | ok text => exact iff_of_true rfl ⟨text, rfl⟩
  | error fault => exact iff_of_false Bool.false_ne_true (by simp)

/-- The clone tokens of a text, as a file under analysis accepts them. -/
def cloneTokensIn (policy : ImagePolicy) (grammar : Grammar) (text : String) (file : SourceFile) :
    List CloneToken :=
  (grammar text).root.sites.filterMap (Site.cloneToken? (.ofList text.toList) policy file)

/-- The path of a measured file has no part in its clone tokens. -/
theorem cloneTokensIn_ofText (policy : ImagePolicy) (grammar : Grammar) (text : String)
    (p q : Path) :
    cloneTokensIn policy grammar text (.ofText p text)
      = cloneTokensIn policy grammar text (.ofText q text) :=
  rfl

/-- What the comment rule finds in a text, if the rule has a pattern. -/
def CommentRule.findingsIn (r : CommentRule) (grammar : Grammar) (path : Path) (text : String) :
    List Finding :=
  if r.isActive then
    (walk r.visitor (TranslationUnit.ofParsed path text (grammar text)) (.ofPath path)
      ()).value.context.findings
  else []

/-- The collector after a parsed source. Whatever file it had open is forgotten, and the receiver is
    handed the clone tokens if the file is under analysis. -/
def Collector.afterText {ε : Type} [Receiver ε] (grammar : Grammar) (path : Path) (text : String)
    (c : Collector ε) : Collector ε :=
  { c with
    receiver := match c.files.find? path with
      | none => c.receiver
      | some file =>
        (Receiver.save file (cloneTokensIn c.policy grammar text file) c.receiver).value
    channel := c.channel.keep ((opened c.files path).notes c.policy path
      (TranslationUnit.ofParsed path text (grammar text)).events)
    current := none }

/-- A walk of the collector over a parsed source finds nothing and does not fail. -/
theorem Collector.walk_parsed {ε : Type} [Receiver ε] (grammar : Grammar) (path : Path)
    (text : String) (context : Context) (c : Collector ε) :
    (walk visitor (TranslationUnit.ofParsed path text (grammar text)) context c).value
      = ⟨c.afterText grammar context.path text, context, none⟩ := by
  have hdepth := depth_of_parsed path text (grammar text)
  have htokens := fun file => filterMap_tokensInside_of_parsed path text (grammar text)
    (cloneTokenOf? c.policy file) (fun _ h => cloneTokenOf?_of_not_code c.policy file h)
  rw [walk_value, hdepth.1, hdepth.2]
  simp only [handOver_opened, htokens]
  rfl

/-- A walk over a parsed source leaves an idle collector idle, and finds and faults nothing. The
    receiver is handed the clone tokens if the file is under analysis. -/
theorem walk_idle {ε : Type} [Receiver ε] (policy : ImagePolicy) (set : AnalysisSet) (receiver : ε)
    (grammar : Grammar) (path : Path) (text : String) (context : Context) :
    (walk Collector.visitor (TranslationUnit.ofParsed path text (grammar text)) context
        (Collector.idle policy set receiver)).value
      = ⟨.idle policy set (match set.find? context.path with
          | none => receiver
          | some file =>
            (Receiver.save file (cloneTokensIn policy grammar text file) receiver).value),
        context, none⟩ :=
  Collector.walk_parsed grammar path text context _

/-- The collector is steady, and has no findings of its own. -/
theorem Collector.steady {ε : Type} [Receiver ε] (grammar : Grammar) :
    (VisitorGroup.one (visitor (ε := ε))).Steady grammar (afterText grammar) fun _ _ => [] := by
  refine VisitorGroup.steady_one fun path text context c hpath => ?_
  rw [walk_parsed, hpath, Context.report_nil]

/-- What a rule finds in a text are the findings of its comments; a rule without a pattern reports
    none of them. -/
theorem CommentRule.findingsIn_eq (r : CommentRule) (grammar : Grammar) (path : Path)
    (text : String) :
    r.findingsIn grammar path text
      = r.findings (TranslationUnit.ofParsed path text (grammar text)).comments := by
  unfold findingsIn
  cases hactive : r.isActive with
  | true =>
      rw [if_pos rfl, walk_value]
      exact List.nil_append _
  | false =>
      have hregex : r.regex = none := by
        simpa only [isActive, Option.isSome_eq_false_iff, Option.isNone_iff_eq_none] using hactive
      have hreports : r.reports = fun _ => false := by
        funext c
        rw [reports, hregex]
      rw [if_neg Bool.false_ne_true, findings, hreports, List.filter_false, List.map_nil]

/-- The comment rule is steady, and has no state. -/
theorem CommentRule.steady (r : CommentRule) (grammar : Grammar) :
    (VisitorGroup.one r.visitor).Steady grammar (fun _ _ state => state)
      (r.findingsIn grammar) := by
  refine VisitorGroup.steady_one fun path text context _ _ => ?_
  rw [walk_value, findingsIn_eq]

namespace Scanner

/-- The visitors of a scan: the collector, and the comment rule if it has a pattern. -/
def visitors (rule : CommentRule) : VisitorGroup (Collector CloneStore × Unit) :=
  (VisitorGroup.one Collector.visitor).both
    (.optional (if rule.isActive then some rule.visitor else none))

/-- The report on a file by itself. -/
def reportOn (s : Scanner) (rule : CommentRule) (path : Path) : FileReport :=
  match s.files.readText path with
  | .error fault => ⟨path, [], false, [fault.message]⟩
  | .ok text => ⟨path, rule.findingsIn s.grammar path text, (s.grammar text).hasErrors, []⟩

/-- What a file saves, and under which path: nothing if it holds no text, or is not under
    analysis. -/
def saveOf (s : Scanner) (policy : ImagePolicy) (set : AnalysisSet) (path : Path) :
    Option (Path × List CloneToken) :=
  match s.files.readText path with
  | .error _ => none
  | .ok text =>
    (set.find? path).map fun file => (file.path, cloneTokensIn policy s.grammar text file)

end Scanner

/-- A store after several saves. -/
def CloneStore.saveAll (store : CloneStore) (saves : List (Path × List CloneToken)) : CloneStore :=
  saves.foldl (fun s save => s.saveTokens save.1 save.2) store

theorem CloneStore.saveAll_append (store : CloneStore)
    (first second : List (Path × List CloneToken)) :
    store.saveAll (first ++ second) = (store.saveAll first).saveAll second :=
  List.foldl_append

/-- A collector that visits no file and has its remarks logged is an idle one. -/
theorem Collector.eq_idle {ε : Type} {c : Collector ε} (hchannel : c.channel = .logged)
    (hcurrent : c.current = none) : c = .idle c.policy c.files c.receiver := by
  rw [idle, ← hchannel, ← hcurrent]

/-- The visitors of a scan are steady. -/
theorem Scanner.steady_visitors (rule : CommentRule) (grammar : Grammar) :
    (visitors rule).Steady grammar
      (fun path text state => (state.1.afterText grammar path text, state.2))
      (rule.findingsIn grammar) := by
  have hcomments : (VisitorGroup.optional
      (if rule.isActive then some rule.visitor else none)).Steady grammar
      (fun _ _ state => state) (rule.findingsIn grammar) := by
    cases hactive : rule.isActive with
    | true => exact rule.steady grammar
    | false =>
        have hfound : rule.findingsIn grammar = fun _ _ => [] :=
          funext fun path => funext fun text => by
            rw [CommentRule.findingsIn, hactive, if_neg Bool.false_ne_true]
        rw [hfound]
        exact VisitorGroup.steady_none grammar
  exact (Collector.steady grammar).both hcomments

/-- What several files leave of a collector that was in any state: it hands over what each file
    saves, and it is idle afterwards if it was so before. -/
structure Collector.After (s : Scanner) (c : Collector CloneStore) (paths : List Path)
    (last : Collector CloneStore) : Prop where
  policy : last.policy = c.policy
  files : last.files = c.files
  receiver : last.receiver = c.receiver.saveAll (paths.filterMap (s.saveOf c.policy c.files))
  channel : c.channel = .logged → last.channel = .logged
  current : c.current = none → last.current = none

/-- One file adds what it saves. -/
theorem Collector.after_stateAfter (s : Scanner) (c : Collector CloneStore) (path : Path) :
    After s c [path] (s.stateAfter (afterText s.grammar) c path) := by
  unfold Scanner.stateAfter
  cases htext : s.files.readText path with
  | error fault =>
      have hsave : s.saveOf c.policy c.files path = none := by rw [Scanner.saveOf, htext]
      refine ⟨rfl, rfl, ?_, id, id⟩
      rw [List.filterMap_cons_none hsave]
      rfl
  | ok text =>
      have hlogged : c.channel = .logged →
          (afterText s.grammar path text c).channel = .logged := by
        intro hchannel
        rw [afterText, hchannel]
        rfl
      refine ⟨rfl, rfl, ?_, hlogged, fun _ => rfl⟩
      cases hfind : c.files.find? path with
      | none =>
          have hsave : s.saveOf c.policy c.files path = none := by
            rw [Scanner.saveOf, htext, hfind]
            rfl
          rw [List.filterMap_cons_none hsave]
          simp only [afterText, hfind]
          rfl
      | some file =>
          have hsave : s.saveOf c.policy c.files path
              = some (file.path, cloneTokensIn c.policy s.grammar text file) := by
            rw [Scanner.saveOf, htext, hfind]
            rfl
          rw [List.filterMap_cons_some hsave]
          simp only [afterText, hfind]
          rfl

/-- Several files add what each of them saves, one after the other. -/
theorem Collector.after_foldl (s : Scanner) (paths : List Path) (c : Collector CloneStore) :
    After s c paths (paths.foldl (s.stateAfter (afterText s.grammar)) c) := by
  induction paths generalizing c with
  | nil => exact ⟨rfl, rfl, rfl, id, id⟩
  | cons path rest ih =>
      have hfirst := after_stateAfter s c path
      have hrest := ih (s.stateAfter (afterText s.grammar) c path)
      rw [List.foldl_cons]
      refine ⟨hrest.policy.trans hfirst.policy, hrest.files.trans hfirst.files, ?_,
        hrest.channel ∘ hfirst.channel, hrest.current ∘ hfirst.current⟩
      -- The rest is saved under the same policy and the same files as the first one.
      rw [hrest.receiver, hfirst.receiver, hfirst.policy, hfirst.files, ← CloneStore.saveAll_append,
        ← List.filterMap_append, List.singleton_append]

namespace Scanner

variable (s : Scanner) (rule : CommentRule) (policy : ImagePolicy) (set : AnalysisSet)

/-- A scan of several files adds what each of them adds by itself. -/
theorem scanOnto_value (paths : List Path) (summary : Summary) (store : CloneStore) :
    (s.scanOnto (visitors rule) summary (.idle policy set store, ()) paths).value
      = ((paths.map (s.reportOn rule)).foldl Summary.add summary,
        (.idle policy set (store.saveAll (paths.filterMap (s.saveOf policy set))), ())) := by
  have hlast := Collector.after_foldl s paths (.idle policy set store)
  have hidle : paths.foldl (s.stateAfter (Collector.afterText s.grammar)) (.idle policy set store)
      = .idle policy set (store.saveAll (paths.filterMap (s.saveOf policy set))) := by
    rw [Collector.eq_idle (hlast.channel rfl) (hlast.current rfl), hlast.policy, hlast.files,
      hlast.receiver]
    rfl
  have hboth := s.foldl_stateAfter_both (Collector.afterText s.grammar) (fun _ _ state => state)
    paths (.idle policy set store) ()
  rw [hidle] at hboth
  exact (scanOnto_steady s (steady_visitors rule s.grammar) paths summary _).trans
    (Prod.ext rfl hboth)

end Scanner

/-- A summary counts the reports it is given, and those that failed, and keeps all in order. -/
theorem Summary.foldl_add (reports : List FileReport) (summary : Summary) :
    reports.foldl Summary.add summary
      = ⟨summary.processed + reports.length,
        summary.failed + reports.countP (fun r => !r.isSuccess), summary.reports ++ reports⟩ := by
  induction reports generalizing summary with
  | nil => rw [List.append_nil]; rfl
  | cons r rest ih =>
      rw [List.foldl_cons, ih, add, List.length_cons, List.countP_cons, List.append_assoc,
        List.singleton_append]
      cases r.isSuccess with
      | true => simp only [if_true, Bool.not_true, Bool.false_eq_true, if_false, Nat.add_zero,
          Summary.mk.injEq, and_self, and_true]; omega
      | false => simp only [Bool.false_eq_true, if_false, Bool.not_false, if_true,
          Summary.mk.injEq, and_true]; omega

namespace AnalysisSet

/-- The file of a text that was added stays under analysis while other files are added: a second
    spelling of its path only brings the same text. -/
theorem find?_addReadable {fs : FileSystem} {p : Path} {text : String}
    (htext : fs.readText p = .ok text) {all : List Path} (paths : List Path) (hall : paths ⊆ all)
    (set : AnalysisSet)
    (h : p ∈ paths ∨ ∃ q ∈ all, q.Same p ∧ set.find? p = some (.ofText q text)) :
    ∃ q ∈ all, q.Same p ∧ (addReadable fs set paths).value.find? p = some (.ofText q text) := by
  induction paths generalizing set with
  | nil => exact h.resolve_left List.not_mem_nil
  | cons path rest ih =>
      rcases List.cons_subset.mp hall with ⟨hpath, hrest⟩
      rw [addReadable, SourceFile.ofPath]
      cases hread : fs.readText path with
      | error fault =>
          refine ih hrest set (h.imp_left fun hmem => ?_)
          rcases List.mem_cons.mp hmem with rfl | hlater
          · rw [htext] at hread
            exact absurd hread (by simp only [reduceCtorEq, not_false_eq_true])
          · exact hlater
      | ok found =>
          refine ih hrest _ ?_
          by_cases hsame : path.Same p
          · -- The file is replaced by one of the same text.
            refine Or.inr ⟨path, hpath, hsame, ?_⟩
            rw [add, PathMap.find?_insert]
            rw [FileSystem.readText_of_same hsame hread htext]
            exact if_pos hsame
          · refine h.imp (fun hmem => ?_) fun hset => ?_
            · exact (List.mem_cons.mp hmem).resolve_left fun heq => hsame (heq ▸ Path.Same.refl p)
            · rcases hset with ⟨q, hmem, hq, hfind⟩
              refine ⟨q, hmem, hq, ?_⟩
              rw [add, PathMap.find?_insert]
              exact (if_neg hsame).trans hfind

end AnalysisSet

namespace Scanner

/-- Every file of a list that holds a text is under analysis, by a spelling of its path that is in
    the list. -/
def Covers (s : Scanner) (set : AnalysisSet) (paths : List Path) : Prop :=
  ∀ p ∈ paths, ∀ text, s.files.readText p = .ok text →
    ∃ q ∈ paths, q.Same p ∧ set.find? p = some (.ofText q text)

theorem covers_ofReadable (s : Scanner) (paths : List Path) :
    s.Covers (AnalysisSet.ofReadable s.files paths).value paths := fun _ hmem _ htext =>
  AnalysisSet.find?_addReadable htext paths (List.Subset.refl paths) .empty (Or.inl hmem)

variable {s : Scanner} (policy : ImagePolicy) {set : AnalysisSet} {paths : List Path}

/-- What a covered file saves, if it holds a text. -/
theorem saveOf_of_isText (hcovers : s.Covers set paths) {p : Path}
    (hp : p ∈ paths.filter s.files.isText) :
    ∃ text, ∃ q ∈ paths, s.files.readText p = .ok text ∧ q.Same p ∧
      set.find? p = some (.ofText q text) ∧
      s.saveOf policy set p = some (q, cloneTokensIn policy s.grammar text (.ofText p text)) := by
  rcases List.mem_filter.mp hp with ⟨hmem, htexted⟩
  rcases FileSystem.isText_iff.mp htexted with ⟨text, htext⟩
  rcases hcovers p hmem text htext with ⟨q, hlisted, hq, hfind⟩
  refine ⟨text, q, hlisted, htext, hq, hfind, ?_⟩
  rw [saveOf, htext]
  simp only [hfind, Option.map_some]
  rw [cloneTokensIn_ofText policy s.grammar text p q]
  rfl

/-- All spellings of a path save the same, under the same spelling. -/
theorem saveOf_congr (hcovers : s.Covers set paths) {p q : Path}
    (hp : p ∈ paths.filter s.files.isText) (hq : q ∈ paths.filter s.files.isText)
    (hsame : p.Same q) : s.saveOf policy set p = s.saveOf policy set q := by
  rcases saveOf_of_isText policy hcovers hp with ⟨first, _, _, hfirst, _⟩
  rcases saveOf_of_isText policy hcovers hq with ⟨second, _, _, hsecond, _⟩
  have hequal := FileSystem.readText_of_same hsame hfirst hsecond
  simp only [saveOf, hfirst, hsecond, hequal, PathMap.find?_congr set hsame]

/-- The saves of several files are those of the files that hold a text. -/
theorem filterMap_saveOf (hcovers : s.Covers set paths) :
    paths.filterMap (s.saveOf policy set)
      = (paths.filter s.files.isText).map fun p => (s.saveOf policy set p).getD (p, []) := by
  rw [← List.filterMap_eq_map, List.filterMap_filter]
  refine List.filterMap_congr fun p hp => ?_
  by_cases htexted : s.files.isText p = true
  · rcases saveOf_of_isText policy hcovers (List.mem_filter.mpr ⟨hp, htexted⟩)
      with ⟨text, q, _, _, _, _, hsome⟩
    rw [if_pos htexted, Function.comp_apply, hsome, Option.getD_some]
  · rw [if_neg htexted, saveOf]
    cases htext : s.files.readText p with
    | error fault => rfl
    | ok text => exact absurd (FileSystem.isText_iff.mpr ⟨text, htext⟩) htexted

end Scanner

namespace CloneStore

theorem files_saveAll (store : CloneStore) (saves : List (Path × List CloneToken)) :
    (store.saveAll saves).files = store.files.insertAll saves := by
  induction saves generalizing store with
  | nil => rfl
  | cons save rest ih => exact ih _

/-- What a store reports after the saves of several files: the clone tokens of each file that holds
    a text, in the order of the first spellings. It calls no file by a path that is not in the
    list. -/
theorem report_saveAll {s : Scanner} (policy : ImagePolicy) {set : AnalysisSet}
    {paths : List Path} (hcovers : s.Covers set paths) :
    List.Forall₂
      (fun p (stream : CloneStream) => stream.path ∈ paths ∧ stream.path.Same p ∧
        ∃ text, s.files.readText p = .ok text ∧
          stream.tokens = cloneTokensIn policy s.grammar text (.ofText p text))
      (Path.firsts (paths.filter s.files.isText))
      (empty.saveAll (paths.filterMap (s.saveOf policy set))).report := by
  have hentries := PathMap.entries_insertAll (fun p => (s.saveOf policy set p).getD (p, []))
    (paths.filter s.files.isText)
    (fun p hp => by
      rcases Scanner.saveOf_of_isText policy hcovers hp with ⟨_, q, _, _, hq, _, hsome⟩
      rw [hsome, Option.getD_some]
      exact hq)
    (fun p hp q hq hsame => by
      rcases Scanner.saveOf_of_isText policy hcovers hp with ⟨_, _, _, _, _, _, hsome⟩
      rw [← Scanner.saveOf_congr policy hcovers hp hq hsame, hsome, Option.getD_some,
        Option.getD_some])
  have hempty : (empty : CloneStore).files = .empty := rfl
  rw [report, files_saveAll, Scanner.filterMap_saveOf policy hcovers, hempty, hentries,
    List.map_map, List.forall₂_map_right_iff, List.forall₂_same]
  intro p hp
  rcases Scanner.saveOf_of_isText policy hcovers (Path.mem_of_mem_firsts hp)
    with ⟨text, q, hlisted, htext, hq, _, hsome⟩
  simp only [Function.comp_apply, hsome, Option.getD_some]
  exact ⟨hlisted, hq, text, htext, rfl⟩

end CloneStore

end CloneScan
