import CloneScan.Proofs.Scan.Outcome

/-!
# Files and Visitors Stay Apart

Both visitors of a scan go from file to file with a state, and both report into one context. None
of it shows. A file gets the report it would get alone, from visitors that have seen nothing; the
clone tokens that are stored for it are those it would give alone; and either visitor may be left
out, or take the other's turn, without a difference to the other.

Where a scan starts from plays no part in this either. The collector may hold any store and have any
file open, one whose walk was never finished included: entering the next file forgets it.

What is stored for a path is what was last saved for it, so the order of the files could matter
where several of them go by one path. It does not, for they have the same text and are measured by
the same file under analysis, and so they save the same (`Scanner.eq_of_mem_saves`). That a store
does not tell apart two lists with the same saves is `CloneStore.tokens?_saveAll_congr`.

## Main definitions

* `AnalysisSet.ofFiles`: Several measured files under analysis.
* `Scanner.scanBoth`: A scan with both visitors.

## Theorems

* `AnalysisSet.same_of_find?`: A file under analysis is found under its own path.
* `CloneStore.tokens?_saveAll`: What is stored for a path after several saves.
* `Scanner.eq_of_mem_saves`: What is saved for a path is saved alike by each of its spellings.
* `Scanner.scanBoth_eq`: A scan with both visitors, from any state.
* `files_and_visitors_stay_apart`: Files and visitors do not influence each other.
-/

namespace CloneScan

namespace AnalysisSet

/-- Several measured files under analysis. Of two with the same path the later one is. -/
def ofFiles (measured : List SourceFile) : AnalysisSet :=
  measured.foldl add .empty

/-- A file under analysis is found under its own path, in whatever spelling it is asked for. -/
theorem same_of_find? {measured : List SourceFile} {p : Path} {file : SourceFile}
    (h : (ofFiles measured).find? p = some file) : file.path.Same p := by
  suffices hall : ∀ set : AnalysisSet,
      (∀ file : SourceFile, set.find? p = some file → file.path.Same p) →
      ∀ file : SourceFile, (measured.foldl add set).find? p = some file → file.path.Same p from
    hall .empty nofun file h
  clear h
  induction measured with
  | nil => exact fun _ hset => hset
  | cons first rest ih =>
      intro set hset
      refine ih (add set first) fun file hfile => ?_
      rw [add, PathMap.find?_insert] at hfile
      by_cases hsame : first.path.Same p
      · obtain rfl : first = file := Option.some.inj ((if_pos hsame).symm.trans hfile)
        exact hsame
      · exact hset file ((if_neg hsame).symm.trans hfile)

end AnalysisSet

namespace CloneStore

/-- What is stored for a path after several saves, if all of them that go by this path bring the
    same. -/
theorem tokens?_saveAll {saves : List (Path × List CloneToken)} {q : Path}
    {tokens : List CloneToken} (huniq : ∀ save ∈ saves, save.1.Same q → save.2 = tokens)
    (store : CloneStore)
    (hsome : (∃ save ∈ saves, save.1.Same q) ∨ store.tokens? q = some tokens) :
    (store.saveAll saves).tokens? q = some tokens := by
  induction saves generalizing store with
  | nil => exact hsome.resolve_left fun ⟨_, hmem, _⟩ => absurd hmem List.not_mem_nil
  | cons save rest ih =>
      rcases List.forall_mem_cons.mp huniq with ⟨hfirst, hrest⟩
      refine ih hrest _ ?_
      have hinsert : (store.saveTokens save.1 save.2).tokens? q
          = if save.1.Same q then some save.2 else store.tokens? q :=
        PathMap.find?_insert store.files save.1 q save.2
      by_cases hsame : save.1.Same q
      · right
        rw [hinsert, if_pos hsame, hfirst hsame]
      · refine hsome.imp ?_ fun hstored => ?_
        · rintro ⟨other, hother, hq⟩
          rcases List.mem_cons.mp hother with rfl | hmem
          · exact absurd hq hsame
          · exact ⟨other, hmem, hq⟩
        · rw [hinsert, if_neg hsame, hstored]

/-- A path that no save goes by keeps what it has. -/
theorem tokens?_saveAll_of_absent {saves : List (Path × List CloneToken)} {q : Path}
    (habsent : ∀ save ∈ saves, ¬ save.1.Same q) (store : CloneStore) :
    (store.saveAll saves).tokens? q = store.tokens? q := by
  induction saves generalizing store with
  | nil => rfl
  | cons save rest ih =>
      rcases List.forall_mem_cons.mp habsent with ⟨hfirst, hrest⟩
      exact (ih hrest _).trans ((PathMap.find?_insert store.files save.1 q save.2).trans
        (if_neg hfirst))

/-- Neither the order nor the number of saves matters, if those that go by one path are alike. -/
theorem tokens?_saveAll_congr {first second : List (Path × List CloneToken)}
    (halike : ∀ a ∈ first, ∀ b ∈ first, a.1.Same b.1 → a = b)
    (hmem : ∀ save, save ∈ first ↔ save ∈ second) (store : CloneStore) (q : Path) :
    (store.saveAll first).tokens? q = (store.saveAll second).tokens? q := by
  by_cases hsome : ∃ save ∈ first, save.1.Same q
  · -- Both lists have a save that goes by this path, and it is the same one.
    rcases hsome with ⟨save, hsave, hq⟩
    have huniq : ∀ other ∈ first, other.1.Same q → other.2 = save.2 := by
      intro other hother hotherq
      rw [halike other hother save hsave (hotherq.trans hq.symm)]
    rw [tokens?_saveAll huniq store (Or.inl ⟨save, hsave, hq⟩),
      tokens?_saveAll (fun other hother => huniq other ((hmem other).mpr hother)) store
        (Or.inl ⟨save, (hmem save).mp hsave, hq⟩)]
  · have habsent : ∀ save ∈ first, ¬ save.1.Same q := fun save hsave hq =>
      hsome ⟨save, hsave, hq⟩
    rw [tokens?_saveAll_of_absent habsent,
      tokens?_saveAll_of_absent fun save hsave => habsent save ((hmem save).mpr hsave)]

end CloneStore

namespace Scanner

/-- A file saves something if it holds a text and is under analysis. -/
theorem saveOf_eq_some_iff {s : Scanner} {policy : ImagePolicy} {set : AnalysisSet} {p : Path}
    {save : Path × List CloneToken} :
    s.saveOf policy set p = some save ↔
      ∃ text file, s.files.readText p = .ok text ∧ set.find? p = some file ∧
        save = (file.path, cloneTokensIn policy s.grammar text file) := by
  unfold saveOf
  cases s.files.readText p with
  | error fault => exact iff_of_false nofun (by rintro ⟨_, _, ⟨⟩, _⟩)
  | ok text =>
      constructor
      · intro h
        rcases Option.map_eq_some_iff.mp h with ⟨file, hfind, rfl⟩
        exact ⟨text, file, rfl, hfind, rfl⟩
      · rintro ⟨found, file, htext, hfind, rfl⟩
        obtain rfl := Except.ok.inj htext
        exact Option.map_eq_some_iff.mpr ⟨file, hfind, rfl⟩

/-- Two spellings of a path save the same, and under the same spelling. -/
theorem eq_of_mem_saves (s : Scanner) (policy : ImagePolicy) (measured : List SourceFile)
    {files : List Path} {a b : Path × List CloneToken}
    (ha : a ∈ files.filterMap (s.saveOf policy (.ofFiles measured)))
    (hb : b ∈ files.filterMap (s.saveOf policy (.ofFiles measured))) (hsame : a.1.Same b.1) :
    a = b := by
  rcases List.mem_filterMap.mp ha with ⟨p, _, hp⟩
  rcases List.mem_filterMap.mp hb with ⟨q, _, hq⟩
  rcases saveOf_eq_some_iff.mp hp with ⟨first, file, hfirst, hfile, rfl⟩
  rcases saveOf_eq_some_iff.mp hq with ⟨second, other, hsecond, hother, rfl⟩
  -- Each file is found under its own path, so the paths that were asked for are the same too.
  have hpq : p.Same q := (AnalysisSet.same_of_find? hfile).symm.trans
    (hsame.trans (AnalysisSet.same_of_find? hother))
  obtain rfl := FileSystem.readText_of_same hpq hfirst hsecond
  rw [PathMap.find?_congr _ hpq, hother] at hfile
  rw [Option.some.inj hfile]

/-- A scan with both visitors, from any state of the collector: the summary, and the collector
    afterwards. -/
def scanBoth (s : Scanner) (rule : CommentRule) (c : Collector CloneStore) (files : List Path) :
    Summary × Collector CloneStore :=
  let group := (VisitorGroup.one Collector.visitor).both (.one rule.visitor)
  let (summary, last, _) := (s.scanFiles group files (c, ())).value
  (summary, last)

variable (s : Scanner) (rule : CommentRule)

/-- A scan with both visitors has a report for each file, and folds the collector over the files. -/
theorem scanBoth_eq (c : Collector CloneStore) (files : List Path) :
    s.scanBoth rule c files
      = ((files.map (s.reportOn rule)).foldl Summary.add .empty,
        files.foldl (s.stateAfter (Collector.afterText s.grammar)) c) := by
  have hsteady := (Collector.steady (ε := CloneStore) s.grammar).both (rule.steady s.grammar)
  have hpair := s.foldl_stateAfter_both (Collector.afterText s.grammar) (fun _ _ state => state)
    files c ()
  rw [scanBoth, scanFiles, scanOnto_steady s hsteady, hpair]
  rfl

/-- The visitors may take turns the other way round. -/
theorem scanFiles_swapped (c : Collector CloneStore) (files : List Path) :
    (s.scanFiles ((VisitorGroup.one rule.visitor).both (.one Collector.visitor)) files
        ((), c)).value
      = ((s.scanBoth rule c files).1, (), (s.scanBoth rule c files).2) := by
  have hsteady := (rule.steady s.grammar).both (Collector.steady (ε := CloneStore) s.grammar)
  have hpair := s.foldl_stateAfter_both (fun _ _ state => state) (Collector.afterText s.grammar)
    files () c
  simp only [List.append_nil] at hsteady
  rw [scanFiles, scanOnto_steady s hsteady, hpair, scanBoth_eq]
  rfl

/-- The comment rule finds the same alone. -/
theorem scanFiles_rule (c : Collector CloneStore) (files : List Path) :
    (s.scanFiles (.one rule.visitor) files ()).value.1 = (s.scanBoth rule c files).1 := by
  rw [scanFiles, scanOnto_steady s (rule.steady s.grammar), scanBoth_eq]
  rfl

end Scanner

/-- A report without the findings of a rule. -/
def FileReport.without (r : FileReport) (name : String) : FileReport :=
  { r with findings := r.findings.filter fun f => f.rule ≠ name }

/-- A summary without the findings of a rule. -/
def Summary.without (s : Summary) (name : String) : Summary :=
  { s with reports := s.reports.map (·.without name) }

/-- Leaving out findings does not change what failed. -/
theorem Summary.without_foldl_add (name : String) (reports : List FileReport) (s : Summary) :
    (reports.foldl add s).without name
      = (reports.map (·.without name)).foldl add (s.without name) := by
  induction reports generalizing s with
  | nil => rfl
  | cons r rest ih =>
      have hadd : (s.add r).without name = (s.without name).add (r.without name) := by
        simp only [without, add, List.map_append, List.map_singleton]
        rfl
      rw [List.foldl_cons, ih, hadd]
      rfl

/-- All findings of the comment rule go by its name. -/
theorem CommentRule.rule_of_mem_findingsIn {r : CommentRule} {grammar : Grammar} {path : Path}
    {text : String} {f : Finding} (h : f ∈ r.findingsIn grammar path text) : f.rule = ruleName := by
  rw [findingsIn_eq, findings] at h
  rcases List.mem_map.mp h with ⟨c, _, rfl⟩
  rfl

/-- The collector saves the same alone, and has no findings. -/
theorem Scanner.scanFiles_collector (s : Scanner) (rule : CommentRule) (c : Collector CloneStore)
    (files : List Path) :
    (s.scanFiles (.one Collector.visitor) files c).value
      = ((s.scanBoth rule c files).1.without CommentRule.ruleName,
        (s.scanBoth rule c files).2) := by
  have hreport : s.reportWith (fun _ _ => [])
      = fun path => (s.reportOn rule path).without CommentRule.ruleName := by
    funext path
    unfold reportWith reportOn
    cases s.files.readText path with
    | error fault => rfl
    | ok text =>
        have hnone : (rule.findingsIn s.grammar path text).filter
            (fun f => f.rule ≠ CommentRule.ruleName) = [] := by
          rw [List.filter_eq_nil_iff]
          intro f hf hother
          exact of_decide_eq_true hother (CommentRule.rule_of_mem_findingsIn hf)
        simp only [FileReport.without, hnone]
  rw [scanFiles, scanOnto_steady s (Collector.steady s.grammar), scanBoth_eq, hreport,
    Summary.without_foldl_add, List.map_map]
  rfl

namespace Scanner

variable (s : Scanner) (rule : CommentRule) (c : Collector CloneStore)

/-- A scan with both visitors reports on each file what is reported on it by itself. -/
theorem reports_scanBoth (files : List Path) :
    (s.scanBoth rule c files).1.reports = files.map (s.reportOn rule) := by
  rw [scanBoth_eq, Summary.foldl_add]
  rfl

/-- What is stored after a scan with both visitors: what was stored before, and then the saves of
    the files. -/
theorem receiver_scanBoth (files : List Path) :
    (s.scanBoth rule c files).2.receiver
      = c.receiver.saveAll (files.filterMap (s.saveOf c.policy c.files)) := by
  rw [scanBoth_eq, (Collector.after_foldl s files c).receiver]

variable {measured : List SourceFile} (hfiles : c.files = .ofFiles measured)

include hfiles

/-- A file that holds a text and is under analysis has its clone tokens stored. -/
theorem tokens?_scanBoth {files : List Path} {p : Path} (hp : p ∈ files) {text : String}
    {file : SourceFile} (htext : s.files.readText p = .ok text)
    (hfile : c.files.find? p = some file) :
    (s.scanBoth rule c files).2.receiver.tokens? p
      = some (cloneTokensIn c.policy s.grammar text file) := by
  have hsave : s.saveOf c.policy c.files p
      = some (file.path, cloneTokensIn c.policy s.grammar text file) :=
    saveOf_eq_some_iff.mpr ⟨text, file, htext, hfile, rfl⟩
  have hmem := List.mem_filterMap.mpr ⟨p, hp, hsave⟩
  rw [receiver_scanBoth]
  rw [hfiles] at hfile hmem ⊢
  have hsame := AnalysisSet.same_of_find? hfile
  refine CloneStore.tokens?_saveAll (fun save hother hq => ?_) _ (Or.inl ⟨_, hmem, hsame⟩)
  rw [s.eq_of_mem_saves c.policy measured hother hmem (hq.trans hsame.symm)]

/-- Two scans of the same files store the same, in whatever order and however often they are
    scanned. -/
theorem tokens?_scanBoth_congr {first second : List Path}
    (hmem : ∀ p, p ∈ first ↔ p ∈ second) (q : Path) :
    (s.scanBoth rule c first).2.receiver.tokens? q
      = (s.scanBoth rule c second).2.receiver.tokens? q := by
  rw [receiver_scanBoth, receiver_scanBoth, hfiles]
  refine CloneStore.tokens?_saveAll_congr
    (fun a ha b hb => s.eq_of_mem_saves c.policy measured ha hb) (fun save => ?_) _ q
  simp only [List.mem_filterMap, hmem]

omit hfiles in
/-- A scan that goes on is a scan of all the files. -/
theorem scanBoth_scanBoth (first second : List Path) :
    (s.scanBoth rule (s.scanBoth rule c first).2 second).2
      = (s.scanBoth rule c (first ++ second)).2 := by
  simp only [scanBoth_eq, List.foldl_append]

end Scanner

/-- Files and visitors do not influence each other. From any state of the collector, a file gets the
    report and the clone tokens it gets alone from visitors that have seen nothing. So the reports
    of more files follow those of the first ones; another order of the files gives the same reports
    in that order, and stores the same; scanning files again stores nothing new; and either visitor
    comes to the same without the other, or in the other's turn. -/
theorem files_and_visitors_stay_apart (s : Scanner) (rule : CommentRule) (policy : ImagePolicy)
    (measured : List SourceFile) (store : CloneStore) (channel : NoteChannel)
    (current : Option OpenFile) (files : List Path) :
    let set := AnalysisSet.ofFiles measured
    let prior : Collector CloneStore := ⟨policy, set, store, channel, current⟩
    let fresh : Collector CloneStore := .idle policy set .empty
    let scan := s.scanBoth rule prior
    (scan files).1.reports = files.flatMap (fun p => (s.scanBoth rule fresh [p]).1.reports) ∧
    (∀ p ∈ files, s.files.isText p = true → (set.find? p).isSome = true →
      ∃ tokens, (scan files).2.receiver.tokens? p = some tokens ∧
        (s.scanBoth rule fresh [p]).2.receiver.tokens? p = some tokens) ∧
    (∀ more other, (scan (files ++ more)).1.reports
      = (scan files).1.reports ++ (s.scanBoth rule other more).1.reports) ∧
    (∀ order, order.Perm files → (scan order).1.reports.Perm (scan files).1.reports ∧
      ∀ q, (scan order).2.receiver.tokens? q = (scan files).2.receiver.tokens? q) ∧
    (∀ again, again ⊆ files → ∀ q, (s.scanBoth rule (scan files).2 again).2.receiver.tokens? q
      = (scan files).2.receiver.tokens? q) ∧
    (s.scanFiles (.one Collector.visitor) files prior).value
      = ((scan files).1.without CommentRule.ruleName, (scan files).2) ∧
    (s.scanFiles (.one rule.visitor) files ()).value.1 = (scan files).1 ∧
    (s.scanFiles ((VisitorGroup.one rule.visitor).both (.one Collector.visitor)) files
        ((), prior)).value = ((scan files).1, (), (scan files).2) := by
  intro set prior fresh scan
  refine ⟨?_, ?_, ?_, ?_, ?_, s.scanFiles_collector rule prior files,
    s.scanFiles_rule rule prior files, s.scanFiles_swapped rule prior files⟩
  · simp only [scan, Scanner.reports_scanBoth, List.map_singleton]
    exact List.map_eq_flatMap
  · intro p hp htexted hanalysed
    rcases FileSystem.isText_iff.mp htexted with ⟨text, htext⟩
    rcases Option.isSome_iff_exists.mp hanalysed with ⟨file, hfile⟩
    exact ⟨_, s.tokens?_scanBoth rule prior rfl hp htext hfile,
      s.tokens?_scanBoth rule fresh rfl (List.mem_singleton_self p) htext hfile⟩
  · intro more other
    simp only [scan, Scanner.reports_scanBoth, List.map_append]
  · intro order horder
    refine ⟨?_, s.tokens?_scanBoth_congr rule prior rfl fun p => horder.mem_iff⟩
    simp only [scan, Scanner.reports_scanBoth]
    exact horder.map _
  · intro again hagain q
    -- Scanning again is scanning a longer list, with no other files in it.
    have hmem : ∀ p, p ∈ files ++ again ↔ p ∈ files := fun p =>
      List.mem_append.trans (or_iff_left_of_imp fun hp => hagain hp)
    exact (congrArg (·.receiver.tokens? q) (s.scanBoth_scanBoth rule prior files again)).trans
      (s.tokens?_scanBoth_congr rule prior rfl hmem q)

/-- A collector that holds nothing yet, and was stopped inside three functions of some file. -/
def interrupted : Collector CloneStore :=
  ⟨.exact, .ofFiles [.ofText ⟨"x/a.cpp"⟩ nestedText], .empty, .kept [], some ⟨⟨3⟩, none⟩⟩

/-- A file that holds no text may come before one that does or after it, and this one may come
    twice. -/
theorem files_and_visitors_stay_apart_interrupted :
    let scan := Scanner.scanBoth ⟨sourceAndImage, fun _ => nestedFunctions, []⟩ ⟨"", "", none⟩
    (∃ tokens, (scan interrupted [⟨"x/a.cpp"⟩, ⟨"b.cpp"⟩]).2.receiver.tokens? ⟨"x/a.cpp"⟩
      = some tokens) ∧
    ∀ q,
      (scan interrupted [⟨"b.cpp"⟩, ⟨"x/a.cpp"⟩]).2.receiver.tokens? q
        = (scan interrupted [⟨"x/a.cpp"⟩, ⟨"b.cpp"⟩]).2.receiver.tokens? q ∧
      (scan (scan interrupted [⟨"x/a.cpp"⟩, ⟨"b.cpp"⟩]).2 [⟨"x/a.cpp"⟩]).2.receiver.tokens? q
        = (scan interrupted [⟨"x/a.cpp"⟩, ⟨"b.cpp"⟩]).2.receiver.tokens? q := by
  intro scan
  rcases files_and_visitors_stay_apart ⟨sourceAndImage, fun _ => nestedFunctions, []⟩ ⟨"", "", none⟩
    .exact [.ofText ⟨"x/a.cpp"⟩ nestedText] .empty (.kept []) (some ⟨⟨3⟩, none⟩)
    [⟨"x/a.cpp"⟩, ⟨"b.cpp"⟩] with ⟨-, hstored, -, horder, hagain, -⟩
  have htexted : sourceAndImage.isText ⟨"x/a.cpp"⟩ = true := by cbv
  have hanalysed : ((AnalysisSet.ofFiles [.ofText ⟨"x/a.cpp"⟩ nestedText]).find?
      ⟨"x/a.cpp"⟩).isSome = true := by cbv
  rcases hstored ⟨"x/a.cpp"⟩ List.mem_cons_self htexted hanalysed with ⟨tokens, htokens, -⟩
  exact ⟨⟨tokens, htokens⟩, fun q => ⟨(horder _ (.swap _ _ [])).2 q,
    hagain [⟨"x/a.cpp"⟩] (List.cons_subset_cons _ (List.nil_subset _)) q⟩⟩

end CloneScan
