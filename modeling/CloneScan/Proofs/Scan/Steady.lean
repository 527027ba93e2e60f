import CloneScan.Scanner

/-!
# Groups That Keep Their Footing

A group carries a state from file to file, and hands one context from member to member. Whether
that lets one file bear on another, or one visitor on another, depends on what a walk over a parsed
source does to the two. A group is steady if it does the least: the next state is known from the
last one and the file, the findings are known from the file alone and only ever added, and there is
no complaint.

Nothing is asked of the state a walk starts from. So it may be the one a walk of any other kind left
behind, and a scan that starts from it is as good as any. Groups side by side are steady if each of
them is, and their states are folded over the files side by side. That is why the visitors of a scan
can be told apart again.

## Main definitions

* `VisitorGroup.Steady`: What a group makes of a parsed source.
* `Scanner.reportWith`, `Scanner.stateAfter`: What a steady group makes of a file.

## Theorems

* `VisitorGroup.Steady.both`: Steady groups side by side.
* `Scanner.scanFile_steady`: A scanned file.
* `Scanner.scanOnto_steady`: A scan of several files.
* `Scanner.foldl_stateAfter_both`: What becomes of states that are side by side.
-/

namespace CloneScan

namespace VisitorGroup

variable {σ τ : Type}

/-- What a group makes of a parsed source: the next state is a function of the last one and the
    file, the findings are one of the file, and nothing is complained about. -/
def Steady (group : VisitorGroup σ) (grammar : Grammar) (next : Path → String → σ → σ)
    (found : Path → String → List Finding) : Prop :=
  ∀ (path : Path) (text : String) (context : Context) (state : σ), context.path = path →
    (group.run (TranslationUnit.ofParsed path text (grammar text)) context state).value
      = ⟨next path text state, context.report (found path text), []⟩

/-- Groups side by side keep to their own states, and their findings stand one after the other. -/
theorem Steady.both {a : VisitorGroup σ} {b : VisitorGroup τ} {grammar : Grammar}
    {nexta : Path → String → σ → σ} {nextb : Path → String → τ → τ}
    {founda foundb : Path → String → List Finding} (ha : a.Steady grammar nexta founda)
    (hb : b.Steady grammar nextb foundb) :
    (a.both b).Steady grammar
      (fun path text state => (nexta path text state.1, nextb path text state.2))
      (fun path text => founda path text ++ foundb path text) := by
  intro path text context state hpath
  have hfirst := ha path text context state.1 hpath
  -- The second group sees the findings of the first, and the same path.
  have hsecond := hb path text (context.report (founda path text)) state.2 hpath
  have hreport : (context.report (founda path text)).report (foundb path text)
      = context.report (founda path text ++ foundb path text) := by
    simp only [Context.report, List.append_assoc]
  simp only [VisitorGroup.both, Logged.value_bind, Logged.value_pure, hfirst, hsecond, hreport,
    List.append_nil]

/-- A group without members is steady. -/
theorem steady_none (grammar : Grammar) :
    (optional none : VisitorGroup σ).Steady grammar (fun _ _ state => state) fun _ _ => [] := by
  intro path text context state _
  rw [Context.report_nil]
  rfl

/-- The group of one visitor is steady if its walks are. -/
theorem steady_one {v : Visitor σ} {grammar : Grammar} {next : Path → String → σ → σ}
    {found : Path → String → List Finding}
    (h : ∀ (path : Path) (text : String) (context : Context) (state : σ), context.path = path →
      (walk v (TranslationUnit.ofParsed path text (grammar text)) context state).value
        = ⟨next path text state, context.report (found path text), none⟩) :
    (one v).Steady grammar next found := by
  intro path text context state hpath
  simp only [one, Logged.value_bind, Logged.value_pure, h path text context state hpath,
    Option.toList_none, List.map_nil]

end VisitorGroup

namespace Scanner

variable {σ : Type}

/-- The report on a file, given what is found in its text. -/
def reportWith (s : Scanner) (found : Path → String → List Finding) (path : Path) : FileReport :=
  match s.files.readText path with
  | .error fault => ⟨path, [], false, [fault.message]⟩
  | .ok text => ⟨path, found path text, (s.grammar text).hasErrors, []⟩

/-- The state after a file, given what its text does to it. A file without a text does nothing. -/
def stateAfter (s : Scanner) (next : Path → String → σ → σ) (state : σ) (path : Path) : σ :=
  match s.files.readText path with
  | .error _ => state
  | .ok text => next path text state

theorem parseFile_eq (s : Scanner) (path : Path) :
    s.parseFile path = (s.files.readText path).map fun text =>
      TranslationUnit.parse s.grammar path text := by
  unfold parseFile
  cases s.files.readText path with
  | error fault => rfl
  | ok text => rfl

variable (s : Scanner) {group : VisitorGroup σ} {next : Path → String → σ → σ}
  {found : Path → String → List Finding}

/-- What a steady group makes of a file, from any state. -/
theorem scanFile_steady (h : group.Steady s.grammar next found) (path : Path) (state : σ) :
    (s.scanFile group path state).value
      = (s.reportWith found path, s.stateAfter next state path) := by
  unfold scanFile reportWith stateAfter
  rw [parseFile_eq]
  cases s.files.readText path with
  | error fault => rfl
  | ok text =>
      have hparsed : (TranslationUnit.parse s.grammar path text).value
          = TranslationUnit.ofParsed path text (s.grammar text) := rfl
      have herrors : (TranslationUnit.ofParsed path text (s.grammar text)).hasErrors
          = (s.grammar text).hasErrors := rfl
      have hrun := h path text (.ofPath path) state rfl
      simp only [Except.map, Logged.value_bind, hparsed, herrors]
      -- A syntax error is logged, and has no part in the report but its own field.
      cases (s.grammar text).hasErrors with
      | false =>
          simp only [Bool.false_eq_true, if_false, Logged.value_bind, Logged.value_pure, hrun]
          rfl
      | true =>
          simp only [if_true, Logged.value_bind, Logged.value_pure, hrun]
          rfl

/-- A scan of several files by a steady group is a report for each file, and a fold of the state
    over the files. -/
theorem scanOnto_steady (h : group.Steady s.grammar next found) (paths : List Path)
    (summary : Summary) (state : σ) :
    (s.scanOnto group summary state paths).value
      = ((paths.map (s.reportWith found)).foldl Summary.add summary,
        paths.foldl (s.stateAfter next) state) := by
  induction paths generalizing summary state with
  | nil => rfl
  | cons path rest ih =>
      rw [scanOnto, Logged.value_bind, scanFile_steady s h, ih]
      rfl

/-- The states of groups side by side are folded side by side. -/
theorem foldl_stateAfter_both {τ : Type} (nexta : Path → String → σ → σ)
    (nextb : Path → String → τ → τ) (paths : List Path) (a : σ) (b : τ) :
    paths.foldl (s.stateAfter fun path text state =>
        (nexta path text state.1, nextb path text state.2)) (a, b)
      = (paths.foldl (s.stateAfter nexta) a, paths.foldl (s.stateAfter nextb) b) := by
  induction paths generalizing a b with
  | nil => rfl
  | cons path rest ih =>
      have hstep : s.stateAfter (fun path text state =>
          (nexta path text state.1, nextb path text state.2)) (a, b) path
            = (s.stateAfter nexta a path, s.stateAfter nextb b path) := by
        unfold stateAfter
        cases s.files.readText path with
        | error fault => rfl
        | ok text => rfl
      rw [List.foldl_cons, hstep, ih]
      rfl

end Scanner

end CloneScan
