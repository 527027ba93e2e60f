import CloneScan.Visitor.Walk
import Mathlib.Data.List.Basic

/-!
# What a Walk Promises Every Visitor

A walk is written with a fault that it carries along: it is set by the first hook that fails, kept
by the others, and it decides once, after the first hook, whether the events are shown. Here it is
said without that. `WalkCall.ofWalk` lists the calls that are owed to a visitor, and
`WalkCall.steps` what its hooks do when they are called in that order, each with what the calls
before it left. The state, the context and the fault of the walk are then read off the steps, and
the fault is that of the first step that has one.

Nothing is known of the visitor. Its hooks may change the state, report and fail as they like, and
may look at the state to do so. That the walk makes the calls of the list and no others cannot be
seen from such a visitor, so `Visitor.recorded` adds a record to it: a visitor that does the same
and writes down every call.

## Main definitions

* `WalkCall`: A call of a hook.
* `WalkCall.ofWalk`: The calls that a walk owes a visitor.
* `WalkCall.steps`: What the hooks do at several calls.
* `WalkCall.run`: A walk after several calls.
* `Visitor.recorded`: The visitor with a record of its calls.

## Theorems

* `WalkCall.run_events`: The events of a walk are calls, also after one that failed.
* `walk_eq_run`: A walk is the calls it owes.
* `WalkCall.run_eq_steps`: State, context and fault after several calls.
* `WalkCall.run_recorded`: The record of several calls.
* `walk_calls_every_hook_once`: All of it, for a whole walk.
-/

namespace CloneScan

/-- A call of a hook in a walk. -/
inductive WalkCall where
  /-- The file begins. -/
  | enterFile
  /-- An event is shown. -/
  | seeEvent (e : Event)
  /-- The file ends. -/
  | leaveFile
  deriving Repr, DecidableEq

namespace WalkCall

variable {σ : Type}

/-- The hook that is called. -/
def hook (v : Visitor σ) : WalkCall → Hook σ
  | enterFile => v.enterFile
  | seeEvent e => v.seeEvent e
  | leaveFile => v.leaveFile

/-- What the hooks of a visitor do at several calls. Each call finds the state that the one before
    it left, and the context with everything that was reported until then. -/
def steps (v : Visitor σ) (context : Context) (state : σ) : List WalkCall → List (Step σ)
  | [] => []
  | call :: rest =>
    let step := (call.hook v context state).value
    step :: steps v (context.report step.findings) step.state rest

/-- The calls that a walk owes a visitor: the beginning of the file, its events unless the beginning
    failed, and the end of the file. -/
def ofWalk (v : Visitor σ) (unit : TranslationUnit) (context : Context) (state : σ) :
    List WalkCall :=
  let shown :=
    if (v.enterFile context state).value.fault.isSome then [] else unit.events.map seeEvent
  enterFile :: (shown ++ [leaveFile])

/-- A walk after several calls. -/
def run (v : Visitor σ) (w : Walk σ) (calls : List WalkCall) : Walk σ :=
  calls.foldl (fun w call => w.after (call.hook v w.context w.state).value) w

theorem run_append (v : Visitor σ) (w : Walk σ) (first second : List WalkCall) :
    run v w (first ++ second) = run v (run v w first) second :=
  List.foldl_append

/-- The events of a walk are calls, one for each. A fault that the walk has does not matter to
    that. -/
theorem run_events (v : Visitor σ) (es : List Event) (w : Walk σ) :
    (w.events v es).value = run v w (es.map seeEvent) := by
  induction es generalizing w with
  | nil => rfl
  | cons e rest ih =>
      rw [Walk.events, Logged.value_bind, Walk.event_value, ih]
      rfl

end WalkCall

/-- A walk is the calls it owes. -/
theorem walk_eq_run {σ : Type} (v : Visitor σ) (unit : TranslationUnit) (context : Context)
    (state : σ) :
    (walk v unit context state).value
      = WalkCall.run v ⟨state, context, none⟩ (WalkCall.ofWalk v unit context state) := by
  -- The walk has no fault before its first hook, so that it has the one of that hook afterwards.
  have hentered : ((⟨state, context, none⟩ : Walk σ).after (v.enterFile context state).value).fault
      = (v.enterFile context state).value.fault := rfl
  simp only [walk_stages, Walk.call_value, hentered, WalkCall.ofWalk]
  by_cases hfault : (v.enterFile context state).value.fault.isSome = true
  · simp only [if_pos hfault]
    rfl
  · simp only [if_neg hfault, WalkCall.run_events]
    rw [← List.cons_append, WalkCall.run_append]
    rfl

namespace WalkCall

variable {σ : Type}

/-- After several calls the state is the one that the last of them left, everything reported stands
    in the context, and the fault is the first that there was. -/
theorem run_eq_steps (v : Visitor σ) (calls : List WalkCall) (w : Walk σ) :
    run v w calls =
      ⟨((steps v w.context w.state calls).getLast?.map Step.state).getD w.state,
        w.context.report ((steps v w.context w.state calls).flatMap Step.findings),
        w.fault <|> (steps v w.context w.state calls).findSome? Step.fault⟩ := by
  induction calls generalizing w with
  | nil =>
      have hfault : (w.fault <|> none) = w.fault := by
        cases w.fault with
        | none => rfl
        | some fault => rfl
      rw [steps, List.flatMap_nil, Context.report_nil, List.findSome?_nil, hfault]
      rfl
  | cons call rest ih =>
      have hrun : run v w (call :: rest)
          = run v (w.after (call.hook v w.context w.state).value) rest := rfl
      rw [hrun, ih, steps, List.flatMap_cons, List.findSome?_cons]
      simp only [Walk.after, Walk.mk.injEq]
      refine ⟨?_, ?_, ?_⟩
      · -- The last step is one of the rest, if there is a rest.
        rw [List.getLast?_cons]
        cases (steps v (w.context.report (call.hook v w.context w.state).value.findings)
            (call.hook v w.context w.state).value.state rest).getLast? with
        | none => rfl
        | some step => rfl
      · simp only [Context.report, List.append_assoc]
      · cases w.fault with
        | some fault => rfl
        | none =>
            cases (call.hook v w.context w.state).value.fault with
            | none => rfl
            | some fault => rfl

end WalkCall

/-- A hook that does what another one does, and writes the call down. -/
def Hook.recorded {σ : Type} (call : WalkCall) (hook : Hook σ) : Hook (σ × List WalkCall) :=
  fun context state => do
    let step ← hook context state.1
    return ⟨(step.state, state.2 ++ [call]), step.findings, step.fault⟩

/-- A visitor that does what another one does, and writes its calls down. -/
def Visitor.recorded {σ : Type} (v : Visitor σ) : Visitor (σ × List WalkCall) where
  name := v.name
  enterFile := v.enterFile.recorded .enterFile
  seeEvent e := (v.seeEvent e).recorded (.seeEvent e)
  leaveFile := v.leaveFile.recorded .leaveFile

namespace WalkCall

variable {σ : Type}

/-- Every hook of a recorded visitor is recorded by its call. -/
theorem hook_recorded (v : Visitor σ) (call : WalkCall) :
    call.hook v.recorded = (call.hook v).recorded call := by
  cases call with
  | enterFile => rfl
  | seeEvent e => rfl
  | leaveFile => rfl

/-- Several calls are written down in order, and nothing else is changed by that. -/
theorem run_recorded (v : Visitor σ) (calls before : List WalkCall) (w : Walk σ) :
    run v.recorded ⟨(w.state, before), w.context, w.fault⟩ calls
      = ⟨((run v w calls).state, before ++ calls), (run v w calls).context,
        (run v w calls).fault⟩ := by
  induction calls generalizing w before with
  | nil =>
      rw [List.append_nil]
      rfl
  | cons call rest ih =>
      have hrest := ih (before ++ [call]) (w.after (call.hook v w.context w.state).value)
      rw [List.append_assoc, List.singleton_append] at hrest
      refine Eq.trans ?_ hrest
      rw [run, List.foldl_cons, hook_recorded]
      rfl

end WalkCall

/-- A walk begins the file once, then shows every event once and in order unless the beginning
    failed, also those that come after an event at which the visitor failed, and ends the file once
    in every case. That holds for every visitor. The state is the one that the last call left, and
    the context has everything that was reported. The fault is that of the first call that failed,
    and there is none exactly if no call did. -/
theorem walk_calls_every_hook_once {σ : Type} (v : Visitor σ) (unit : TranslationUnit)
    (context : Context) (state : σ) :
    let w := (walk v unit context state).value
    let calls := WalkCall.ofWalk v unit context state
    let steps := WalkCall.steps v context state calls
    (walk v.recorded unit context (state, [])).value
      = ⟨(w.state, calls), w.context, w.fault⟩ ∧
    steps.getLast?.map Step.state = some w.state ∧
    w.context = context.report (steps.flatMap Step.findings) ∧
    (w.fault = none ↔ ∀ step ∈ steps, step.fault = none) ∧
    ∀ fault, w.fault = some fault ↔ ∃ before step after, steps = before ++ step :: after ∧
      step.fault = some fault ∧ ∀ earlier ∈ before, earlier.fault = none := by
  intro w calls steps
  have hrun : w = WalkCall.run v ⟨state, context, none⟩ calls := walk_eq_run v unit context state
  have hsteps := WalkCall.run_eq_steps v calls ⟨state, context, none⟩
  have hfault : w.fault = steps.findSome? Step.fault := by
    rw [hrun, hsteps]
    rfl
  refine ⟨?_, ?_, ?_, ?_, fun fault => ?_⟩
  · -- The recorded visitor is owed the same calls, as its first hook fails where that one does.
    have howed : WalkCall.ofWalk v.recorded unit context (state, []) = calls := rfl
    have hrecorded := WalkCall.run_recorded v calls [] ⟨state, context, none⟩
    rw [List.nil_append, ← hrun] at hrecorded
    rw [walk_eq_run, howed]
    exact hrecorded
  · -- The beginning of the file is a call in every walk, so there is a last step.
    have hstate : w.state = (steps.getLast?.map Step.state).getD state := by
      rw [hrun, hsteps]
    cases hlast : steps.getLast? with
    | none => exact absurd (List.getLast?_eq_none_iff.mp hlast) (List.cons_ne_nil _ _)
    | some step =>
        rw [hstate, hlast]
        rfl
  · rw [hrun, hsteps]
  · rw [hfault, List.findSome?_eq_none_iff]
  · rw [hfault, List.findSome?_eq_some_iff]

end CloneScan
