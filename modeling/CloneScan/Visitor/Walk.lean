import CloneScan.Visitor.Basic

/-!
# Walks

A walk takes a visitor over the events of one file. A hook that fails on an event does not
stop it: the failure is logged and the walk goes on. Only a file that could not be entered
shows no events. The file is left in every case, and the walk's own fault is the first one
that any hook raised.

## Main definitions

* `Walk`: A visitor's state, the context and the first fault, underway.
* `Walk.call`: Calls a hook.
* `Walk.events`: Calls the event hook for each event.
* `walk`: Takes a visitor over a unit.

## Theorems

* `Walk.call_value`, `Walk.event_value`: Calling a hook is taking its step.
* `walk_stages`: A walk by its three stages.
-/

namespace CloneScan

/-- A walk underway. -/
structure Walk (σ : Type) where
  /-- The state of the visitor. -/
  state : σ
  /-- The file, with what was found so far. -/
  context : Context
  /-- The first fault that a hook raised. -/
  fault : Option Fault

namespace Walk

variable {σ : Type}

/-- The walk after a hook did its step. Only the first fault is kept. -/
def after (w : Walk σ) (step : Step σ) : Walk σ :=
  ⟨step.state, w.context.report step.findings, w.fault <|> step.fault⟩

/-- Calls a hook. -/
def call (w : Walk σ) (hook : Hook σ) : Logged (Walk σ) := do
  let step ← hook w.context w.state
  return w.after step

/-- Calls the event hook for one event, and logs a failure of it. -/
def event (v : Visitor σ) (w : Walk σ) (e : Event) : Logged (Walk σ) := do
  let step ← v.seeEvent e w.context w.state
  match step.fault with
  | none => return w.after step
  | some fault =>
    Logged.note .warn s!"visitor error: {fault.message}"
      [("visitor", .text v.name), ("file", .text w.context.path.shown)]
    return w.after step

/-- Calling a hook is taking its step. -/
theorem call_value (w : Walk σ) (hook : Hook σ) :
    (w.call hook).value = w.after (hook w.context w.state).value :=
  rfl

/-- The log of a failure does not touch the walk. -/
theorem event_value (v : Visitor σ) (w : Walk σ) (e : Event) :
    (event v w e).value = w.after (v.seeEvent e w.context w.state).value := by
  unfold event
  rw [Logged.value_bind]
  cases (v.seeEvent e w.context w.state).value.fault with
  | none => rfl
  | some fault => rfl

/-- Calls the event hook for each event, in order. -/
def events (v : Visitor σ) (w : Walk σ) : List Event → Logged (Walk σ)
  | [] => pure w
  | e :: rest => do
    let next ← event v w e
    events v next rest

end Walk

/-- Takes a visitor over the events of a unit. -/
def walk {σ : Type} (v : Visitor σ) (unit : TranslationUnit) (context : Context) (state : σ) :
    Logged (Walk σ) := do
  let entered ← Walk.call ⟨state, context, none⟩ v.enterFile
  let seen ← if entered.fault.isSome then pure entered else entered.events v unit.events
  seen.call v.leaveFile

/-- A walk by its three stages, without its log. -/
theorem walk_stages {σ : Type} (v : Visitor σ) (unit : TranslationUnit) (context : Context)
    (state : σ) :
    (walk v unit context state).value =
      let entered := (Walk.call ⟨state, context, none⟩ v.enterFile).value
      let seen :=
        if entered.fault.isSome then entered else (entered.events v unit.events).value
      (seen.call v.leaveFile).value := by
  unfold walk
  rw [Logged.value_bind]
  by_cases hfault : (Walk.call ⟨state, context, none⟩ v.enterFile).value.fault.isSome = true
  · simp only [if_pos hfault]
    rfl
  · simp only [if_neg hfault]
    rfl

end CloneScan
