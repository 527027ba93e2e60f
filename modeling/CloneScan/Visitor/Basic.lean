import CloneScan.Fault
import CloneScan.Log
import CloneScan.TranslationUnit

/-!
# Visitors

A visitor looks at one file at a time through three hooks: one before the first event, one
for every event, one after the last. A hook may change the visitor's state, report findings
and fail, and it may do all three at once: what it reported before it failed stays reported.

Hooks see the context of the file they are called for. They cannot change it other than by
reporting, so findings are only ever added.

## Main definitions

* `Finding`: What a rule has to say about a line.
* `Context`: The file being visited, with the findings so far.
* `Step`: What a hook did.
* `Hook`: A hook of a visitor.
* `Visitor`: A name and three hooks.

## Theorems

* `Context.report_nil`: No findings change nothing.
-/

namespace CloneScan

/-- What a rule has to say about a line. -/
structure Finding where
  rule : String
  /-- The line, counted from one. -/
  line : Nat
  /-- What the rule says. -/
  message : String
  deriving Repr, DecidableEq, Inhabited

/-- The file being visited, with what was found in it so far. -/
structure Context where
  path : Path
  /-- The findings, in the order they were reported. -/
  findings : List Finding
  deriving Repr, DecidableEq

namespace Context

/-- The context of a file in which nothing was found yet. -/
def ofPath (path : Path) : Context :=
  ⟨path, []⟩

/-- The context after further findings. -/
def report (c : Context) (findings : List Finding) : Context :=
  { c with findings := c.findings ++ findings }

/-- No findings change nothing. -/
theorem report_nil (c : Context) : c.report [] = c := by
  rw [report, List.append_nil]

end Context

/-- What a hook did: the state it leaves, what it reported and whether it failed. -/
structure Step (σ : Type) where
  /-- The state of the visitor afterwards. -/
  state : σ
  /-- What the hook reported. -/
  findings : List Finding
  /-- Why the hook failed, if it did. -/
  fault : Option Fault

namespace Step

variable {σ : Type}

/-- The hook leaves a state and nothing else. -/
def ok (state : σ) : Step σ :=
  ⟨state, [], none⟩

/-- The hook fails and leaves a state. -/
def fail (state : σ) (fault : Fault) : Step σ :=
  ⟨state, [], some fault⟩

end Step

/-- A hook of a visitor with states of type `σ`. -/
abbrev Hook (σ : Type) := Context → σ → Logged (Step σ)

/-- A hook that does nothing. -/
def Hook.idle {σ : Type} : Hook σ :=
  fun _ state => pure (Step.ok state)

/-- A name and three hooks. -/
structure Visitor (σ : Type) where
  /-- The name of the visitor. -/
  name : String
  /-- Called before the first event of a file. -/
  enterFile : Hook σ
  /-- Called for each event. -/
  seeEvent : Event → Hook σ
  /-- Called after the last event of a file, also when an earlier hook failed. -/
  leaveFile : Hook σ

end CloneScan
