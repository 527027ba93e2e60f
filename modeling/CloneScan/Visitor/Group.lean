import CloneScan.Visitor.Walk

/-!
# Groups of Visitors

Several visitors that are taken over the same file, one complete walk after the other. They
share the context, so their findings stand in one list, and each one's fault is kept under
its name. Nothing else passes from one to the next: the state of a group is the states of
its members side by side.

## Main definitions

* `GroupRun`: The states, the context and the complaints after a file.
* `VisitorGroup`: Visitors in order.
* `VisitorGroup.empty`, `VisitorGroup.one`, `VisitorGroup.optional`, `VisitorGroup.both`: The
  ways to make a group.
-/

namespace CloneScan

/-- What a group made of a file. -/
structure GroupRun (σ : Type) where
  /-- The states of the members. -/
  state : σ
  /-- The file, with what was found in it. -/
  context : Context
  /-- One line for each member that failed. -/
  complaints : List String

/-- Visitors in order, with their states side by side. -/
structure VisitorGroup (σ : Type) where
  /-- Takes every member over a unit. -/
  run : TranslationUnit → Context → σ → Logged (GroupRun σ)

namespace VisitorGroup

variable {σ τ : Type}

/-- The group without members. -/
def empty : VisitorGroup Unit :=
  ⟨fun _ context state => pure ⟨state, context, []⟩⟩

/-- The group of one visitor. -/
def one (v : Visitor σ) : VisitorGroup σ :=
  ⟨fun unit context state => do
    let w ← walk v unit context state
    return ⟨w.state, w.context, w.fault.toList.map fun fault => s!"{v.name}: {fault.message}"⟩⟩

/-- The group of at most one visitor; a state that belongs to no visitor is kept. -/
def optional : Option (Visitor σ) → VisitorGroup σ
  | some v => one v
  | none => ⟨fun _ context state => pure ⟨state, context, []⟩⟩

/-- The members of one group, then those of another. -/
def both (a : VisitorGroup σ) (b : VisitorGroup τ) : VisitorGroup (σ × τ) :=
  ⟨fun unit context state => do
    let first ← a.run unit context state.1
    let second ← b.run unit first.context state.2
    return ⟨(first.state, second.state), second.context, first.complaints ++ second.complaints⟩⟩

end VisitorGroup

end CloneScan
