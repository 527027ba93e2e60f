import CloneScan.Event
import CloneScan.FunctionDepth

/-!
# Function Depth along Events

How deep in function definitions a list of events leads. `FunctionDepth` takes one entry or
exit at a time; here it is taken along a whole list, from any depth.

An exit at depth zero is refused and leaves the depth where it is, so the depth is known after
any list whatever, balanced or not. Three things are read off it: the depth at the end, the
tokens that stand inside some function, and whether an exit was refused on the way. Each one
splits where the list is split, with the second part taken from the depth the first part
leads to.

## Main definitions

* `FunctionDepth.after`, `FunctionDepth.afterAll`: The depth after one event and after several.
* `FunctionDepth.refuses`, `FunctionDepth.refusesIn`: An exit that matches no entry.
* `FunctionDepth.tokensInside`: The tokens that stand inside some function.

## Theorems

* `FunctionDepth.leave_of_refuses`, `FunctionDepth.leave_of_accepts`: Leaving a function, by
  whether the exit is refused.
* `FunctionDepth.afterAll_append`, `FunctionDepth.tokensInside_append`: Splitting a list.
-/

namespace CloneScan

namespace FunctionDepth

/-- The depth after an event. An exit at depth zero changes nothing. -/
def after (d : FunctionDepth) : Event → FunctionDepth
  | .enter kind _ => if kind = functionDefinition then d.enter else d
  | .leave kind => if kind = functionDefinition then ⟨d.depth - 1⟩ else d
  | .token _ => d
  | .comment _ => d

/-- The depth after several events. -/
def afterAll (d : FunctionDepth) : List Event → FunctionDepth
  | [] => d
  | e :: rest => (d.after e).afterAll rest

/-- The event leaves a function where none was entered. -/
def refuses (d : FunctionDepth) (e : Event) : Bool :=
  e.closes functionDefinition && d.depth == 0

/-- Some event leaves a function where none was entered. -/
def refusesIn (d : FunctionDepth) : List Event → Bool
  | [] => false
  | e :: rest => d.refuses e || (d.after e).refusesIn rest

/-- The token of an event, if the event stands inside some function. -/
def tokenInside (d : FunctionDepth) (e : Event) : List Token :=
  if d.isInside then e.token?.toList else []

/-- The tokens of several events that stand inside some function, in order. -/
def tokensInside (d : FunctionDepth) : List Event → List Token
  | [] => []
  | e :: rest => d.tokenInside e ++ (d.after e).tokensInside rest

theorem after_enter_function (d : FunctionDepth) (line : Nat) :
    d.after (.enter functionDefinition line) = d.enter := by
  rw [after, if_pos rfl]

theorem after_enter_other (d : FunctionDepth) {kind : String} (line : Nat)
    (h : kind ≠ functionDefinition) : d.after (.enter kind line) = d := by
  rw [after, if_neg h]

theorem after_leave_function (d : FunctionDepth) :
    d.after (.leave functionDefinition) = ⟨d.depth - 1⟩ := by
  rw [after, if_pos rfl]

theorem after_leave_other (d : FunctionDepth) {kind : String} (h : kind ≠ functionDefinition) :
    d.after (.leave kind) = d := by
  rw [after, if_neg h]

/-- Only the exit from a function can be refused, and it is at depth zero. -/
theorem refuses_leave_function (d : FunctionDepth) :
    d.refuses (.leave functionDefinition) = (d.depth == 0) := by
  have hcloses : (Event.leave functionDefinition).closes functionDefinition = true :=
    beq_self_eq_true functionDefinition
  rw [refuses, hcloses, Bool.true_and]

theorem refuses_leave_other (d : FunctionDepth) {kind : String} (h : kind ≠ functionDefinition) :
    d.refuses (.leave kind) = false := by
  have hcloses : (Event.leave kind).closes functionDefinition = false := beq_false_of_ne h
  rw [refuses, hcloses, Bool.false_and]

theorem leave_of_refuses {d : FunctionDepth} (h : d.depth = 0) :
    d.leave = .error .unmatchedExit := by
  unfold leave
  rw [h]

theorem leave_of_accepts {d : FunctionDepth} (h : d.depth ≠ 0) :
    d.leave = .ok ⟨d.depth - 1⟩ := by
  rcases d with ⟨n⟩
  cases n with
  | zero => exact absurd rfl h
  | succ n => rfl

theorem tokensInside_of_no_token (d : FunctionDepth) {e : Event} (h : e.token? = none) :
    d.tokensInside [e] = [] := by
  simp only [tokensInside, tokenInside, h, Option.toList_none, ite_self, List.append_nil]

theorem afterAll_append (d : FunctionDepth) (first second : List Event) :
    d.afterAll (first ++ second) = (d.afterAll first).afterAll second := by
  induction first generalizing d with
  | nil => rfl
  | cons e rest ih => exact ih (d.after e)

theorem tokensInside_append (d : FunctionDepth) (first second : List Event) :
    d.tokensInside (first ++ second)
      = d.tokensInside first ++ (d.afterAll first).tokensInside second := by
  induction first generalizing d with
  | nil => rfl
  | cons e rest ih =>
      simp only [List.cons_append, tokensInside, afterAll, ih, List.append_assoc]

theorem refusesIn_append (d : FunctionDepth) (first second : List Event) :
    d.refusesIn (first ++ second)
      = (d.refusesIn first || (d.afterAll first).refusesIn second) := by
  induction first generalizing d with
  | nil => rfl
  | cons e rest ih =>
      simp only [List.cons_append, refusesIn, afterAll, ih, Bool.or_assoc]

end FunctionDepth

end CloneScan
