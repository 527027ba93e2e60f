import CloneScan.Proofs.Event.Depth
import CloneScan.Tree.Reading

/-!
# Brackets

The events of a syntax tree as a word of brackets. A node that opens is pushed on a stack by
its kind, and a node that closes has to find its own kind on top. `nest` reads one event that
way and `nestAll` a list of them, and both give nothing once a bracket does not fit.

The events of a tree leave every stack as they found it. A node decides twice whether it is a
branch, when it is reached and when it is left, and `nestAll_eventsOf` says that the two
decisions agree for every node of every tree, mended ones included.

The depth of functions is a shadow of the stack: it counts the function definitions on it. A
list that nests therefore never leaves a function that was not entered.

## Main definitions

* `Event.nest`: The open nodes after an event.
* `nestAll`: The open nodes after several events.

## Theorems

* `nestAll_append`: Splitting a list.
* `nestAll_eventsOf`: The events of a tree leave the stack as it was.
* `afterAll_of_nestAll`: The depth counts the open function definitions.
* `afterAll_of_restores`: Events that leave every stack alone leave the depth alone.
-/

namespace CloneScan

/-- The kinds of the nodes that are open after an event, the innermost first; nothing if the
    event closes a node other than the innermost one. -/
def Event.nest (stack : List String) : Event → Option (List String)
  | .enter kind _ => some (kind :: stack)
  | .leave kind =>
    match stack with
    | [] => none
    | top :: rest => if top = kind then some rest else none
  | .token _ => some stack
  | .comment _ => some stack

/-- The kinds of the nodes that are open after several events. -/
def nestAll (stack : List String) : List Event → Option (List String)
  | [] => some stack
  | e :: rest => (e.nest stack).bind fun next => nestAll next rest

theorem nestAll_append (stack : List String) (first second : List Event) :
    nestAll stack (first ++ second)
      = (nestAll stack first).bind fun next => nestAll next second := by
  induction first generalizing stack with
  | nil => rfl
  | cons e rest ih =>
      -- A bracket that does not fit ends both sides.
      simp only [List.cons_append, nestAll]
      cases e.nest stack with
      | none => rfl
      | some next => exact ih next

theorem nestAll_tokens (stack : List String) (t : Option Token) :
    nestAll stack (t.toList.map Event.token) = some stack := by
  cases t with
  | none => rfl
  | some t => rfl

/-- A branch around events that nest leaves the stack as it was. -/
theorem nestAll_branch (stack : List String) (kind : String) (line : Nat) (body : List Event)
    (h : nestAll (kind :: stack) body = some (kind :: stack)) :
    nestAll stack (.enter kind line :: body ++ [.leave kind]) = some stack := by
  have hlast : nestAll (kind :: stack) [.leave kind] = some stack := by
    simp only [nestAll, Event.nest, if_true, Option.bind_some]
  simp only [List.cons_append, nestAll, Event.nest, Option.bind_some]
  rw [nestAll_append, h]
  exact hlast

mutual

theorem nestAll_eventsOf (source : ByteIndex) (parent : Option Node) (t : SyntaxTree)
    (stack : List String) : nestAll stack (eventsOf source parent t) = some stack := by
  cases t with
  | mk n cs =>
      rw [eventsOf]
      cases role parent (.mk n cs) with
      | branch => exact nestAll_branch _ _ _ _ (nestAll_eventsOfAll source (some n) cs _)
      | transparent => exact nestAll_eventsOfAll source (some n) cs stack
      | token kind => exact nestAll_tokens stack _
      | comment => rfl
      | skipped => rfl

theorem nestAll_eventsOfAll (source : ByteIndex) (parent : Option Node) (ts : List SyntaxTree)
    (stack : List String) : nestAll stack (eventsOfAll source parent ts) = some stack := by
  cases ts with
  | nil => rfl
  | cons t ts =>
      rw [eventsOfAll, nestAll_append, nestAll_eventsOf source parent t stack]
      exact nestAll_eventsOfAll source parent ts stack

end

/-- The depth counts the function definitions among the open nodes, and an event that nests
    keeps it so. -/
theorem after_of_nest {e : Event} {stack next : List String} (h : e.nest stack = some next) :
    FunctionDepth.after ⟨stack.count functionDefinition⟩ e
        = ⟨next.count functionDefinition⟩ ∧
      FunctionDepth.refuses ⟨stack.count functionDefinition⟩ e = false := by
  cases e with
  | enter kind line =>
      simp only [Event.nest, Option.some.injEq] at h
      subst h
      refine ⟨?_, rfl⟩
      by_cases hkind : kind = functionDefinition
      · subst hkind
        rw [FunctionDepth.after_enter_function, List.count_cons_self]
        rfl
      · rw [FunctionDepth.after_enter_other _ line hkind, List.count_cons_of_ne hkind]
  | leave kind =>
      cases stack with
      | nil => simp only [Event.nest, reduceCtorEq] at h
      | cons top rest =>
          -- The innermost node is the one that closes, and it is not counted any more.
          simp only [Event.nest] at h
          by_cases htop : top = kind
          · rw [if_pos htop, Option.some.injEq] at h
            subst h htop
            by_cases hkind : top = functionDefinition
            · subst hkind
              rw [FunctionDepth.after_leave_function, FunctionDepth.refuses_leave_function,
                List.count_cons_self, Nat.add_sub_cancel]
              exact ⟨rfl, rfl⟩
            · rw [FunctionDepth.after_leave_other _ hkind,
                FunctionDepth.refuses_leave_other _ hkind, List.count_cons_of_ne hkind]
              exact ⟨rfl, rfl⟩
          · rw [if_neg htop] at h
            exact absurd h (by simp only [reduceCtorEq, not_false_eq_true])
  | token t =>
      simp only [Event.nest, Option.some.injEq] at h
      subst h
      exact ⟨rfl, rfl⟩
  | comment c =>
      simp only [Event.nest, Option.some.injEq] at h
      subst h
      exact ⟨rfl, rfl⟩

/-- Along events that nest, the depth counts the open function definitions at every point, so
    that no function is left that was not entered. -/
theorem afterAll_of_nestAll {es : List Event} {stack last : List String}
    (h : nestAll stack es = some last) :
    FunctionDepth.afterAll ⟨stack.count functionDefinition⟩ es
        = ⟨last.count functionDefinition⟩ ∧
      FunctionDepth.refusesIn ⟨stack.count functionDefinition⟩ es = false := by
  induction es generalizing stack with
  | nil =>
      simp only [nestAll, Option.some.injEq] at h
      subst h
      exact ⟨rfl, rfl⟩
  | cons e rest ih =>
      rw [nestAll, Option.bind_eq_some_iff] at h
      rcases h with ⟨next, hnext, hrest⟩
      rcases after_of_nest hnext with ⟨hafter, hrefuses⟩
      rcases ih hrest with ⟨hlast, hnever⟩
      refine ⟨?_, ?_⟩
      · rw [FunctionDepth.afterAll, hafter, hlast]
      · rw [FunctionDepth.refusesIn, hrefuses, hafter, hnever, Bool.false_or]

/-- Events that leave every stack as it was leave every depth as it was, since any depth is the
    number of function definitions on some stack. -/
theorem afterAll_of_restores {es : List Event}
    (h : ∀ stack, nestAll stack es = some stack) (d : FunctionDepth) :
    d.afterAll es = d ∧ d.refusesIn es = false := by
  -- A stack of that many function definitions stands for the depth.
  have hcount : (List.replicate d.depth functionDefinition).count functionDefinition = d.depth :=
    List.count_replicate_self
  have hboth := afterAll_of_nestAll (h (List.replicate d.depth functionDefinition))
  rw [hcount] at hboth
  exact hboth

end CloneScan
