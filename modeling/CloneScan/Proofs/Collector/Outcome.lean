import CloneScan.Proofs.Collector.Run
import Mathlib.Data.List.Basic
import Mathlib.Data.List.Induction

/-!
# The Outcome of a Walk

How a walk of the collector ends and what it leaves behind, for any list of events at all, and
said without running anything. `FunctionDepth` takes one event after the other; here every
place of the list has its depth, `depthAt`, and what an event comes to is read off the depth
at its place.

The first fault of a walk is known from the depths alone. An exit at depth zero comes before
anything that is still open at the end, since the walk meets it first. Neither has any part
in what happens to the tokens. Those inside functions that are code are divided in two, in
their order: a token whose span the file accepts is saved, and a token whose span it refuses
leaves a remark.

## Main definitions

* `depthAt`: The depth before the event at an index.
* `tokensAtDepth`: The tokens at a depth that is not zero.

## Theorems

* `depthAt_eq_afterAll`: The depth at an index is the one that the events before it lead to.
* `depthAt_append`: It says nothing of the events from there on.
* `refusesIn_iff_depthAt`: An exit is refused exactly at depth zero.
* `tokensInside_eq_tokensAtDepth`: The tokens inside functions, by index.
* `outcome_of_walk`: How a walk ends and what it leaves behind.
-/

namespace CloneScan

/-- The depth before the event at an index. It starts at zero and never falls below. -/
def depthAt (es : List Event) : Nat → Nat
  | 0 => 0
  | k + 1 =>
    match es[k]? with
    | some (.enter kind _) => if kind = functionDefinition then depthAt es k + 1 else depthAt es k
    | some (.leave kind) => if kind = functionDefinition then depthAt es k - 1 else depthAt es k
    | _ => depthAt es k

/-- The tokens at a depth that is not zero, in order. -/
def tokensAtDepth (es : List Event) : List Token :=
  (List.range es.length).filterMap fun k =>
    if 0 < depthAt es k then es[k]?.bind Event.token? else none

/-- The depth at an index is the one that the events before it lead to. -/
theorem depthAt_eq_afterAll (es : List Event) (k : Nat) :
    depthAt es k = (FunctionDepth.outside.afterAll (es.take k)).depth := by
  induction k with
  | zero => rfl
  | succ k ih =>
      rw [List.take_add_one, FunctionDepth.afterAll_append, depthAt, ih]
      cases hevent : es[k]? with
      | none => rfl
      | some e =>
          simp only [Option.toList_some, FunctionDepth.afterAll]
          cases e with
          | enter kind line =>
              by_cases hkind : kind = functionDefinition
              · simp only [hkind, if_true, FunctionDepth.after_enter_function]
                rfl
              · simp only [if_neg hkind, FunctionDepth.after_enter_other _ line hkind]
          | leave kind =>
              by_cases hkind : kind = functionDefinition
              · simp only [hkind, if_true, FunctionDepth.after_leave_function]
              · simp only [if_neg hkind, FunctionDepth.after_leave_other _ hkind]
          | token t => rfl
          | comment c => rfl

theorem refuses_iff (d : FunctionDepth) (e : Event) :
    d.refuses e = true ↔ e = .leave functionDefinition ∧ d.depth = 0 := by
  cases e with
  | leave kind =>
      by_cases hkind : kind = functionDefinition
      · subst hkind
        simp only [FunctionDepth.refuses_leave_function, beq_iff_eq, true_and]
      · simp only [FunctionDepth.refuses_leave_other d hkind, Bool.false_eq_true,
          Event.leave.injEq, hkind, false_and]
  | enter kind line => simp only [FunctionDepth.refuses, Event.closes, Bool.false_and,
      Bool.false_eq_true, reduceCtorEq, false_and]
  | token t => simp only [FunctionDepth.refuses, Event.closes, Bool.false_and,
      Bool.false_eq_true, reduceCtorEq, false_and]
  | comment c => simp only [FunctionDepth.refuses, Event.closes, Bool.false_and,
      Bool.false_eq_true, reduceCtorEq, false_and]

/-- The depth at an index says nothing of the events from there on. -/
theorem depthAt_append (es more : List Event) {k : Nat} (h : k ≤ es.length) :
    depthAt (es ++ more) k = depthAt es k := by
  rw [depthAt_eq_afterAll, depthAt_eq_afterAll, List.take_append_of_le_length h]

theorem depthAt_length (es : List Event) :
    depthAt es es.length = (FunctionDepth.outside.afterAll es).depth := by
  rw [depthAt_eq_afterAll, List.take_length]

/-- An exit is refused exactly where a function is left at depth zero. -/
theorem refusesIn_iff_depthAt (es : List Event) :
    FunctionDepth.outside.refusesIn es = true ↔
      ∃ k < es.length, es[k]? = some (.leave functionDefinition) ∧ depthAt es k = 0 := by
  induction es using List.reverseRecOn with
  | nil =>
      refine ⟨fun h => absurd h Bool.false_ne_true, ?_⟩
      rintro ⟨k, hk, _⟩
      exact absurd hk (Nat.not_lt_zero k)
  | append_singleton es e ih =>
      rw [FunctionDepth.refusesIn_append, Bool.or_eq_true, ih, FunctionDepth.refusesIn,
        FunctionDepth.refusesIn, Bool.or_false, refuses_iff, ← depthAt_length,
        List.length_append, List.length_singleton]
      constructor
      · rintro (⟨k, hk, hevent, hdepth⟩ | ⟨hevent, hdepth⟩)
        · refine ⟨k, by omega, ?_, ?_⟩
          · rw [List.getElem?_append_left hk, hevent]
          · rw [depthAt_append es [e] (Nat.le_of_lt hk), hdepth]
        · refine ⟨es.length, by omega, ?_, ?_⟩
          · rw [List.getElem?_concat_length, hevent]
          · rw [depthAt_append es [e] (Nat.le_refl _), hdepth]
      · rintro ⟨k, hk, hevent, hdepth⟩
        rw [depthAt_append es [e] (Nat.le_of_lt_succ hk)] at hdepth
        rcases Nat.lt_succ_iff_lt_or_eq.mp hk with hless | rfl
        · rw [List.getElem?_append_left hless] at hevent
          exact Or.inl ⟨k, hless, hevent, hdepth⟩
        · rw [List.getElem?_concat_length, Option.some.injEq] at hevent
          exact Or.inr ⟨hevent, hdepth⟩

/-- The tokens inside functions are those at a depth that is not zero. -/
theorem tokensInside_eq_tokensAtDepth (es : List Event) :
    FunctionDepth.outside.tokensInside es = tokensAtDepth es := by
  induction es using List.reverseRecOn with
  | nil => rfl
  | append_singleton es e ih =>
      have hall : tokensAtDepth (es ++ [e]) = tokensAtDepth es
          ++ (if 0 < depthAt (es ++ [e]) es.length then
              (es ++ [e])[es.length]?.bind Event.token? else none).toList :=
        filterMap_range_concat
          (fun all k => if 0 < depthAt all k then all[k]?.bind Event.token? else none) es e
          fun k hk => by
            rw [depthAt_append es [e] (Nat.le_of_lt hk), List.getElem?_append_left hk]
      rw [FunctionDepth.tokensInside_append, ih, hall]
      congr 1
      -- What is left is the last event, on both sides at the depth of the whole list.
      simp only [FunctionDepth.tokensInside, FunctionDepth.tokenInside, FunctionDepth.isInside,
        ← depthAt_length, List.append_nil, depthAt_append es [e] (Nat.le_refl _),
        List.getElem?_concat_length, Option.bind_some, gt_iff_lt, decide_eq_true_eq]
      by_cases hdepth : 0 < depthAt es es.length
      · rw [if_pos hdepth, if_pos hdepth]
      · rw [if_neg hdepth, if_neg hdepth, Option.toList_none]

/-- What is made of tokens is made of the ones that are code, if nothing is made of the others. -/
theorem filterMap_filter_isCode {β : Type} (f : Token → Option β)
    (h : ∀ t, ¬ t.IsCode → f t = none) (ts : List Token) :
    (ts.filter fun t => t.IsCode).filterMap f = ts.filterMap f := by
  rw [List.filterMap_filter]
  refine List.filterMap_congr fun t _ => ?_
  by_cases hcode : t.IsCode
  · rw [if_pos (decide_eq_true hcode)]
  · rw [if_neg (by simpa using hcode), h t hcode]

/-- A walk of the collector over any unit, with any context and from any state. The walk fails
    with a refused exit if a function is left at depth zero somewhere, or else with the depth
    that is left at the end, if one is; both name the file of the context. Whatever the fault,
    the tokens inside functions that are code are divided in order. If the file of the context
    is under analysis, those whose span lies in it are saved in one list, and the others are
    remarked on. If it is not, nothing is saved and nothing is remarked on. -/
theorem outcome_of_walk {ε : Type} [Receiver ε] (unit : TranslationUnit) (context : Context)
    (c : Collector ε) :
    let after := (walk Collector.visitor unit context c).value
    let es := unit.events
    let code := (tokensAtDepth es).filter fun t => t.IsCode
    after.fault
      = (if ∃ k < es.length, es[k]? = some (.leave functionDefinition) ∧ depthAt es k = 0 then
          some (.unbalanced context.path .unmatchedExit)
        else if 0 < depthAt es es.length then
          some (.unbalanced context.path (.stillOpen (depthAt es es.length)))
        else none) ∧
    (after.state.receiver, after.state.channel)
      = (match c.files.find? context.path with
        | none => (c.receiver, c.channel)
        | some file =>
          ((Receiver.save file (code.filterMap (cloneTokenOf? c.policy file)) c.receiver).value,
            c.channel.keep (code.filterMap (noteOf? c.policy file context.path)))) ∧
    ∀ file, ∀ t ∈ code,
      (∃ span image, file.tokenSpan t = .ok span ∧ c.policy.image t = some image ∧
        cloneTokenOf? c.policy file t = some ⟨span, image⟩ ∧
        noteOf? c.policy file context.path t = none) ∨
      ∃ cause, file.tokenSpan t = .error cause ∧ cloneTokenOf? c.policy file t = none ∧
        noteOf? c.policy file context.path t
          = some ⟨s!"CPD token dropped: {cause.message}", context.path, t.line, t.column⟩ := by
  intro after es code
  have hafter : after = _ := Collector.walk_value unit context c
  refine ⟨?_, ?_, ?_⟩
  · rw [hafter, Collector.endFault, ← depthAt_length]
    by_cases hrefused :
        ∃ k < es.length, es[k]? = some (.leave functionDefinition) ∧ depthAt es k = 0
    · rw [if_pos hrefused, (refusesIn_iff_depthAt es).mpr hrefused]
      rfl
    · have hnever : FunctionDepth.outside.refusesIn es = false :=
        Bool.not_eq_true _ ▸ fun h => hrefused ((refusesIn_iff_depthAt es).mp h)
      rw [if_neg hrefused, hnever]
      by_cases hopen : 0 < depthAt es es.length
      · rw [if_pos hopen, if_neg (Nat.ne_of_gt hopen)]
        rfl
      · rw [if_neg hopen, if_pos (Nat.eq_zero_of_not_pos hopen)]
        rfl
  · have hsaved : ∀ file, (tokensAtDepth es).filterMap (cloneTokenOf? c.policy file)
        = code.filterMap (cloneTokenOf? c.policy file) := fun file =>
      (filterMap_filter_isCode _ (fun _ h => cloneTokenOf?_of_not_code c.policy file h) _).symm
    have hnoted : ∀ file, (tokensAtDepth es).filterMap (noteOf? c.policy file context.path)
        = code.filterMap (noteOf? c.policy file context.path) := fun file =>
      (filterMap_filter_isCode _
        (fun _ h => noteOf?_of_not_code c.policy file context.path h) _).symm
    rw [hafter, Collector.handOver_opened, Collector.notes_opened, tokensInside_eq_tokensAtDepth]
    cases c.files.find? context.path with
    | none => exact congrArg (Prod.mk c.receiver) (NoteChannel.keep_nil c.channel)
    | some file => exact congrArg₂ _ (hsaved file ▸ rfl) (hnoted file ▸ rfl)
  · intro file t ht
    exact cloneTokenOf?_or_noteOf? c.policy file context.path
      (of_decide_eq_true (List.mem_filter.mp ht).2)

end CloneScan
