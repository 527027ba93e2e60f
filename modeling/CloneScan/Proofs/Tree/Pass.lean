import CloneScan.TranslationUnit
import Mathlib.Logic.Function.Iterate

/-!
# The Pass over a Tree

A cursor reads a tree in one pass, and recursion on the tree reads it too. Here the two are
brought together.

`Cursor.read` says in one equation what a turn of the pass adds and where it goes on. A
program makes that turn in single moves: to the first child, to the next sibling, to the
parent, with a loop inside the loop that climbs until some sibling is left. `Pass.step` is
one such move, and whether it goes down or climbs is part of the state.
`Pass.endsWithin_arriving` says that the moves come to an end and that what they wrote by
then is what `Cursor.read` gives, and it bounds their number: a node is reached once and left
at most once.

That the pass gives the events of the recursion cannot be proved for a cursor at the root
alone, since the pass leaves the root at once. What holds at every cursor is that the pass
gives the events of the tree in focus and then what is still to come: the trees to the right
at every level, and the ends of the branches around them. `comingAfter` is that rest. The end
of a branch is decided on the way up, from the tree as it was put back together, and so the
crumbs have to be closed in `comingAfter` as well.

## Main definitions

* `nodeAbove`: The node that a path of crumbs leads below.
* `Cursor.comingAfter`: What a pass still adds once the tree in focus is complete.
* `Cursor.atNext`: The events of the cursor that a climb leads to.
* `Pass`: A pass underway, with the events written so far.
* `Pass.step`: One move of a pass.
* `Pass.EndsWithin`: A pass is finished after a number of moves.

## Theorems

* `eventsOf_descends`: A node whose children contribute puts its ends around them.
* `eventsOf_stays`: Any other node contributes by itself.
* `Cursor.climbFrom_comingAfter`: A climb adds what is to come up to the next tree.
* `Cursor.descend?_cases`: A cursor goes down exactly where the children contribute.
* `Cursor.read_eq`: The pass gives the tree in focus and what is to come.
* `Cursor.read_start`: The pass over a whole tree gives the events of the tree.
* `Pass.endsWithin_leaving`: A climb ends if the tree it leads to can be read to the end.
* `Pass.endsWithin_arriving`: The moves of a pass end with the events that it reads.
* `pass_ends_with_eventsOf`: A pass ends, and its events are those of the recursion.
-/

namespace CloneScan

/-- The node that a path of crumbs leads below. -/
def nodeAbove (crumbs : List Crumb) : Option Node :=
  crumbs.head?.map Crumb.above

/-- A node whose children contribute has some. A leaf is a token, whatever else is said of it,
    unless it contributes nothing at all. -/
theorem children_ne_nil_of_descends {parent : Option Node} {t : SyntaxTree}
    (h : (role parent t).descends = true) : t.children ≠ [] := by
  intro hnil
  have hleaf : (wholeLiterals.contains t.node.kind || t.children.isEmpty) = true := by
    rw [hnil, List.isEmpty_nil, Bool.or_true]
  -- The last test sends a leaf to the tokens, and no earlier one sends it down.
  unfold role at h
  rw [if_pos hleaf] at h
  by_cases hmissing : t.node.missing
  · simp only [if_pos hmissing, Role.descends, Bool.false_eq_true] at h
  · by_cases hcomment : t.node.kind = "comment"
    · simp only [if_neg hmissing, if_pos hcomment, Role.descends, Bool.false_eq_true] at h
    · by_cases hdirective : isDirective parent t.node
      · simp only [if_neg hmissing, if_neg hcomment, if_pos hdirective, Role.descends,
          Bool.false_eq_true] at h
      · simp only [if_neg hmissing, if_neg hcomment, if_neg hdirective, Role.descends,
          Bool.false_eq_true] at h

/-- A node whose children contribute puts what it opens and closes with around them. -/
theorem eventsOf_descends (source : ByteIndex) (parent : Option Node) (t : SyntaxTree)
    (h : (role parent t).descends = true) :
    eventsOf source parent t = openingEvents source parent t ++
      eventsOfAll source (some t.node) t.children ++ closingEvents parent t := by
  cases t with
  | mk n cs =>
      simp only [eventsOf, openingEvents, closingEvents, SyntaxTree.node, SyntaxTree.children]
      cases hrole : role parent (.mk n cs) with
      | branch => simp only [List.cons_append, List.nil_append]
      | transparent => simp only [List.nil_append, List.append_nil]
      | token kind => simp [hrole, Role.descends] at h
      | comment => simp [hrole, Role.descends] at h
      | skipped => simp [hrole, Role.descends] at h

theorem eventsOf_stays (source : ByteIndex) (parent : Option Node) (t : SyntaxTree)
    (h : (role parent t).descends = false) :
    eventsOf source parent t = openingEvents source parent t ∧ closingEvents parent t = [] := by
  cases t with
  | mk n cs =>
      simp only [eventsOf, openingEvents, closingEvents, SyntaxTree.node]
      cases hrole : role parent (.mk n cs) with
      | branch => simp [hrole, Role.descends] at h
      | transparent => simp [hrole, Role.descends] at h
      | token kind => exact ⟨rfl, rfl⟩
      | comment => exact ⟨rfl, rfl⟩
      | skipped => exact ⟨rfl, rfl⟩

namespace Cursor

/-- What a pass still adds once the tree `t` at the end of the crumbs is complete and closed: at
    every level the trees to the right, then the end of the branch around them. -/
def comingAfter (source : ByteIndex) (t : SyntaxTree) : List Crumb → List Event
  | [] => []
  | crumb :: rest =>
    eventsOfAll source (some crumb.above) crumb.after ++
      closingEvents (nodeAbove rest) (crumb.close t) ++
      comingAfter source (crumb.close t) rest

/-- The events of the cursor a climb leads to, with what comes after it. -/
def atNext (source : ByteIndex) : Option Cursor → List Event
  | none => []
  | some d =>
    eventsOf source (nodeAbove d.crumbs) d.focus ++ comingAfter source d.focus d.crumbs

/-- A climb closes the tree it leaves and adds what is to come up to the next tree. The tree
    changes on the way up, from each focus to the tree around it, so the induction on the
    crumbs is for all trees at once. -/
theorem climbFrom_comingAfter (source : ByteIndex) (crumbs : List Crumb) (t : SyntaxTree) :
    (climbFrom t crumbs).1 ++ atNext source (climbFrom t crumbs).2
      = closingEvents (nodeAbove crumbs) t ++ comingAfter source t crumbs := by
  induction crumbs generalizing t with
  | nil => rfl
  | cons crumb rest ih =>
      rcases crumb with ⟨n, before, after⟩
      cases after with
      | nil =>
          -- Nothing is left on this level, so the tree around it is finished too.
          have hup := ih (Crumb.close ⟨n, before, []⟩ t)
          simp only [climbFrom, comingAfter, eventsOfAll, List.nil_append, List.append_assoc]
          rw [hup]
          rfl
      | cons next after =>
          have hclose : Crumb.close ⟨n, t :: before, after⟩ next
              = Crumb.close ⟨n, before, next :: after⟩ t := by
            simp only [Crumb.close, List.reverse_cons, List.append_assoc, List.cons_append,
              List.nil_append]
          simp only [climbFrom, atNext, comingAfter, eventsOfAll, hclose, List.append_assoc]
          rfl

/-- A cursor goes down exactly where the children contribute, and then to the first of them. -/
theorem descend?_cases (c : Cursor) :
    (c.role.descends = false ∧ c.descend? = none) ∨
      ∃ first others, c.role.descends = true ∧ c.focus = .mk c.focus.node (first :: others) ∧
        c.descend? = some ⟨first, ⟨c.focus.node, [], others⟩ :: c.crumbs⟩ := by
  rcases c with ⟨⟨n, cs⟩, crumbs⟩
  by_cases hrole : (Cursor.role ⟨.mk n cs, crumbs⟩).descends = true
  · right
    cases cs with
    | nil => exact absurd rfl (children_ne_nil_of_descends hrole)
    | cons first others =>
        refine ⟨first, others, hrole, rfl, ?_⟩
        unfold descend?
        rw [if_pos hrole]
        rfl
  · left
    refine ⟨Bool.not_eq_true _ ▸ hrole, ?_⟩
    unfold descend?
    rw [if_neg hrole]

theorem read_of_down (source : ByteIndex) {c child : Cursor} (h : c.descend? = some child) :
    c.read source = openingEvents source c.above? c.focus ++ child.read source := by
  rw [read]
  split
  · rename_i d hd
    rw [h, Option.some.injEq] at hd
    rw [hd]
  · rename_i hd
    rw [h] at hd
    exact absurd hd (by simp only [reduceCtorEq, not_false_eq_true])

/-- A pass that cannot go down climbs, and goes on where the climb leads. -/
theorem read_of_stay (source : ByteIndex) {c : Cursor} (h : c.descend? = none) :
    c.read source = openingEvents source c.above? c.focus ++
      (c.climb.1 ++ (c.climb.2.map (read source)).getD []) := by
  rw [read]
  split
  · rename_i d hd
    rw [h] at hd
    exact absurd hd (by simp only [reduceCtorEq, not_false_eq_true])
  · split
    · rename_i next hup
      rw [hup]
      rfl
    · rename_i hup
      rw [hup]
      rfl

/-- Wherever a pass stands, it gives the events of the tree in focus and then what is to come.
    The induction is on what is ahead of the cursor, as in the definition of the pass. -/
theorem read_eq (source : ByteIndex) (c : Cursor) :
    c.read source
      = eventsOf source (nodeAbove c.crumbs) c.focus ++ comingAfter source c.focus c.crumbs := by
  induction hn : c.ahead using Nat.strongRecOn generalizing c with
  | ind n ih =>
      rcases descend?_cases c with ⟨hrole, hstay⟩ | ⟨first, others, hrole, hfocus, hdown⟩
      · -- The focus is finished: it adds what it opens with, and the climb leads on.
        have hself := eventsOf_stays source (nodeAbove c.crumbs) c.focus hrole
        have hclimb := climbFrom_comingAfter source c.crumbs c.focus
        rw [hself.2, List.nil_append] at hclimb
        rw [read_of_stay source hstay, hself.1, ← hclimb]
        have hnext : (c.climb.2.map (read source)).getD [] = atNext source c.climb.2 := by
          cases hup : c.climb.2 with
          | none => rfl
          | some next => exact ih next.ahead (hn ▸ ahead_climb hup) next rfl
        rw [hnext]
        rfl
      · -- The first child is read next, and closing its crumb gives the focus back.
        have hchild := ih _ (hn ▸ ahead_descend hdown) _ rfl
        have hbody := eventsOf_descends source (nodeAbove c.crumbs) c.focus hrole
        have hclose : Crumb.close ⟨c.focus.node, [], others⟩ first = c.focus := hfocus.symm
        have hchildren : c.focus.children = first :: others := by
          rw [hfocus]
          rfl
        rw [read_of_down source hdown, hchild, hbody, hchildren]
        simp only [comingAfter, hclose, eventsOfAll, List.append_assoc]
        rfl

/-- The pass over a whole tree gives the events of the tree. -/
theorem read_start (source : ByteIndex) (t : SyntaxTree) :
    (start t).read source = eventsOf source none t := by
  rw [read_eq]
  simp only [start, comingAfter, List.append_nil]
  rfl

end Cursor

/-- What a pass does next. -/
inductive Stage where
  /-- It has reached the focus, and adds what the focus opens with. -/
  | arriving
  /-- The focus is finished, and the pass looks for the next tree from there. -/
  | leaving
  /-- Nothing: the root was left. -/
  | finished
  deriving Repr, DecidableEq

/-- A pass underway. -/
structure Pass where
  /-- Where the pass stands. -/
  cursor : Cursor
  /-- What it does next. -/
  stage : Stage
  /-- The events it has written so far. -/
  written : List Event
  deriving Repr

namespace Pass

/-- A pass at the root of a tree, with nothing written. -/
def start (t : SyntaxTree) : Pass :=
  ⟨.start t, .arriving, []⟩

/-- One move of a pass. A pass that arrives goes down where the children contribute. A pass that
    leaves looks for a sibling, and where there is none goes on leaving at the parent. -/
def step (source : ByteIndex) (p : Pass) : Pass :=
  match p.stage with
  | .arriving =>
    let written := p.written ++ openingEvents source p.cursor.above? p.cursor.focus
    match p.cursor.descend? with
    | some child => ⟨child, .arriving, written⟩
    | none => ⟨p.cursor, .leaving, written⟩
  | .leaving =>
    let written := p.written ++ closingEvents p.cursor.above? p.cursor.focus
    match p.cursor.nextSibling? with
    | some next => ⟨next, .arriving, written⟩
    | none =>
      match p.cursor.parent? with
      | some parent => ⟨parent, .leaving, written⟩
      | none => ⟨p.cursor, .finished, written⟩
  | .finished => p

/-- The pass is finished after at most `n` moves, with the given events written. -/
def EndsWithin (source : ByteIndex) (n : Nat) (p : Pass) (events : List Event) : Prop :=
  ∃ moves ≤ n, ∃ last, (step source)^[moves] p = ⟨last, .finished, events⟩

theorem EndsWithin.of_step {source : ByteIndex} {n : Nat} {p : Pass} {events : List Event}
    (h : EndsWithin source n (step source p) events) : EndsWithin source (n + 1) p events := by
  rcases h with ⟨moves, hle, last, hlast⟩
  refine ⟨moves + 1, by omega, last, ?_⟩
  rw [Function.iterate_succ_apply]
  exact hlast

theorem EndsWithin.mono {source : ByteIndex} {m n : Nat} {p : Pass} {events : List Event}
    (h : EndsWithin source m p events) (hle : m ≤ n) : EndsWithin source n p events := by
  rcases h with ⟨moves, hmoves, hlast⟩
  exact ⟨moves, by omega, hlast⟩

/-- A pass that leaves climbs, if the tree that the climb leads to can be read from there to the
    end. Each level takes one move, and the induction is on the levels. -/
theorem endsWithin_leaving (source : ByteIndex) (crumbs : List Crumb) (t : SyntaxTree)
    (written : List Event)
    (hnext : ∀ next events, (Cursor.climbFrom t crumbs).2 = some next →
      EndsWithin source (2 * next.ahead + next.crumbs.length) ⟨next, .arriving, events⟩
        (events ++ next.read source)) :
    EndsWithin source (2 * Cursor.rightOf crumbs + crumbs.length + 1)
      ⟨⟨t, crumbs⟩, .leaving, written⟩
      (written ++ ((Cursor.climbFrom t crumbs).1 ++
        ((Cursor.climbFrom t crumbs).2.map (Cursor.read source)).getD [])) := by
  induction crumbs generalizing t written with
  | nil =>
      refine EndsWithin.of_step ⟨0, Nat.zero_le _, ⟨t, []⟩, ?_⟩
      simp only [Cursor.climbFrom, Option.map_none, Option.getD_none, List.append_nil]
      rfl
  | cons crumb rest ih =>
      rcases crumb with ⟨n, before, after⟩
      cases after with
      | nil =>
          -- One move closes the tree, and the climb goes on from the parent.
          have hup := ih (Crumb.close ⟨n, before, []⟩ t) (written ++ closingEvents (some n) t) hnext
          rw [List.append_assoc] at hup
          refine EndsWithin.of_step ?_
          simp only [Cursor.climbFrom, Cursor.rightOf, SyntaxTree.sizeAll, List.length_cons,
            Nat.zero_add, List.append_assoc] at hup ⊢
          exact hup
      | cons next after =>
          -- One move reaches the sibling, which has less ahead than this level had on its right.
          have hread := hnext ⟨next, ⟨n, t :: before, after⟩ :: rest⟩
            (written ++ closingEvents (some n) t) rfl
          rw [List.append_assoc] at hread
          refine EndsWithin.of_step (EndsWithin.mono hread ?_)
          simp only [Cursor.ahead, Cursor.rightOf, SyntaxTree.sizeAll, List.length_cons]
          omega

/-- A pass that arrives comes to its end, and what it writes on the way is what `Cursor.read`
    gives. It arrives at each node ahead once and leaves it once, and leaves the nodes above. -/
theorem endsWithin_arriving (source : ByteIndex) (c : Cursor) (written : List Event) :
    EndsWithin source (2 * c.ahead + c.crumbs.length) ⟨c, .arriving, written⟩
      (written ++ c.read source) := by
  induction hn : c.ahead using Nat.strongRecOn generalizing c written with
  | ind n ih =>
      rcases Cursor.descend?_cases c with ⟨-, hstay⟩ | ⟨first, others, -, hfocus, hdown⟩
      · -- The pass turns round where it stands, and climbs.
        have hstep : step source ⟨c, .arriving, written⟩
            = ⟨c, .leaving, written ++ openingEvents source c.above? c.focus⟩ := by
          simp only [step, hstay]
        have hleave := endsWithin_leaving source c.crumbs c.focus
          (written ++ openingEvents source c.above? c.focus)
          (fun next events hup => ih next.ahead (hn ▸ Cursor.ahead_climb hup) next events rfl)
        rw [List.append_assoc] at hleave
        rw [Cursor.read_of_stay source hstay]
        have hpos := Cursor.size_pos c.focus
        refine EndsWithin.mono (EndsWithin.of_step (hstep ▸ hleave)) ?_
        rw [← hn, Cursor.ahead]
        omega
      · -- The pass goes down: one level more to leave, and one node less to reach.
        have hless := Cursor.ahead_descend hdown
        have hstep : step source ⟨c, .arriving, written⟩
            = ⟨⟨first, ⟨c.focus.node, [], others⟩ :: c.crumbs⟩, .arriving,
                written ++ openingEvents source c.above? c.focus⟩ := by
          simp only [step, hdown]
        have hchild := ih _ (hn ▸ hless) ⟨first, ⟨c.focus.node, [], others⟩ :: c.crumbs⟩
          (written ++ openingEvents source c.above? c.focus) rfl
        rw [List.append_assoc] at hchild
        rw [Cursor.read_of_down source hdown]
        refine EndsWithin.mono (EndsWithin.of_step (hstep ▸ hchild)) ?_
        rw [List.length_cons]
        omega

end Pass

/-- A pass over a syntax tree ends, after at most two moves for each node, and what it has
    written by then are the events of the tree by recursion. These are also what the unit of
    the source holds before the end of the file. -/
theorem pass_ends_with_eventsOf (path : Path) (source : String) (parsed : ParsedSource) :
    (∃ moves ≤ 2 * parsed.root.size, ∃ last,
      (Pass.step (.ofList source.toList))^[moves] (Pass.start parsed.root)
        = ⟨last, .finished, eventsOf (.ofList source.toList) none parsed.root⟩) ∧
    (TranslationUnit.ofParsed path source parsed).events
      = eventsOf (.ofList source.toList) none parsed.root ++
        [.token (Token.endAt (endPlace source.toList).1 (endPlace source.toList).2)] := by
  constructor
  · have hends := Pass.endsWithin_arriving (.ofList source.toList) (.start parsed.root) []
    rw [List.nil_append, Cursor.read_start] at hends
    exact hends
  · simp only [TranslationUnit.ofParsed, Cursor.read_start]

end CloneScan
