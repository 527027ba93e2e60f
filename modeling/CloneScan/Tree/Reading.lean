import CloneScan.Tree.Cursor
import CloneScan.Tree.Role

/-!
# Reading a Tree

The events of a syntax tree, made in one pass with a cursor. At every node the pass adds what
the node opens with and goes down if the node's children contribute. Where it cannot go
down it climbs: it closes every finished branch on the way up until some sibling is left,
and goes on there. The pass ends when the climb leaves the root.

`eventsOf` says the same by recursion on the tree: a branch puts its brackets around the
events of its children, and every other node contributes by its role alone. It never moves a
cursor, and it is the measure the pass is held to.

## Main definitions

* `openingEvents`, `closingEvents`: What a node adds when it is reached and when it is left.
* `Cursor.climb`: The way up to the next tree, closing what is finished.
* `Cursor.read`: The events from a cursor on.
* `eventsOf`: The events of a tree, by recursion on it.

## Theorems

* `Cursor.ahead_climb`: A climb passes the tree it leaves.
-/

namespace CloneScan

/-- What a tree adds to the events when it is reached. -/
def openingEvents (source : ByteIndex) (parent : Option Node) (t : SyntaxTree) : List Event :=
  match role parent t with
  | .branch => [.enter t.node.kind (t.node.row + 1)]
  | .token kind => (tokenOf source kind t.node).toList.map Event.token
  | .comment => [.comment (commentOf source t.node)]
  | .transparent | .skipped => []

/-- What a tree adds to the events when it is left. -/
def closingEvents (parent : Option Node) (t : SyntaxTree) : List Event :=
  match role parent t with
  | .branch => [.leave t.node.kind]
  | _ => []

namespace Cursor

/-- The role of the tree in focus. -/
def role (c : Cursor) : Role :=
  CloneScan.role c.above? c.focus

/-- The cursor at the first child, where the children contribute. -/
def descend? (c : Cursor) : Option Cursor :=
  if c.role.descends then c.firstChild? else none

/-- The way up from a finished tree, along the crumbs that lead to it: what is closed, and the
    cursor at the next tree if one is left. -/
def climbFrom (t : SyntaxTree) : List Crumb → List Event × Option Cursor
  | [] => (closingEvents none t, none)
  | ⟨n, before, next :: after⟩ :: rest =>
    (closingEvents (some n) t, some ⟨next, ⟨n, t :: before, after⟩ :: rest⟩)
  | ⟨n, before, []⟩ :: rest =>
    let up := climbFrom (Crumb.close ⟨n, before, []⟩ t) rest
    (closingEvents (some n) t ++ up.1, up.2)

/-- The way up from the focus, which is finished. -/
def climb (c : Cursor) : List Event × Option Cursor :=
  climbFrom c.focus c.crumbs

/-- What is ahead after a climb was to the right of the tree it left. -/
theorem ahead_climbFrom {t : SyntaxTree} {crumbs : List Crumb} {d : Cursor}
    (h : (climbFrom t crumbs).2 = some d) : d.ahead ≤ rightOf crumbs := by
  induction crumbs generalizing t with
  | nil => simp [climbFrom] at h
  | cons crumb rest ih =>
    obtain ⟨n, before, after⟩ := crumb
    cases after with
    | nil =>
      simp only [climbFrom] at h
      have := ih h
      simp only [rightOf, SyntaxTree.sizeAll]
      omega
    | cons next after =>
      simp only [climbFrom, Option.some.injEq] at h
      subst h
      simp only [ahead, rightOf, SyntaxTree.sizeAll]
      omega

/-- A climb passes the tree it leaves. -/
theorem ahead_climb {c d : Cursor} (h : c.climb.2 = some d) : d.ahead < c.ahead := by
  have hle := ahead_climbFrom h
  have hpos := size_pos c.focus
  simp only [ahead] at hle ⊢
  omega

/-- A step down, where there is one, passes the node it leaves above. -/
theorem ahead_descend {c d : Cursor} (h : c.descend? = some d) : d.ahead < c.ahead := by
  unfold descend? at h
  split at h
  · exact ahead_firstChild h
  · simp at h

/-- The events from a cursor on. What is ahead of the cursor shrinks with every step, so the
    reading ends. -/
def read (source : ByteIndex) (c : Cursor) : List Event :=
  openingEvents source c.above? c.focus ++
    match _ : c.descend? with
    | some child => read source child
    | none =>
      c.climb.1 ++
        match _ : c.climb.2 with
        | some next => read source next
        | none => []
  termination_by c.ahead
  decreasing_by
  · exact ahead_descend ‹_›
  · exact ahead_climb ‹_›

end Cursor

mutual

/-- The events of a tree below `parent`, by recursion on the tree. -/
def eventsOf (source : ByteIndex) (parent : Option Node) : SyntaxTree → List Event
  | .mk n cs =>
    match role parent (.mk n cs) with
    | .branch =>
      .enter n.kind (n.row + 1) :: eventsOfAll source (some n) cs ++ [.leave n.kind]
    | .transparent => eventsOfAll source (some n) cs
    | .token kind => (tokenOf source kind n).toList.map Event.token
    | .comment => [.comment (commentOf source n)]
    | .skipped => []

/-- The events of several trees below `parent`, one after the other. -/
def eventsOfAll (source : ByteIndex) (parent : Option Node) : List SyntaxTree → List Event
  | [] => []
  | t :: ts => eventsOf source parent t ++ eventsOfAll source parent ts

end

end CloneScan
