import CloneScan.Tree.Basic

/-!
# Cursors

A place in a syntax tree, with the tree around it. A cursor moves to the first child, to the
next sibling and to the parent, and forgets nothing on the way: what was left behind is kept
in the crumbs, one for each step down from the root.

Reading a tree visits each node once, so every cursor has a finite amount of tree ahead of
it. `Cursor.ahead` counts it, and both ways to go on make it smaller: a step down passes the
node left above, and a climb passes everything below the node it leaves.

## Main definitions

* `Crumb`: One step down, with what was left on either side.
* `Cursor`: A tree in focus, with the crumbs that lead to it.
* `Cursor.firstChild?`, `Cursor.nextSibling?`, `Cursor.parent?`: The moves.
* `Cursor.ahead`: The nodes not yet passed.

## Theorems

* `Cursor.ahead_firstChild`: A step down passes a node.
* `Cursor.ahead_nextSibling`: A step sideways passes a tree.
-/

namespace CloneScan

/-- One step down into a tree: the node it left and the siblings on either side. -/
structure Crumb where
  above : Node
  /-- The siblings before, the nearest first. -/
  before : List SyntaxTree
  /-- The siblings after, the nearest first. -/
  after : List SyntaxTree
  deriving Repr

/-- The tree a step down left, with the given tree put back where it was. -/
def Crumb.close (c : Crumb) (t : SyntaxTree) : SyntaxTree :=
  .mk c.above (c.before.reverse ++ t :: c.after)

/-- A tree in focus, with the crumbs that lead to it, the last step first. -/
structure Cursor where
  focus : SyntaxTree
  /-- The steps that lead to it. -/
  crumbs : List Crumb
  deriving Repr

namespace Cursor

/-- The cursor at the root of a tree. -/
def start (t : SyntaxTree) : Cursor :=
  ⟨t, []⟩

/-- The node right above the focus. -/
def above? (c : Cursor) : Option Node :=
  c.crumbs.head?.map Crumb.above

/-- The cursor at the first child of the focus. -/
def firstChild? (c : Cursor) : Option Cursor :=
  match c.focus with
  | .mk _ [] => none
  | .mk n (t :: ts) => some ⟨t, ⟨n, [], ts⟩ :: c.crumbs⟩

/-- The cursor at the tree right after the focus, below the same node. -/
def nextSibling? (c : Cursor) : Option Cursor :=
  match c.crumbs with
  | ⟨n, before, t :: ts⟩ :: rest => some ⟨t, ⟨n, c.focus :: before, ts⟩ :: rest⟩
  | _ => none

/-- The cursor at the node right above the focus. -/
def parent? (c : Cursor) : Option Cursor :=
  match c.crumbs with
  | [] => none
  | crumb :: rest => some ⟨crumb.close c.focus, rest⟩

/-- The nodes to the right of a path, at every level. -/
def rightOf : List Crumb → Nat
  | [] => 0
  | crumb :: rest => SyntaxTree.sizeAll crumb.after + rightOf rest

/-- The nodes in focus and to the right of it: what reading the tree has not passed yet. -/
def ahead (c : Cursor) : Nat :=
  c.focus.size + rightOf c.crumbs

/-- A tree has a node. -/
theorem size_pos (t : SyntaxTree) : 0 < t.size := by
  cases t with
  | mk n cs => simp only [SyntaxTree.size]; omega

/-- A step down passes the node it leaves above. -/
theorem ahead_firstChild {c d : Cursor} (h : c.firstChild? = some d) : d.ahead < c.ahead := by
  obtain ⟨focus, crumbs⟩ := c
  cases focus with
  | mk n cs =>
    cases cs with
    | nil => simp [firstChild?] at h
    | cons t ts =>
      simp only [firstChild?, Option.some.injEq] at h
      subst h
      simp only [ahead, rightOf, SyntaxTree.size, SyntaxTree.sizeAll]
      omega

/-- A step sideways passes the tree it leaves. -/
theorem ahead_nextSibling {c d : Cursor} (h : c.nextSibling? = some d) : d.ahead < c.ahead := by
  obtain ⟨focus, crumbs⟩ := c
  have hpos := size_pos focus
  cases crumbs with
  | nil => simp [nextSibling?] at h
  | cons crumb rest =>
    obtain ⟨n, before, after⟩ := crumb
    cases after with
    | nil => simp [nextSibling?] at h
    | cons t ts =>
      simp only [nextSibling?, Option.some.injEq] at h
      subst h
      simp only [ahead, rightOf, SyntaxTree.sizeAll]
      omega

end Cursor

end CloneScan
