import CloneScan.Proofs.Tree.Sites

/-!
# Trees That Are Moved

The same tree for another text. A change of the text that leaves the grammar of it alone moves the
nodes and does nothing else: each keeps its kind, its name, its part in its parent and the trees
below it.

What a node contributes is told by just these (`role_mapNodes`), and so is what its ancestors let
through. `sites_mapNodes` says that the sites of the moved tree are the moved sites, in the same
order. So whatever is said of a site without its place is true of the moved one as well.

## Main definitions

* `SyntaxTree.mapNodes`: A tree with each of its nodes changed.
* `Site.mapNodes`: A site with the nodes of all its trees changed.
* `Node.KeepsPart`: A change that leaves alone what the role of a node depends on.

## Theorems

* `sites_mapNodes`: The sites of a changed tree.
* `Node.KeepsPart.role_mapNodes`: The role of a node that is moved.
* `Node.KeepsPart.reached_iff`, `Node.KeepsPart.inFunction_iff`: What its ancestors say of it.
-/

namespace CloneScan

namespace SyntaxTree

mutual

/-- The tree with each of its nodes changed. -/
def mapNodes (f : Node → Node) : SyntaxTree → SyntaxTree
  | mk n cs => mk (f n) (mapNodesAll f cs)

/-- Several trees with each of their nodes changed. -/
def mapNodesAll (f : Node → Node) : List SyntaxTree → List SyntaxTree
  | [] => []
  | t :: ts => mapNodes f t :: mapNodesAll f ts

end

theorem mapNodesAll_eq_map (f : Node → Node) (ts : List SyntaxTree) :
    mapNodesAll f ts = ts.map (mapNodes f) := by
  induction ts with
  | nil => rfl
  | cons t ts ih => rw [mapNodesAll, ih, List.map_cons]

theorem node_mapNodes (f : Node → Node) (t : SyntaxTree) : (t.mapNodes f).node = f t.node := by
  cases t with
  | mk n cs => rfl

theorem children_mapNodes (f : Node → Node) (t : SyntaxTree) :
    (t.mapNodes f).children = t.children.map (mapNodes f) := by
  cases t with
  | mk n cs => exact mapNodesAll_eq_map f cs

end SyntaxTree

/-- The site with the nodes of its tree and of the trees around it changed. -/
def Site.mapNodes (f : Node → Node) (s : Site) : Site :=
  ⟨s.tree.mapNodes f, s.around.map (SyntaxTree.mapNodes f)⟩

theorem Site.node_mapNodes (f : Node → Node) (s : Site) : (s.mapNodes f).node = f s.node :=
  SyntaxTree.node_mapNodes f s.tree

mutual

theorem sitesFrom_mapNodes (f : Node → Node) (around : List SyntaxTree) (t : SyntaxTree) :
    sitesFrom (around.map (SyntaxTree.mapNodes f)) (t.mapNodes f)
      = (sitesFrom around t).map (Site.mapNodes f) := by
  cases t with
  | mk n cs =>
      -- The children stand inside the changed tree, which is the first of the trees around them.
      have hchildren := sitesFromAll_mapNodes f (.mk n cs :: around) cs
      rw [List.map_cons] at hchildren
      rw [SyntaxTree.mapNodes, sitesFrom, ← SyntaxTree.mapNodes, sitesFrom, List.map_cons,
        hchildren]
      rfl

theorem sitesFromAll_mapNodes (f : Node → Node) (around : List SyntaxTree)
    (ts : List SyntaxTree) :
    sitesFromAll (around.map (SyntaxTree.mapNodes f)) (SyntaxTree.mapNodesAll f ts)
      = (sitesFromAll around ts).map (Site.mapNodes f) := by
  cases ts with
  | nil => rfl
  | cons t ts =>
      rw [SyntaxTree.mapNodesAll, sitesFromAll, sitesFrom_mapNodes f around t,
        sitesFromAll_mapNodes f around ts, sitesFromAll, List.map_append]

end

/-- The sites of a changed tree are the changed sites, in the same order. -/
theorem sites_mapNodes (f : Node → Node) (t : SyntaxTree) :
    (t.mapNodes f).sites = t.sites.map (Site.mapNodes f) :=
  sitesFrom_mapNodes f [] t

theorem Site.ancestors_mapNodes (f : Node → Node) (s : Site) :
    (s.mapNodes f).ancestors = s.ancestors.map (Site.mapNodes f) := by
  have henclosing (around : List SyntaxTree) :
      Site.enclosing (around.map (SyntaxTree.mapNodes f))
        = (Site.enclosing around).map (Site.mapNodes f) := by
    induction around with
    | nil => rfl
    | cons t rest ih => rw [List.map_cons, Site.enclosing, ih, Site.enclosing, List.map_cons]; rfl
  exact henclosing s.around

namespace Node

/-- A change of nodes leaves alone what the role of a node depends on. -/
structure KeepsPart (f : Node → Node) : Prop where
  /-- The kind stays. -/
  kind : ∀ n, (f n).kind = n.kind
  /-- A node stays named or not. -/
  named : ∀ n, (f n).named = n.named
  /-- A node stays put in or not. -/
  missing : ∀ n, (f n).missing = n.missing
  /-- The part in the parent stays. -/
  field : ∀ n, (f n).field = n.field

namespace KeepsPart

variable {f : Node → Node}

/-- A change that leaves the parts of nodes alone leaves their roles alone. -/
theorem role_mapNodes (h : KeepsPart f) (s : Site) : (s.mapNodes f).role = s.role := by
  have hparent : (s.mapNodes f).around.head?.map SyntaxTree.node
      = (s.around.head?.map SyntaxTree.node).map f := by
    rw [Site.mapNodes, List.head?_map, Option.map_map, Option.map_map]
    exact congrArg (Option.map · _) (funext fun t => SyntaxTree.node_mapNodes f t)
  have hchildren : (s.mapNodes f).tree.children.isEmpty = s.tree.children.isEmpty := by
    rw [Site.mapNodes, SyntaxTree.children_mapNodes, List.isEmpty_map]
  -- A condition is told by the part it plays and by the kind of its parent.
  have hdirective (parent : Option Node) (n : Node) :
      isDirective (parent.map f) (f n) = isDirective parent n := by
    unfold isDirective isCondition
    cases parent with
    | none => rw [h.kind]; rfl
    | some p => simp only [Option.map_some, h.kind, h.field]
  have hnode : (s.mapNodes f).tree.node = f s.tree.node := SyntaxTree.node_mapNodes f s.tree
  rw [Site.role, Site.role, hparent, role, role, hchildren, hnode, h.missing, h.kind, h.named,
    hdirective]

theorem reached_iff (h : KeepsPart f) (s : Site) : (s.mapNodes f).Reached ↔ s.Reached := by
  rw [Site.Reached, Site.Reached, Site.ancestors_mapNodes, List.forall_mem_map]
  simp only [h.role_mapNodes]

theorem inFunction_iff (h : KeepsPart f) (s : Site) :
    (s.mapNodes f).InFunction ↔ s.InFunction := by
  have hfunction (a : Site) : (a.mapNodes f).IsFunction ↔ a.IsFunction := by
    rw [Site.IsFunction, Site.IsFunction, h.role_mapNodes, Site.node_mapNodes, h.kind]
  rw [Site.InFunction, Site.InFunction, Site.ancestors_mapNodes]
  constructor
  · rintro ⟨moved, hmoved, hisFunction⟩
    rcases List.mem_map.mp hmoved with ⟨a, ha, rfl⟩
    exact ⟨a, ha, (hfunction a).mp hisFunction⟩
  · rintro ⟨a, ha, hisFunction⟩
    exact ⟨a.mapNodes f, List.mem_map_of_mem ha, (hfunction a).mpr hisFunction⟩

end KeepsPart

end Node

end CloneScan
