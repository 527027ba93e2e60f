import CloneScan.Proofs.Tree.Sites

/-!
# The Frontier of a Tree

Where the reading stops. A site is on the frontier if it is reached and its children do not
contribute, and it is only there that a tree gives tokens. Such sites never stand one inside
the other, since the outer one would keep the inner one from being reached.

That by itself says nothing about the text. In a tree that is laid out, a child covers a part of
what its parent covers, and of two siblings the first ends before the second starts. Both
are about neighbours in the tree only; `pairwise_frontier` carries them to any two sites of
the frontier, however far apart their common ancestor is. The sites above the frontier are not
in order, each covers what is below it, so the order is one of the frontier alone.

## Main definitions

* `SyntaxTree.ChildrenInOrder`: The children of a tree cover parts of it, one after the other.
* `SyntaxTree.LaidOut`: This is so throughout a tree.
* `Site.OnFrontier`: A site that is reached and lets nothing below it be reached.

## Theorems

* `inside_of_mem_sitesFrom`: A site of a tree covers a part of what the tree covers.
* `pairwise_frontier`: The sites of the frontier cover parts of the text, one after the other.
-/

namespace CloneScan

/-- The children of a tree cover parts of what the tree covers, one after the other. -/
structure SyntaxTree.ChildrenInOrder (t : SyntaxTree) : Prop where
  /-- What a child covers, the tree covers. -/
  inside : ∀ child ∈ t.children,
    t.node.startByte ≤ child.node.startByte ∧ child.node.stopByte ≤ t.node.stopByte
  /-- Of two children, the first ends before the second starts. -/
  inOrder : t.children.Pairwise fun first second => first.node.stopByte ≤ second.node.startByte

instance (t : SyntaxTree) : Decidable t.ChildrenInOrder :=
  decidable_of_iff
    ((∀ child ∈ t.children,
        t.node.startByte ≤ child.node.startByte ∧ child.node.stopByte ≤ t.node.stopByte) ∧
      t.children.Pairwise fun first second => first.node.stopByte ≤ second.node.startByte)
    ⟨fun h => ⟨h.1, h.2⟩, fun h => ⟨h.inside, h.inOrder⟩⟩

/-- The children are in order at every site of a tree. -/
def SyntaxTree.LaidOut (t : SyntaxTree) : Prop :=
  ∀ s ∈ t.sites, s.tree.ChildrenInOrder

instance (t : SyntaxTree) : Decidable t.LaidOut :=
  inferInstanceAs (Decidable (∀ s ∈ t.sites, s.tree.ChildrenInOrder))

/-- A site is reached, and lets nothing below it be reached. -/
def Site.OnFrontier (s : Site) : Prop :=
  s.Reached ∧ s.role.descends = false

mutual

/-- A site of a tree covers a part of what the tree covers. -/
theorem inside_of_mem_sitesFrom {around : List SyntaxTree} {t : SyntaxTree} {s : Site}
    (hlaid : ∀ a ∈ sitesFrom around t, a.tree.ChildrenInOrder) (hs : s ∈ sitesFrom around t) :
    t.node.startByte ≤ s.node.startByte ∧ s.node.stopByte ≤ t.node.stopByte := by
  cases t with
  | mk n cs =>
      rw [sitesFrom] at hlaid hs
      have hself := hlaid _ List.mem_cons_self
      rcases List.mem_cons.mp hs with rfl | hbelow
      · exact ⟨Nat.le_refl _, Nat.le_refl _⟩
      · rcases inside_of_mem_sitesFromAll (fun a ha => hlaid a (List.mem_cons_of_mem _ ha)) hbelow
          with ⟨child, hchild, hstart, hstop⟩
        have hinside := hself.inside child hchild
        exact ⟨Nat.le_trans hinside.1 hstart, Nat.le_trans hstop hinside.2⟩

theorem inside_of_mem_sitesFromAll {around : List SyntaxTree} {ts : List SyntaxTree} {s : Site}
    (hlaid : ∀ a ∈ sitesFromAll around ts, a.tree.ChildrenInOrder)
    (hs : s ∈ sitesFromAll around ts) :
    ∃ t ∈ ts, t.node.startByte ≤ s.node.startByte ∧ s.node.stopByte ≤ t.node.stopByte := by
  cases ts with
  | nil => exact absurd hs List.not_mem_nil
  | cons t ts =>
      rw [sitesFromAll] at hlaid hs
      rcases List.mem_append.mp hs with hfirst | hrest
      · exact ⟨t, List.mem_cons_self,
          inside_of_mem_sitesFrom (fun a ha => hlaid a (List.mem_append_left _ ha)) hfirst⟩
      · rcases inside_of_mem_sitesFromAll (fun a ha => hlaid a (List.mem_append_right _ ha)) hrest
          with ⟨u, hu, hinside⟩
        exact ⟨u, List.mem_cons_of_mem t hu, hinside⟩

end

mutual

/-- Of two sites of a tree that are on the frontier, the first ends before the second starts. -/
theorem pairwise_frontier (around : List SyntaxTree) (t : SyntaxTree)
    (hlaid : ∀ a ∈ sitesFrom around t, a.tree.ChildrenInOrder) :
    (sitesFrom around t).Pairwise fun first second =>
      first.OnFrontier → second.OnFrontier → first.node.stopByte ≤ second.node.startByte := by
  cases t with
  | mk n cs =>
      rw [sitesFrom] at hlaid ⊢
      refine List.pairwise_cons.mpr ⟨?_, ?_⟩
      · -- If the tree itself is on the frontier, nothing below it is.
        intro s hbelow hself hs
        exact absurd hs.1 (not_reached_below hself.2 hbelow)
      · exact pairwise_frontierAll (.mk n cs :: around) cs
          (fun a ha => hlaid a (List.mem_cons_of_mem _ ha)) (hlaid _ List.mem_cons_self).inOrder

theorem pairwise_frontierAll (around : List SyntaxTree) (ts : List SyntaxTree)
    (hlaid : ∀ a ∈ sitesFromAll around ts, a.tree.ChildrenInOrder)
    (hinOrder : ts.Pairwise fun first second => first.node.stopByte ≤ second.node.startByte) :
    (sitesFromAll around ts).Pairwise fun first second =>
      first.OnFrontier → second.OnFrontier → first.node.stopByte ≤ second.node.startByte := by
  cases ts with
  | nil => exact List.Pairwise.nil
  | cons t ts =>
      rw [sitesFromAll] at hlaid ⊢
      have hfirst : ∀ a ∈ sitesFrom around t, a.tree.ChildrenInOrder :=
        fun a ha => hlaid a (List.mem_append_left _ ha)
      have hrest : ∀ a ∈ sitesFromAll around ts, a.tree.ChildrenInOrder :=
        fun a ha => hlaid a (List.mem_append_right _ ha)
      have hordered := List.pairwise_cons.mp hinOrder
      refine List.pairwise_append.mpr ⟨pairwise_frontier around t hfirst,
        pairwise_frontierAll around ts hrest hordered.2, ?_⟩
      -- Sites of different trees are as far apart as the trees are.
      intro a ha b hb _ _
      rcases inside_of_mem_sitesFromAll hrest hb with ⟨u, hu, hstart, _⟩
      calc a.node.stopByte
          ≤ t.node.stopByte := (inside_of_mem_sitesFrom hfirst ha).2
        _ ≤ u.node.startByte := hordered.1 u hu
        _ ≤ b.node.startByte := hstart

end

end CloneScan
