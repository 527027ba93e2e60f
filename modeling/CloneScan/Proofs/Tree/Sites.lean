import CloneScan.Proofs.Event.Brackets
import CloneScan.Proofs.Tree.Pass
import CloneScan.Tree.Listing
import Mathlib.Data.List.Basic

/-!
# Sites

The nodes of a syntax tree where they stand: each with the tree below it and the trees around
it. What a node contributes depends on its ancestors, on all of them for whether it is
reached and on the nearest for its role, and a site carries them along.

`SyntaxTree.sites` lists the sites of a tree in preorder. `map_sites` says that it is the
listing a parser hands over, so that nothing is left out and nothing named twice.

The main statement is `tokensInside_eventsOf`: the tokens that the events of a tree show
inside functions are the tokens of the sites that are reached and have a function definition
around them, in preorder. An event list has no ancestors, only a depth, so the induction is
over all starting depths at once: the depth is the number of function definitions around the
tree.

## Main definitions

* `Site`: A node of a tree where it stands.
* `Site.ancestors`: The sites of the trees around a site.
* `SyntaxTree.sites`: The sites of a tree, in preorder.
* `Site.Reached`, `Site.InFunction`: Every ancestor lets its children contribute, and some
  ancestor is a function definition.
* `Site.token?`: The token a site contributes inside a function.

## Theorems

* `map_sites`: The sites of a tree are its listing.
* `mem_ancestors_of_mem_sitesFrom`: The trees around a tree are around its sites.
* `tokensInside_eventsOf`: The tokens inside functions are those of the sites.
-/

namespace CloneScan

/-- A node of a syntax tree where it stands. -/
structure Site where
  /-- The node, with the tree below it. -/
  tree : SyntaxTree
  /-- The trees around it, the nearest first. -/
  around : List SyntaxTree
  deriving Repr

mutual

/-- The sites of a tree that stands inside others, each before the sites below it. -/
def sitesFrom (around : List SyntaxTree) : SyntaxTree → List Site
  | .mk n cs => ⟨.mk n cs, around⟩ :: sitesFromAll (.mk n cs :: around) cs

/-- The sites of several trees that stand inside others, one tree after the other. -/
def sitesFromAll (around : List SyntaxTree) : List SyntaxTree → List Site
  | [] => []
  | t :: ts => sitesFrom around t ++ sitesFromAll around ts

end

/-- The sites of a whole tree, in preorder. -/
def SyntaxTree.sites (t : SyntaxTree) : List Site :=
  sitesFrom [] t

namespace Site

/-- The node that stands there. -/
def node (s : Site) : Node :=
  s.tree.node

/-- What the node contributes. -/
def role (s : Site) : Role :=
  CloneScan.role (s.around.head?.map SyntaxTree.node) s.tree

/-- The sites of several trees, each inside all that follow. -/
def enclosing : List SyntaxTree → List Site
  | [] => []
  | t :: around => ⟨t, around⟩ :: enclosing around

/-- The proper ancestors, the nearest first. -/
def ancestors (s : Site) : List Site :=
  enclosing s.around

/-- The node is a function definition whose children contribute. -/
def IsFunction (s : Site) : Prop :=
  s.role = .branch ∧ s.node.kind = functionDefinition

instance (s : Site) : Decidable s.IsFunction :=
  inferInstanceAs (Decidable (_ ∧ _))

/-- Every proper ancestor lets its children contribute. -/
def Reached (s : Site) : Prop :=
  ∀ a ∈ s.ancestors, a.role = .branch ∨ a.role = .transparent

instance (s : Site) : Decidable s.Reached :=
  inferInstanceAs (Decidable (∀ a ∈ s.ancestors, _))

/-- Some proper ancestor is a function definition. -/
def InFunction (s : Site) : Prop :=
  ∃ a ∈ s.ancestors, a.IsFunction

instance (s : Site) : Decidable s.InFunction :=
  inferInstanceAs (Decidable (∃ a ∈ s.ancestors, _))

/-- The token a site contributes inside a function, if it contributes one. -/
def token? (source : ByteIndex) (s : Site) : Option Token :=
  if s.Reached ∧ s.InFunction then
    match s.role with
    | .token kind => tokenOf source kind s.node
    | _ => none
  else none

theorem token?_of_no_token (source : ByteIndex) {s : Site} (h : ∀ kind, s.role ≠ .token kind) :
    s.token? source = none := by
  unfold token?
  split
  · split
    · rename_i kind hrole
      exact absurd hrole (h kind)
    · rfl
  · rfl

end Site

mutual

theorem map_sitesFrom (around : List SyntaxTree) (t : SyntaxTree) :
    (sitesFrom around t).map (fun s => (⟨s.node, s.tree.children.length⟩ : Listed))
      = t.listing := by
  cases t with
  | mk n cs =>
      rw [sitesFrom, List.map_cons, map_sitesFromAll, SyntaxTree.listing]
      rfl

theorem map_sitesFromAll (around : List SyntaxTree) (ts : List SyntaxTree) :
    (sitesFromAll around ts).map (fun s => (⟨s.node, s.tree.children.length⟩ : Listed))
      = SyntaxTree.listingAll ts := by
  cases ts with
  | nil => rfl
  | cons t ts =>
      rw [sitesFromAll, List.map_append, map_sitesFrom, map_sitesFromAll, SyntaxTree.listingAll]

end

/-- The sites of a tree are its nodes in preorder, each with the number of its children. -/
theorem map_sites (t : SyntaxTree) :
    t.sites.map (fun s => (⟨s.node, s.tree.children.length⟩ : Listed)) = t.listing :=
  map_sitesFrom [] t

mutual

/-- The trees around a tree are around every site of it. -/
theorem mem_ancestors_of_mem_sitesFrom {around : List SyntaxTree} {t : SyntaxTree} {s a : Site}
    (hs : s ∈ sitesFrom around t) (ha : a ∈ Site.enclosing around) : a ∈ s.ancestors := by
  cases t with
  | mk n cs =>
      rw [sitesFrom, List.mem_cons] at hs
      rcases hs with rfl | hbelow
      · exact ha
      · exact mem_ancestors_of_mem_sitesFromAll hbelow (List.mem_cons_of_mem _ ha)

theorem mem_ancestors_of_mem_sitesFromAll {around : List SyntaxTree} {ts : List SyntaxTree}
    {s a : Site} (hs : s ∈ sitesFromAll around ts) (ha : a ∈ Site.enclosing around) :
    a ∈ s.ancestors := by
  cases ts with
  | nil => exact absurd hs List.not_mem_nil
  | cons t ts =>
      rw [sitesFromAll, List.mem_append] at hs
      rcases hs with hfirst | hrest
      · exact mem_ancestors_of_mem_sitesFrom hfirst ha
      · exact mem_ancestors_of_mem_sitesFromAll hrest ha

end

theorem Role.descends_iff (r : Role) : r.descends = true ↔ r = .branch ∨ r = .transparent := by
  cases r with
  | branch => simp only [descends, true_or]
  | transparent => simp only [descends, or_true]
  | token kind => simp only [descends, Bool.false_eq_true, reduceCtorEq, or_self]
  | comment => simp only [descends, Bool.false_eq_true, reduceCtorEq, or_self]
  | skipped => simp only [descends, Bool.false_eq_true, reduceCtorEq, or_self]

/-- Nothing below a node is reached if the node's children do not contribute. -/
theorem not_reached_below {around : List SyntaxTree} {t : SyntaxTree} {s : Site}
    (hrole : (Site.role ⟨t, around⟩).descends = false)
    (hs : s ∈ sitesFromAll (t :: around) t.children) : ¬ s.Reached := by
  -- The tree is an ancestor of every site below it, and lets none of them through.
  have hmem : (⟨t, around⟩ : Site) ∈ s.ancestors :=
    mem_ancestors_of_mem_sitesFromAll hs List.mem_cons_self
  intro hreached
  rw [(Role.descends_iff _).mpr (hreached _ hmem)] at hrole
  exact Bool.noConfusion hrole

theorem token?_below (source : ByteIndex) {around : List SyntaxTree} {t : SyntaxTree}
    (hrole : (Site.role ⟨t, around⟩).descends = false) :
    (sitesFromAll (t :: around) t.children).filterMap (Site.token? source) = [] := by
  rw [List.filterMap_eq_nil_iff]
  intro s hs
  rw [Site.token?, if_neg (fun h => not_reached_below hrole hs h.1)]

/-- The number of function definitions among several trees, each inside all that follow. -/
def functionsAround (around : List SyntaxTree) : Nat :=
  (Site.enclosing around).countP fun a => a.IsFunction

/-- A site is in a function exactly where the depth of functions is not zero. -/
theorem inFunction_iff (t : SyntaxTree) (around : List SyntaxTree) :
    Site.InFunction ⟨t, around⟩ ↔ (⟨functionsAround around⟩ : FunctionDepth).isInside = true := by
  have hcount := List.countP_pos_iff (p := fun a => decide (Site.IsFunction a))
    (l := Site.enclosing around)
  simp only [FunctionDepth.isInside, gt_iff_lt, decide_eq_true_eq, functionsAround, hcount,
    Site.InFunction, Site.ancestors]

/-- A function definition adds one to the depth inside it, and no other tree does. -/
theorem functionsAround_cons (t : SyntaxTree) (around : List SyntaxTree) :
    functionsAround (t :: around)
      = functionsAround around + if Site.IsFunction ⟨t, around⟩ then 1 else 0 := by
  simp only [functionsAround, Site.enclosing, List.countP_cons, decide_eq_true_eq]

/-- Where the children contribute, the ends of a node show no token, and what the node opens with
    leads to the depth inside it. -/
theorem openingEvents_of_descends (source : ByteIndex) (t : SyntaxTree)
    (around : List SyntaxTree) (h : (Site.role ⟨t, around⟩).descends = true) :
    FunctionDepth.afterAll ⟨functionsAround around⟩
        (openingEvents source (around.head?.map SyntaxTree.node) t)
        = ⟨functionsAround (t :: around)⟩ ∧
      ∀ d : FunctionDepth,
        d.tokensInside (openingEvents source (around.head?.map SyntaxTree.node) t) = [] ∧
        d.tokensInside (closingEvents (around.head?.map SyntaxTree.node) t) = [] := by
  have hrole : role (around.head?.map SyntaxTree.node) t = Site.role ⟨t, around⟩ := rfl
  rw [functionsAround_cons, openingEvents, closingEvents, hrole]
  rcases (Role.descends_iff _).mp h with hbranch | htransparent
  · -- A branch moves the depth if it is a function definition.
    rw [hbranch]
    refine ⟨?_, fun d => ⟨FunctionDepth.tokensInside_of_no_token d rfl,
      FunctionDepth.tokensInside_of_no_token d rfl⟩⟩
    by_cases hkind : t.node.kind = functionDefinition
    · have hfunction : Site.IsFunction ⟨t, around⟩ := ⟨hbranch, hkind⟩
      rw [if_pos hfunction]
      simp only [FunctionDepth.afterAll, hkind, FunctionDepth.after_enter_function]
      rfl
    · have hother : ¬ Site.IsFunction ⟨t, around⟩ := fun hf => hkind hf.2
      rw [if_neg hother]
      simp only [FunctionDepth.afterAll, FunctionDepth.after_enter_other _ _ hkind]
      rfl
  · -- A transparent node has no ends, and is no function definition whatever its kind.
    rw [htransparent]
    refine ⟨?_, fun d => ⟨rfl, rfl⟩⟩
    have hother : ¬ Site.IsFunction ⟨t, around⟩ := by
      intro hf
      rw [Site.IsFunction, htransparent] at hf
      exact absurd hf.1 (by simp only [reduceCtorEq, not_false_eq_true])
    rw [if_neg hother, Nat.add_zero]
    rfl

/-- A site that is reached contributes what its node opens with, if the node's children do not
    contribute: its token inside a function, and no token anywhere else. -/
theorem tokensInside_openingEvents (source : ByteIndex) (t : SyntaxTree)
    (around : List SyntaxTree) (h : (Site.role ⟨t, around⟩).descends = false)
    (hreached : Site.Reached ⟨t, around⟩) :
    FunctionDepth.tokensInside ⟨functionsAround around⟩
        (openingEvents source (around.head?.map SyntaxTree.node) t)
      = (Site.token? source ⟨t, around⟩).toList := by
  have hrole : role (around.head?.map SyntaxTree.node) t = Site.role ⟨t, around⟩ := rfl
  have hinside := inFunction_iff t around
  rw [openingEvents, Site.token?, hrole]
  cases hcase : Site.role ⟨t, around⟩ with
  | branch => simp only [hcase, Role.descends, Bool.true_eq_false] at h
  | transparent => simp only [hcase, Role.descends, Bool.true_eq_false] at h
  | token kind =>
      -- Being in a function is the depth not being zero, so both sides ask the same.
      by_cases hfunction : Site.InFunction ⟨t, around⟩
      · have hdepth := hinside.mp hfunction
        rw [if_pos ⟨hreached, hfunction⟩]
        cases hone : tokenOf source kind t.node with
        | none =>
            simp only [Site.node, hone]
            rfl
        | some tok =>
            simp only [Site.node, hone, Option.toList_some, List.map_cons, List.map_nil,
              FunctionDepth.tokensInside, FunctionDepth.tokenInside, hdepth, if_true,
              Event.token?, List.append_nil]
      · have hdepth : ¬ (⟨functionsAround around⟩ : FunctionDepth).isInside = true :=
          fun hd => hfunction (hinside.mpr hd)
        rw [if_neg (fun hb => hfunction hb.2)]
        cases hone : tokenOf source kind t.node with
        | none =>
            simp only [hone]
            rfl
        | some tok =>
            simp only [hone, Option.toList_some, List.map_cons, List.map_nil,
              FunctionDepth.tokensInside, FunctionDepth.tokenInside, if_neg hdepth,
              List.append_nil, Option.toList_none]
  | comment =>
      rw [ite_self]
      exact FunctionDepth.tokensInside_of_no_token _ rfl
  | skipped => simp only [ite_self, Option.toList_none, FunctionDepth.tokensInside]

mutual

/-- The tokens that the events of a tree show inside functions are those of its sites. -/
theorem tokensInside_eventsOf (source : ByteIndex) (t : SyntaxTree) (around : List SyntaxTree)
    (hreached : ∀ a ∈ Site.enclosing around, a.role = .branch ∨ a.role = .transparent) :
    FunctionDepth.tokensInside ⟨functionsAround around⟩
        (eventsOf source (around.head?.map SyntaxTree.node) t)
      = (sitesFrom around t).filterMap (Site.token? source) := by
  cases t with
  | mk n cs =>
      rw [sitesFrom]
      by_cases hrole : (Site.role ⟨.mk n cs, around⟩).descends = true
      · -- The children stand one tree deeper, and the tree itself is no token.
        have hends := openingEvents_of_descends source (.mk n cs) around hrole
        have hchildren := tokensInside_eventsOfAll source cs (.mk n cs :: around) (by
          intro a ha
          rcases List.mem_cons.mp ha with rfl | houter
          · exact (Role.descends_iff _).mp hrole
          · exact hreached a houter)
        have hnone : Site.token? source ⟨.mk n cs, around⟩ = none :=
          Site.token?_of_no_token source fun kind hkind => by
            rw [hkind] at hrole
            exact Bool.noConfusion hrole
        rw [List.filterMap_cons_none hnone, ← hchildren, eventsOf_descends source _ _ hrole,
          FunctionDepth.tokensInside_append, FunctionDepth.tokensInside_append,
          hends.1, (hends.2 _).1, (hends.2 _).2, List.nil_append, List.append_nil]
        rfl
      · -- The tree is what it opens with, and nothing below it counts.
        have hstays : (Site.role ⟨.mk n cs, around⟩).descends = false :=
          Bool.not_eq_true _ ▸ hrole
        have hself := tokensInside_openingEvents source (.mk n cs) around hstays hreached
        have hbelow := token?_below source hstays
        rw [(eventsOf_stays source _ _ hstays).1, hself]
        cases hone : Site.token? source ⟨.mk n cs, around⟩ with
        | none => rw [List.filterMap_cons_none hone]; exact hbelow.symm
        | some tok => rw [List.filterMap_cons_some hone]; exact congrArg (tok :: ·) hbelow.symm

theorem tokensInside_eventsOfAll (source : ByteIndex) (ts : List SyntaxTree)
    (around : List SyntaxTree)
    (hreached : ∀ a ∈ Site.enclosing around, a.role = .branch ∨ a.role = .transparent) :
    FunctionDepth.tokensInside ⟨functionsAround around⟩
        (eventsOfAll source (around.head?.map SyntaxTree.node) ts)
      = (sitesFromAll around ts).filterMap (Site.token? source) := by
  cases ts with
  | nil => rfl
  | cons t ts =>
      -- The first tree leaves the depth as it was, so the others start from the same one.
      rw [eventsOfAll, sitesFromAll, FunctionDepth.tokensInside_append, List.filterMap_append,
        (afterAll_of_restores (nestAll_eventsOf source _ t) _).1,
        tokensInside_eventsOf source t around hreached,
        tokensInside_eventsOfAll source ts around hreached]

end

end CloneScan
