import CloneScan.Proofs.Tree.Sites
import CloneScan.TranslationUnit

/-!
# The Comments of a Source

Which comments a visitor gets to see. The role of a node is decided on the way down, so a comment
is seen only if every node above it lets its children contribute. Comments may stand anywhere in
a source, also on the line of a directive, and there the tree has them below the directive.

Two sorts of node end the way down because they are one piece of text: a comment, and a literal.
What looks like a comment inside one of those is none. Directives end the way down as well. What
they say is no code, but a comment on their line says as much as any other, and it is lost with
them. `comments_of_parsed` says that nothing else is lost: the comments of a unit are the
comments of the tree, in preorder, less those below a directive or below the condition of one.

## Main definitions

* `Site.IsFreeComment`: A comment that is no part of another comment or of a literal.
* `Site.TakesNoPart`: A directive, a condition, or a node that the parser put in.
* `Site.IsHidden`: Something above a site takes no part in the events.
* `Site.comment?`: The comment a site contributes.

## Theorems

* `comments_eventsOf`: The comments among the events of a tree are those of its sites.
* `reached_iff`: Which comments are reached, by the kinds of the nodes above them.
* `comments_of_parsed`: The comments of a unit, and when none is lost.
* `comments_below_directives_are_lost`: A source with two comments of which none is seen.
-/

namespace CloneScan

namespace Site

/-- The node is a comment of the source. -/
def IsComment (s : Site) : Prop :=
  s.node.missing = false ∧ s.node.kind = "comment"

instance (s : Site) : Decidable s.IsComment :=
  inferInstanceAs (Decidable (_ ∧ _))

/-- The node is a comment of the source, and no part of another comment or of a literal. -/
def IsFreeComment (s : Site) : Prop :=
  s.IsComment ∧
    ∀ a ∈ s.ancestors, a.node.kind ≠ "comment" ∧ wholeLiterals.contains a.node.kind = false

instance (s : Site) : Decidable s.IsFreeComment :=
  inferInstanceAs (Decidable (_ ∧ ∀ a ∈ s.ancestors, _))

/-- The node is a directive, the mark or the condition of one, or the parser put it in. -/
def TakesNoPart (s : Site) : Prop :=
  s.node.missing = true ∨ isDirective (s.around.head?.map SyntaxTree.node) s.node = true

instance (s : Site) : Decidable s.TakesNoPart :=
  inferInstanceAs (Decidable (_ ∨ _))

/-- Something above the node takes no part in the events. -/
def IsHidden (s : Site) : Prop :=
  ∃ a ∈ s.ancestors, a.TakesNoPart

instance (s : Site) : Decidable s.IsHidden :=
  inferInstanceAs (Decidable (∃ a ∈ s.ancestors, _))

theorem role_eq_comment_iff (s : Site) : s.role = .comment ↔ s.IsComment := by
  unfold role CloneScan.role IsComment node
  by_cases hmissing : s.tree.node.missing = true
  · simp only [hmissing, if_true, reduceCtorEq, Bool.true_eq_false, false_and]
  · rw [if_neg hmissing]
    by_cases hkind : s.tree.node.kind = "comment"
    · rw [if_pos hkind]
      exact iff_of_true rfl ⟨Bool.not_eq_true _ ▸ hmissing, hkind⟩
    · -- None of the tests that are left answers with a comment.
      rw [if_neg hkind]
      refine iff_of_false ?_ fun h => hkind h.2
      repeat' split
      all_goals exact Role.noConfusion

/-- The comment a site contributes, if it contributes one. -/
def comment? (source : ByteIndex) (s : Site) : Option Comment :=
  if s.Reached ∧ s.role = .comment then some (commentOf source s.node) else none

theorem comment?_of_other (source : ByteIndex) {s : Site} (h : s.role ≠ .comment) :
    s.comment? source = none := by
  rw [comment?, if_neg fun hboth => h hboth.2]

theorem comment?_of_not_reached (source : ByteIndex) {s : Site} (h : ¬ s.Reached) :
    s.comment? source = none := by
  rw [comment?, if_neg fun hboth => h hboth.1]

end Site

/-- The ends of a node whose children contribute are no comments. -/
theorem comments_of_ends (source : ByteIndex) (parent : Option Node) (t : SyntaxTree)
    (h : (role parent t).descends = true) :
    (openingEvents source parent t).filterMap Event.comment? = [] ∧
      (closingEvents parent t).filterMap Event.comment? = [] := by
  unfold openingEvents closingEvents
  rcases (Role.descends_iff _).mp h with hbranch | htransparent
  · rw [hbranch]
    exact ⟨rfl, rfl⟩
  · rw [htransparent]
    exact ⟨rfl, rfl⟩

/-- A site that is reached contributes its comment, if the node's children do not contribute. -/
theorem comments_openingEvents (source : ByteIndex) (t : SyntaxTree) (around : List SyntaxTree)
    (h : (Site.role ⟨t, around⟩).descends = false) (hreached : Site.Reached ⟨t, around⟩) :
    (openingEvents source (around.head?.map SyntaxTree.node) t).filterMap Event.comment?
      = (Site.comment? source ⟨t, around⟩).toList := by
  have hrole : role (around.head?.map SyntaxTree.node) t = Site.role ⟨t, around⟩ := rfl
  rw [openingEvents, hrole]
  cases hcase : Site.role ⟨t, around⟩ with
  | branch => simp only [hcase, Role.descends, Bool.true_eq_false] at h
  | transparent => simp only [hcase, Role.descends, Bool.true_eq_false] at h
  | token kind =>
      rw [Site.comment?_of_other source (by rw [hcase]; exact Role.noConfusion)]
      cases htoken : tokenOf source kind t.node with
      | none =>
          simp only [htoken]
          rfl
      | some tok =>
          simp only [htoken]
          rfl
  | comment =>
      rw [Site.comment?, if_pos ⟨hreached, hcase⟩]
      rfl
  | skipped =>
      rw [Site.comment?_of_other source (by rw [hcase]; exact Role.noConfusion)]
      rfl

mutual

/-- The comments among the events of a tree are those of its sites. -/
theorem comments_eventsOf (source : ByteIndex) (t : SyntaxTree) (around : List SyntaxTree)
    (hreached : ∀ a ∈ Site.enclosing around, a.role = .branch ∨ a.role = .transparent) :
    (eventsOf source (around.head?.map SyntaxTree.node) t).filterMap Event.comment?
      = (sitesFrom around t).filterMap (Site.comment? source) := by
  cases t with
  | mk n cs =>
      rw [sitesFrom]
      by_cases hrole : (Site.role ⟨.mk n cs, around⟩).descends = true
      · -- The children stand one tree deeper, and the tree itself is no comment.
        have hends := comments_of_ends source (around.head?.map SyntaxTree.node) _ hrole
        have hchildren := comments_eventsOfAll source cs (.mk n cs :: around) (by
          intro a ha
          rcases List.mem_cons.mp ha with rfl | houter
          · exact (Role.descends_iff _).mp hrole
          · exact hreached a houter)
        have hnone : Site.comment? source ⟨.mk n cs, around⟩ = none :=
          Site.comment?_of_other source fun hcomment => by
            rw [hcomment] at hrole
            exact Bool.noConfusion hrole
        rw [List.filterMap_cons_none hnone, ← hchildren, eventsOf_descends source _ _ hrole,
          List.filterMap_append, List.filterMap_append, hends.1, hends.2, List.nil_append,
          List.append_nil]
        rfl
      · -- The tree is what it opens with, and nothing below it is reached.
        have hstays : (Site.role ⟨.mk n cs, around⟩).descends = false :=
          Bool.not_eq_true _ ▸ hrole
        have hself := comments_openingEvents source (.mk n cs) around hstays hreached
        have hbelow : (sitesFromAll (.mk n cs :: around) cs).filterMap (Site.comment? source)
            = [] :=
          List.filterMap_eq_nil_iff.mpr fun s hs =>
            Site.comment?_of_not_reached source (not_reached_below hstays hs)
        rw [(eventsOf_stays source _ _ hstays).1, hself]
        cases hone : Site.comment? source ⟨.mk n cs, around⟩ with
        | none => rw [List.filterMap_cons_none hone]; exact hbelow.symm
        | some c => rw [List.filterMap_cons_some hone]; exact congrArg (c :: ·) hbelow.symm

theorem comments_eventsOfAll (source : ByteIndex) (ts : List SyntaxTree)
    (around : List SyntaxTree)
    (hreached : ∀ a ∈ Site.enclosing around, a.role = .branch ∨ a.role = .transparent) :
    (eventsOfAll source (around.head?.map SyntaxTree.node) ts).filterMap Event.comment?
      = (sitesFromAll around ts).filterMap (Site.comment? source) := by
  cases ts with
  | nil => rfl
  | cons t ts =>
      rw [eventsOfAll, sitesFromAll, List.filterMap_append, List.filterMap_append,
        comments_eventsOf source t around hreached, comments_eventsOfAll source ts around hreached]

end

mutual

/-- What stands above a site of a tree has children. -/
theorem children_ne_nil_above {around : List SyntaxTree} {t : SyntaxTree} {s : Site}
    (haround : ∀ a ∈ Site.enclosing around, a.tree.children ≠ []) (hs : s ∈ sitesFrom around t) :
    ∀ a ∈ s.ancestors, a.tree.children ≠ [] := by
  cases t with
  | mk n cs =>
      rw [sitesFrom] at hs
      rcases List.mem_cons.mp hs with rfl | hbelow
      · exact haround
      · refine children_ne_nil_aboveAll (fun a ha => ?_) hbelow
        rcases List.mem_cons.mp ha with rfl | houter
        · -- A tree with a site below it has a child.
          rintro (rfl : cs = [])
          exact absurd hbelow List.not_mem_nil
        · exact haround a houter

theorem children_ne_nil_aboveAll {around : List SyntaxTree} {ts : List SyntaxTree} {s : Site}
    (haround : ∀ a ∈ Site.enclosing around, a.tree.children ≠ [])
    (hs : s ∈ sitesFromAll around ts) : ∀ a ∈ s.ancestors, a.tree.children ≠ [] := by
  cases ts with
  | nil => exact absurd hs List.not_mem_nil
  | cons t ts =>
      rw [sitesFromAll, List.mem_append] at hs
      rcases hs with hfirst | hrest
      · exact children_ne_nil_above haround hfirst
      · exact children_ne_nil_aboveAll haround hrest

end

/-- An inner node lets its children contribute unless it is a comment, a literal or takes no part
    in the events. -/
theorem descends_iff_of_children {s : Site} (h : s.tree.children ≠ []) :
    (s.role = .branch ∨ s.role = .transparent) ↔
      (s.node.kind ≠ "comment" ∧ wholeLiterals.contains s.node.kind = false) ∧
        ¬ s.TakesNoPart := by
  have hinner : s.tree.children.isEmpty = false := by
    rw [List.isEmpty_eq_false_iff]
    exact h
  unfold Site.TakesNoPart Site.role role Site.node
  -- The cases are the tests that decide the role, in their order.
  by_cases hmissing : s.tree.node.missing = true
  · simp only [hmissing, if_true, reduceCtorEq, or_self, true_or, not_true_eq_false, and_false]
  · rw [if_neg hmissing]
    by_cases hkind : s.tree.node.kind = "comment"
    · simp only [hkind, if_true, reduceCtorEq, or_self, ne_eq, not_true_eq_false, false_and]
    · rw [if_neg hkind]
      by_cases hdirective :
          isDirective (s.around.head?.map SyntaxTree.node) s.tree.node = true
      · simp only [hdirective, if_true, reduceCtorEq, or_self, or_true, not_true_eq_false,
          and_false]
      · rw [if_neg hdirective, hinner, Bool.or_false]
        by_cases hliteral : wholeLiterals.contains s.tree.node.kind = true
        · simp only [hliteral, if_true, reduceCtorEq, or_self, Bool.true_eq_false, and_false,
            false_and]
        · rw [if_neg hliteral]
          have hcontributes : ∀ named : Bool,
              (if named = true then Role.branch else .transparent) = .branch ∨
                (if named = true then Role.branch else .transparent) = .transparent := by
            decide
          exact iff_of_true (hcontributes _)
            ⟨⟨hkind, Bool.not_eq_true _ ▸ hliteral⟩, not_or.mpr ⟨hmissing, hdirective⟩⟩

/-- A comment of a tree is reached if it is no part of another comment or of a literal, and nothing
    above it takes no part in the events. -/
theorem reached_iff {t : SyntaxTree} {s : Site} (hs : s ∈ t.sites) (hcomment : s.IsComment) :
    s.Reached ↔ s.IsFreeComment ∧ ¬ s.IsHidden := by
  have habove := children_ne_nil_above (fun a ha => absurd ha List.not_mem_nil) hs
  have hone := fun a ha => descends_iff_of_children (habove a ha)
  constructor
  · intro hreached
    refine ⟨⟨hcomment, fun a ha => ((hone a ha).mp (hreached a ha)).1⟩, ?_⟩
    rintro ⟨a, ha, hnone⟩
    exact ((hone a ha).mp (hreached a ha)).2 hnone
  · rintro ⟨⟨_, hfree⟩, hseen⟩ a ha
    exact (hone a ha).mpr ⟨hfree a ha, fun hnone => hseen ⟨a, ha, hnone⟩⟩

/-- A site of a tree contributes its comment, if it is one by itself and nothing hides it. -/
theorem comment?_of_mem_sites (source : ByteIndex) {t : SyntaxTree} {s : Site}
    (hs : s ∈ t.sites) :
    s.comment? source
      = if s.IsFreeComment ∧ ¬ s.IsHidden then some (commentOf source s.node) else none := by
  rw [Site.comment?]
  refine if_congr ?_ rfl rfl
  rw [Site.role_eq_comment_iff]
  constructor
  · rintro ⟨hreached, hcomment⟩
    exact (reached_iff hs hcomment).mp hreached
  · intro hseen
    exact ⟨(reached_iff hs hseen.1.1).mpr hseen, hseen.1.1⟩

/-- Two filters of a list, of which one asks for more, leave as much only if they leave the same. -/
theorem map_filter_eq_iff {α β : Type} (f : α → β) (p q : α → Prop) [DecidablePred p]
    [DecidablePred q] (l : List α) :
    (l.filter fun a => p a ∧ q a).map f = (l.filter fun a => p a).map f ↔
      ∀ a ∈ l, p a → q a := by
  constructor
  · intro hsame a ha hp
    -- The shorter list is a filter of the longer one, so their lengths decide.
    have hlength := congrArg List.length hsame
    have hsplit : (l.filter fun a => p a ∧ q a) = (l.filter fun a => p a).filter fun a => q a := by
      rw [List.filter_filter]
      exact List.filter_congr fun b _ => by rw [Bool.decide_and, Bool.and_comm]
    rw [List.length_map, List.length_map, hsplit, List.length_filter_eq_length_iff] at hlength
    exact of_decide_eq_true (hlength a (List.mem_filter.mpr ⟨ha, decide_eq_true hp⟩))
  · intro hall
    refine congrArg _ (List.filter_congr fun a ha => ?_)
    exact decide_eq_decide.mpr ⟨fun h => h.1, fun h => ⟨h, hall a ha h⟩⟩

/-- The comments of a unit are those of its tree that nothing hides. -/
theorem comments_eq_filter (path : Path) (source : String) (parsed : ParsedSource) :
    (TranslationUnit.ofParsed path source parsed).comments
      = (parsed.root.sites.filter fun s => s.IsFreeComment ∧ ¬ s.IsHidden).map
          (fun s => commentOf (.ofList source.toList) s.node) := by
  have hsites := comments_eventsOf (.ofList source.toList) parsed.root []
    (fun a ha => absurd ha List.not_mem_nil)
  -- The token that ends the file is no comment, so the comments are those of the tree.
  have hunit : (TranslationUnit.ofParsed path source parsed).comments
      = (eventsOf (.ofList source.toList) none parsed.root).filterMap Event.comment? := by
    simp only [TranslationUnit.comments, TranslationUnit.ofParsed, Cursor.read_start,
      List.filterMap_append]
    exact List.append_nil _
  rw [hunit, ← List.filterMap_eq_map, List.filterMap_filter]
  refine hsites.trans (List.filterMap_congr fun s hs => ?_)
  rw [comment?_of_mem_sites _ hs]
  exact if_congr decide_eq_true_iff.symm rfl rfl

/-- The comments of a parsed source are the comments of its tree, in preorder: those that are no
    part of another comment or of a literal, less those that are hidden below something that takes
    no part in the events. So no comment is lost exactly if none is hidden. -/
theorem comments_of_parsed (path : Path) (source : String) (parsed : ParsedSource) :
    let unit := TranslationUnit.ofParsed path source parsed
    let text := ByteIndex.ofList source.toList
    unit.comments
        = (parsed.root.sites.filter fun s => s.IsFreeComment ∧ ¬ s.IsHidden).map
            (fun s => commentOf text s.node) ∧
      parsed.root.sites.map (fun s => (⟨s.node, s.tree.children.length⟩ : Listed))
        = parsed.root.listing ∧
      (unit.comments
          = (parsed.root.sites.filter fun s => s.IsFreeComment).map
              (fun s => commentOf text s.node) ↔
        ∀ s ∈ parsed.root.sites, s.IsFreeComment → ¬ s.IsHidden) := by
  intro unit text
  have hcomments : unit.comments = _ := comments_eq_filter path source parsed
  refine ⟨hcomments, map_sites parsed.root, ?_⟩
  rw [hcomments]
  exact map_filter_eq_iff _ _ _ _

/-- Two directives with a comment each. -/
def directiveText : String :=
  "#define A// c\n#define B /* c */ 1\n"

/-- The tree of `directiveText`: both comments stand below their directives. -/
def directiveComments : ParsedSource :=
  ⟨.mk ⟨"translation_unit", true, false, 0, 34, 0, 0, none⟩
    [.mk ⟨"preproc_def", true, false, 0, 14, 0, 0, none⟩
        [.mk ⟨"#define", false, false, 0, 7, 0, 0, none⟩ [],
          .mk ⟨"identifier", true, false, 8, 9, 0, 8, some "name"⟩ [],
          .mk ⟨"comment", true, false, 9, 13, 0, 9, none⟩ []],
      .mk ⟨"preproc_def", true, false, 14, 34, 1, 0, none⟩
        [.mk ⟨"#define", false, false, 14, 21, 1, 0, none⟩ [],
          .mk ⟨"identifier", true, false, 22, 23, 1, 8, some "name"⟩ [],
          .mk ⟨"comment", true, false, 24, 31, 1, 10, none⟩ [],
          .mk ⟨"preproc_arg", true, false, 32, 33, 1, 18, some "value"⟩ []]], false⟩

/-- The tree has two comments, which are no parts of others or of literals, and no comment is
    seen. -/
theorem comments_below_directives_are_lost :
    (directiveComments.root.sites.filter fun s => s.IsFreeComment).map
        (fun s => commentOf (.ofList directiveText.toList) s.node)
      = [⟨"// c", 1, 10⟩, ⟨"/* c */", 2, 11⟩] ∧
    (TranslationUnit.ofParsed ⟨"a.cpp"⟩ directiveText directiveComments).comments = [] := by
  refine ⟨by decide +kernel, ?_⟩
  rw [comments_eq_filter]
  decide +kernel

end CloneScan
