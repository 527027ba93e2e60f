import CloneScan.Proofs.File.Obstacles
import CloneScan.Proofs.Path.Extensions
import Mathlib

/-!
# Collecting Files

A path that names a directory stands for the source files below it. What that means is said here
without a walk: a file is below a directory if some names lead to the directory it is in, and the
list of such files is known from its members and its order alone (`Scanner.Collected.eq`). So there
is one such list, and whoever comes to it by whatever way has it. It takes that all directories on
the way can be listed. If one cannot, there is no list, and the first of them has the blame.

The walk sorts the entries of one directory at a time, and puts all that is below an entry at the
place of its name. That this is the order of paths as a whole follows from what the paths below an
entry have in common, which are its steps: two paths from below different entries part at the names
of these (`Path.precedes_of_names`). The claim that goes through the walk is about an entry and the
path that leads to it, as `Scanner.Finds` has it, for a walk that ends with files and for one that
ends with a fault. It holds of links because the walk is where the path is: what an entry stands for
is what a look-up of its path finds (`FileSystem.lookUp_join`).

## Main definitions

* `Scanner.Gathers`: A list has the files that a path under a name stands for.
* `Scanner.Finds`: A walk has ended as it should.
* `Scanner.Collected`: A list has the source files below a directory.

## Theorems

* `Scanner.joinParts_map_eq_ok_iff`, `Scanner.joinParts_map_eq_error_iff`: Several lists and their
  first fault.
* `Scanner.below_iff`: What is below a directory, by its entries.
* `Scanner.finds_directory`: One round of a walk.
* `Scanner.finds_collectEntry`: The whole walk.
* `Scanner.collectPath_eq_error_iff`: A path fails by what is in its way.
* `Scanner.collectFiles_complete`: What paths stand for, and when that fails.
-/

namespace CloneScan

namespace Scanner

/-! ## Several lists -/

section Parts

variable {α β : Type} {f : β → Except Fault (List α)} {xs : List β}

theorem joinParts_cons_ok {part : Except Fault (List α)} {parts : List (Except Fault (List α))}
    {joined : List α} :
    joinParts (part :: parts) = .ok joined ↔
      ∃ list later, part = .ok list ∧ joinParts parts = .ok later ∧ joined = list ++ later := by
  rw [joinParts]
  cases part with
  | error fault => exact iff_of_false nofun (by rintro ⟨_, _, ⟨⟩, _⟩)
  | ok list =>
      cases joinParts parts with
      | error fault => exact iff_of_false nofun (by rintro ⟨_, _, _, ⟨⟩, _⟩)
      | ok later =>
          refine ⟨fun h => ⟨list, later, rfl, rfl, (Except.ok.inj h).symm⟩, ?_⟩
          rintro ⟨_, _, ⟨⟩, ⟨⟩, rfl⟩
          rfl

/-- The lists of several things are joined if none of them has a fault. -/
theorem joinParts_map_eq_ok_iff {joined : List α} :
    joinParts (xs.map f) = .ok joined ↔
      ∃ found : β → List α, (∀ x ∈ xs, f x = .ok (found x)) ∧ joined = xs.flatMap found := by
  constructor
  · intro h
    -- What is found of a thing does not depend on where it stands.
    refine ⟨fun x => (f x).toOption.getD [], ?_⟩
    induction xs generalizing joined with
    | nil => exact ⟨List.forall_mem_nil _, (Except.ok.inj h).symm⟩
    | cons x rest ih =>
        rcases joinParts_cons_ok.mp h with ⟨list, later, hlist, hlater, rfl⟩
        rcases ih hlater with ⟨hfound, rfl⟩
        rw [List.forall_mem_cons, List.flatMap_cons]
        simp only [hlist, Except.toOption, Option.getD_some]
        exact ⟨⟨trivial, hfound⟩, trivial⟩
  · rintro ⟨found, hfound, rfl⟩
    induction xs with
    | nil => rfl
    | cons x rest ih =>
        rw [List.forall_mem_cons] at hfound
        exact joinParts_cons_ok.mpr ⟨_, _, hfound.1, ih hfound.2, List.flatMap_cons⟩

/-- The fault of several things is that of the first with one, whatever comes behind. -/
theorem joinParts_map_eq_error_iff {fault : Fault} :
    joinParts (xs.map f) = .error fault ↔
      ∃ before x after, xs = before ++ x :: after ∧ (∀ y ∈ before, ∃ list, f y = .ok list) ∧
        f x = .error fault := by
  induction xs with
  | nil =>
      refine iff_of_false nofun ?_
      rintro ⟨before, x, after, hxs, _⟩
      exact List.append_ne_nil_of_right_ne_nil before (List.cons_ne_nil x after) hxs.symm
  | cons x rest ih =>
      cases hx : f x with
      | error cause =>
          rw [List.map_cons, joinParts, hx]
          constructor
          · intro h
            obtain rfl : cause = fault := Except.error.inj h
            exact ⟨[], x, rest, rfl, List.forall_mem_nil _, hx⟩
          · rintro ⟨before, y, after, hxs, hbefore, hy⟩
            cases before with
            | nil =>
                obtain ⟨rfl, rfl⟩ := List.cons.inj hxs
                exact hx.symm.trans hy
            | cons z before =>
                obtain ⟨rfl, rfl⟩ := List.cons.inj hxs
                rcases hbefore x List.mem_cons_self with ⟨list, hlist⟩
                rw [hx] at hlist
                cases hlist
      | ok list =>
          have hrest : (do return list ++ (← joinParts (rest.map f))) = .error fault ↔
              joinParts (rest.map f) = .error fault := by
            cases joinParts (rest.map f) with
            | error cause => exact Iff.rfl
            | ok later => exact iff_of_false nofun nofun
          rw [List.map_cons, joinParts, hx]
          refine (hrest.trans ih).trans ⟨?_, ?_⟩
          · rintro ⟨before, y, after, rfl, hbefore, hy⟩
            exact ⟨x :: before, y, after, rfl,
              List.forall_mem_cons.mpr ⟨⟨list, hx⟩, hbefore⟩, hy⟩
          · rintro ⟨before, y, after, hxs, hbefore, hy⟩
            cases before with
            | nil =>
                obtain ⟨rfl, rfl⟩ := List.cons.inj hxs
                rw [hx] at hy
                cases hy
            | cons z before =>
                obtain ⟨rfl, rfl⟩ := List.cons.inj hxs
                exact ⟨before, y, after, rfl, (List.forall_mem_cons.mp hbefore).2, hy⟩

end Parts

variable {s : Scanner}

/-! ## Below a directory -/

/-- A path is one that a name makes of a directory that can be come to, it leads to no directory,
    and the name is that of a source file. -/
def Below (s : Scanner) (dir q : Path) : Prop :=
  ∃ d name, s.files.Within dir d ∧ s.files.Lists d name ∧ q = d.join name ∧
    s.files.isDirectory q = false ∧ isSource s.extensions name = true

/-- The files that a path under a name stands for. -/
def StandsFor (s : Scanner) (path : Path) (name : RawText) (q : Path) : Prop :=
  (q = path ∧ s.files.isDirectory path = false ∧ isSource s.extensions name = true) ∨
    s.Below path q

/-- What is below a directory is what its entries stand for. -/
theorem below_iff {dir q : Path} :
    s.Below dir q ↔ ∃ name, s.files.Lists dir name ∧ s.StandsFor (dir.join name) name q := by
  constructor
  · rintro ⟨d, name, hwithin, hlists, hq, hfile, hsource⟩
    rcases Relation.ReflTransGen.cases_head hwithin with rfl | ⟨_, ⟨first, hfirst, rfl⟩, hrest⟩
    · exact ⟨name, hlists, Or.inl ⟨hq, hq ▸ hfile, hsource⟩⟩
    · exact ⟨first, hfirst, Or.inr ⟨d, name, hrest, hlists, hq, hfile, hsource⟩⟩
  · rintro ⟨name, hlists, ⟨rfl, hfile, hsource⟩ | ⟨d, last, hwithin, hlast, hq, hfile, hsource⟩⟩
    · exact ⟨dir, name, .refl, hlists, rfl, hfile, hsource⟩
    · exact ⟨d, last, .head ⟨name, hlists, rfl⟩ hwithin, hlast, hq, hfile, hsource⟩

/-- Nothing is below what is no directory. -/
theorem not_below {path q : Path} (h : s.files.isDirectory path = false) : ¬ s.Below path q := by
  rw [below_iff]
  rintro ⟨name, hlists, _⟩
  rw [hlists.isDirectory] at h
  cases h

/-- A directory stands for what is below it, and never for itself. -/
theorem standsFor_iff_below {path q : Path} {name : RawText}
    (h : s.files.isDirectory path = true) : s.StandsFor path name q ↔ s.Below path q := by
  refine or_iff_right ?_
  rintro ⟨_, hfile, _⟩
  rw [h] at hfile
  cases hfile

/-- What a path stands for has its steps in front. -/
theorem StandsFor.starts_with (hproper : s.files.Proper) {path q : Path} {name : RawText}
    (h : s.StandsFor path name q) : path.components <+: q.components := by
  rcases h with ⟨rfl, _, _⟩ | ⟨d, last, hwithin, hlists, rfl, _, _⟩
  · exact List.prefix_rfl
  · rw [d.components_join (hproper.isEntryName hlists)]
    exact (hproper.prefix_of_within hwithin).trans (List.prefix_append _ _)

/-! ## What a walk finds -/

/-- A list has the files that a path under a name stands for, in the order of paths. -/
structure Gathers (s : Scanner) (path : Path) (name : RawText) (files : List Path) : Prop where
  mem_iff : ∀ q, q ∈ files ↔ s.StandsFor path name q
  ordered : files.Pairwise Path.Precedes

/-- How a walk from a path ends: with the files that the path stands for, if all directories can be
    listed, and else with the fault of the first one that cannot. -/
def Finds (s : Scanner) (path : Path) (name : RawText) : Except Fault (List Path) → Prop
  | .ok files => s.Gathers path name files ∧
      ∀ d cause, s.files.Within path d → ¬ s.files.Refuses d cause
  | .error fault => ∃ d cause, s.files.FirstRefusal path d cause ∧ fault = .unlistable cause

theorem mem_inOrder {α : Type} {entries : List (RawText × α)} {e : RawText × α} :
    e ∈ inOrder entries ↔ e ∈ entries :=
  List.mem_mergeSort

/-- The entries of a list whose names are all different are put into their strict order. -/
theorem pairwise_inOrder {α : Type} {entries : List (RawText × α)}
    (h : (entries.map Prod.fst).Nodup) :
    (inOrder entries).Pairwise fun a b => a.1.bytes < b.1.bytes := by
  have hle : (inOrder entries).Pairwise fun a b => a.1.bytes ≤ b.1.bytes := by
    refine (List.pairwise_mergeSort (fun a b c hab hbc => ?_) (fun a b => ?_) entries).imp
      of_decide_eq_true
    · exact decide_eq_true (List.le_trans (of_decide_eq_true hab) (of_decide_eq_true hbc))
    · rw [Bool.or_eq_true, decide_eq_true_iff, decide_eq_true_iff]
      exact List.le_total a.1.bytes b.1.bytes
  have hne : (inOrder entries).Pairwise fun a b => a.1 ≠ b.1 :=
    List.pairwise_map.mp (((List.mergeSort_perm entries _).map Prod.fst).nodup_iff.mpr h)
  refine (hle.and hne).imp fun ⟨hab, hdiffer⟩ => ?_
  exact List.not_le.mp fun hba => hdiffer (RawText.ext (List.le_antisymm hab hba))

/-- What is no directory stands for itself, if it is called like a source file. -/
theorem gathers_leaf {path : Path} (h : s.files.isDirectory path = false) (name : RawText) :
    s.Gathers path name (s.ownName name path) := by
  unfold ownName
  constructor
  · intro q
    rw [StandsFor, or_iff_left (not_below h), and_iff_right h]
    split
    · rw [List.mem_singleton, and_iff_left ‹_›]
    · exact iff_of_false List.not_mem_nil fun hboth => ‹¬ _› hboth.2
  · split
    · exact List.pairwise_singleton _ _
    · exact List.Pairwise.nil

theorem finds_leaf {path : Path} (h : s.files.isDirectory path = false) (name : RawText) :
    s.Finds path name (.ok (s.ownName name path)) := by
  refine ⟨gathers_leaf h name, fun d cause hwithin hrefuses => ?_⟩
  obtain rfl := FileSystem.within_eq_of_not_isDirectory h hwithin
  rw [hrefuses.isDirectory] at h
  cases h

section Round

variable {path : Path} {names : List RawText} {links : Nat} {access : Access}
  {entries : List (RawText × Entry)} {parts : RawText × Entry → List Path}

/-- A directory stands for what its entries stand for, one after the other in the order of their
    names. -/
theorem gathers_directory (hproper : s.files.Proper)
    (hpath : s.files.lookUp path = .ok ⟨names, .directory access entries, links⟩)
    (hparts : ∀ e ∈ entries, s.Gathers (path.join e.1) e.1 (parts e)) (name : RawText) :
    s.Gathers path name ((inOrder entries).flatMap parts) := by
  constructor
  · intro q
    have hdirectory : s.files.isDirectory path = true := by
      rw [FileSystem.isDirectory, hpath]
      rfl
    rw [standsFor_iff_below hdirectory, below_iff, List.mem_flatMap]
    simp only [FileSystem.lists_iff_of_lookUp hpath, Entry.entries, mem_inOrder]
    constructor
    · rintro ⟨e, he, hq⟩
      exact ⟨e.1, List.mem_map_of_mem he, ((hparts e he).mem_iff q).mp hq⟩
    · rintro ⟨n, hn, hq⟩
      rcases List.mem_map.mp hn with ⟨e, he, rfl⟩
      exact ⟨e, he, ((hparts e he).mem_iff q).mpr hq⟩
  · have hentry : (Entry.directory access entries).Proper := hproper.entry hpath
    have hfront : ∀ e ∈ entries, ∀ p ∈ parts e,
        path.components ++ [.name e.1.bytes] <+: p.components := by
      intro e he p hp
      rw [← path.components_join (hentry.isEntryName (List.mem_map_of_mem he))]
      exact (((hparts e he).mem_iff p).mp hp).starts_with hproper
    refine List.pairwise_flatMap.mpr ⟨fun e he => (hparts e (mem_inOrder.mp he)).ordered, ?_⟩
    -- Files of two entries part at the names of these.
    refine (pairwise_inOrder hentry.nodup).imp_of_mem fun {e f} he hf hef p hp q hq => ?_
    exact Path.precedes_of_names (hfront e (mem_inOrder.mp he) p hp)
      (hfront f (mem_inOrder.mp hf) q hq) hef

/-- A directory that can be come to from a directory is this one, or can be come to from one of its
    entries. -/
theorem within_directory_iff
    (hpath : s.files.lookUp path = .ok ⟨names, .directory access entries, links⟩) {d : Path} :
    s.files.Within path d ↔ d = path ∨ ∃ e ∈ entries, s.files.Within (path.join e.1) d := by
  rw [FileSystem.Within, Relation.ReflTransGen.cases_head_iff, eq_comm]
  refine or_congr_right ⟨?_, ?_⟩
  · rintro ⟨_, ⟨name, hlists, rfl⟩, hrest⟩
    rcases List.mem_map.mp ((FileSystem.lists_iff_of_lookUp hpath).mp hlists) with ⟨e, he, rfl⟩
    exact ⟨e, he, hrest⟩
  · rintro ⟨e, he, hrest⟩
    have hlists := (FileSystem.lists_iff_of_lookUp hpath).mpr (List.mem_map_of_mem he)
    exact ⟨_, ⟨e.1, hlists, rfl⟩, hrest⟩

/-- What stands in the way below one entry comes before all that stands in the way below an entry of
    a greater name. -/
theorem precedes_of_entries (hproper : s.files.Proper)
    (hpath : s.files.lookUp path = .ok ⟨names, .directory access entries, links⟩)
    {e f : RawText × Entry} (he : e ∈ entries) (hf : f ∈ entries) (hef : e.1.bytes < f.1.bytes)
    {d d' : Path} (hd : s.files.Within (path.join e.1) d)
    (hd' : s.files.Within (path.join f.1) d') : d.Precedes d' := by
  have hname : ∀ g ∈ entries, IsEntryName g.1 := fun g hg =>
    (hproper.entry hpath).isEntryName (List.mem_map_of_mem hg)
  have hfront := hproper.prefix_of_within hd
  have hbehind := hproper.prefix_of_within hd'
  rw [path.components_join (hname e he)] at hfront
  rw [path.components_join (hname f hf)] at hbehind
  exact Path.precedes_of_names hfront hbehind hef

/-- One round of a walk: a directory that can be listed is gone through entry by entry, as far as
    the first fault. -/
theorem finds_directory (hproper : s.files.Proper)
    (hpath : s.files.lookUp path = .ok ⟨names, .directory access entries, links⟩)
    (hlisted : access.refusal = none) {parts : RawText × Entry → Except Fault (List Path)}
    (hparts : ∀ e ∈ entries, s.Finds (path.join e.1) e.1 (parts e)) (name : RawText) :
    s.Finds path name (joinParts ((inOrder entries).map parts)) := by
  have hhere : ∀ cause, ¬ s.files.Refuses path cause := by
    rintro cause ⟨place, hplace, hcause⟩
    obtain rfl := Except.ok.inj (hpath.symm.trans hplace)
    rw [Entry.refusal, hlisted] at hcause
    cases hcause
  cases hjoined : joinParts ((inOrder entries).map parts) with
  | ok files =>
      rcases joinParts_map_eq_ok_iff.mp hjoined with ⟨found, hfound, rfl⟩
      have hsplit : ∀ e ∈ entries, s.Finds (path.join e.1) e.1 (.ok (found e)) := fun e he =>
        hfound e (mem_inOrder.mpr he) ▸ hparts e he
      refine ⟨gathers_directory hproper hpath (fun e he => (hsplit e he).1) name, ?_⟩
      intro d cause hwithin
      rcases (within_directory_iff hpath).mp hwithin with rfl | ⟨e, he, hbelow⟩
      · exact hhere cause
      · exact (hsplit e he).2 d cause hbelow
  | error fault =>
      rcases joinParts_map_eq_error_iff.mp hjoined with ⟨front, e, behind, hsorted, hfront, he⟩
      have hmem : ∀ f, f ∈ entries ↔ f ∈ front ∨ f = e ∨ f ∈ behind := by
        intro f
        rw [← mem_inOrder, hsorted, List.mem_append, List.mem_cons]
      have hemem : e ∈ entries := (hmem e).mpr (Or.inr (Or.inl rfl))
      obtain ⟨d, cause, hfirst, hfault⟩ : s.Finds (path.join e.1) e.1 (.error fault) :=
        he ▸ hparts e hemem
      refine ⟨d, cause, ⟨(within_directory_iff hpath).mpr (Or.inr ⟨e, hemem, hfirst.within⟩),
        hfirst.refuses, fun d' cause' hwithin hrefuses => ?_⟩, hfault⟩
      rcases (within_directory_iff hpath).mp hwithin with rfl | ⟨f, hf, hbelow⟩
      · exact absurd hrefuses (hhere cause')
      rcases (hmem f).mp hf with hbefore | rfl | hbehind
      · -- What comes before the entry has been gone through without a fault.
        rcases hfront f hbefore with ⟨list, hlist⟩
        have hclear : s.Finds (path.join f.1) f.1 (.ok list) := hlist ▸ hparts f hf
        exact absurd hrefuses (hclear.2 d' cause' hbelow)
      · exact hfirst.first d' cause' hbelow hrefuses
      · -- What comes behind it has a greater name.
        have hsort := hsorted ▸ pairwise_inOrder (hproper.entry hpath).nodup
        have hef := (List.pairwise_cons.mp (List.pairwise_append.mp hsort).2.1).1 f hbehind
        exact Or.inr (precedes_of_entries hproper hpath hemem hf hef hfirst.within hbelow)

end Round

theorem collectEntry_directory (s : Scanner) (links : Nat) (names : List RawText) (name : RawText)
    (path : Path) (access : Access) (entries : List (RawText × Entry)) :
    s.collectEntry links names name path (.directory access entries)
      = match access.refusal with
        | some cause => .error (.unlistable cause)
        | none => joinParts <| (inOrder entries).map fun e =>
          if access.search.isSome then .ok (s.ownName e.1 (path.join e.1))
          else s.collectEntry links (names ++ [e.1]) e.1 (path.join e.1) e.2 := by
  rw [collectEntry]
  cases access.refusal with
  | some cause => rfl
  | none =>
      have hvalues : (inOrder entries).attach.map Subtype.val = inOrder entries :=
        List.attach_map_subtype_val _
      conv_rhs => rw [← hvalues]
      rw [List.map_map]
      rfl

/-- A link stands for what is at its end, and for itself where it has none. -/
theorem collectEntry_link (s : Scanner) (links : Nat) (names : List RawText) (name : RawText)
    (path target : Path) :
    s.collectEntry links names name path (.link target)
      = match s.files.enter links names (.link target) with
        | .ok place => s.collectEntry place.links place.names name path place.entry
        | .error _ => .ok (s.ownName name path) := by
  cases links with
  | zero => exact collectEntry.eq_4 _ _ _ _ _ _ (by rintro _ _ _ ⟨⟩)
  | succ links =>
      cases hpieces : FileSystem.piecesFrom names.dropLast target with
      | none =>
          simp only [FileSystem.enter, hpieces]
          exact collectEntry.eq_4 _ _ _ _ _ _ fun _ _ _ _ hsome => by
            rw [hpieces] at hsome
            cases hsome
      | some start =>
          simp only [FileSystem.enter, hpieces]
          rw [collectEntry.eq_3 _ _ _ _ _ _ _ _ hpieces]
          cases s.files.follow links start.1 start.2 with
          | ok place => rfl
          | error cause => rfl

/-- A walk that starts with what a path leads to ends as it should. -/
theorem finds_collectEntry (hproper : s.files.Proper) {links : Nat} {names : List RawText}
    {name : RawText} {path : Path} {e : Entry}
    (hpath : s.files.lookUp path = s.files.enter links names e) :
    s.Finds path name (s.collectEntry links names name path e) := by
  induction links, names, name, path, e using collectEntry.induct s with
  | case1 links names name path content =>
      rw [collectEntry]
      exact finds_leaf (by rw [FileSystem.isDirectory, hpath]; rfl) name
  | case2 links names name path access entries cause hrefusal =>
      rw [collectEntry_directory]
      simp only [hrefusal]
      refine ⟨path, cause, ⟨.refl, ⟨_, hpath, hrefusal⟩, fun d cause' hwithin _ => ?_⟩, rfl⟩
      -- All that can be come to from here has more steps than the path.
      rcases (within_directory_iff hpath).mp hwithin with rfl | ⟨child, hchild, hbelow⟩
      · exact Or.inl rfl
      · have hname := hproper.isEntryName ⟨_, hpath, List.mem_map_of_mem hchild⟩
        have hfront := hproper.prefix_of_within hbelow
        rw [path.components_join hname] at hfront
        exact Or.inr (Path.precedes_of_longer hfront)
  | case3 links names name path access entries hrefusal ih =>
      rw [collectEntry_directory]
      simp only [hrefusal]
      refine finds_directory hproper hpath hrefusal (fun child hchild => ?_) name
      have hname := hproper.isEntryName ⟨_, hpath, List.mem_map_of_mem hchild⟩
      cases hsearch : access.search with
      | some cause =>
          have hhindrance : (Entry.directory access entries).hindrance child.1.bytes = some cause :=
            (if_neg hname.piece_ne.1).trans hsearch
          refine finds_leaf ?_ child.1
          rw [FileSystem.isDirectory, FileSystem.lookUp_join_of_hindrance hpath hname hhindrance]
      | none =>
          have hfree : (Entry.directory access entries).hindrance child.1.bytes = none :=
            (if_neg hname.piece_ne.1).trans hsearch
          refine ih child.1 child.2 (mem_inOrder.mpr hchild) ?_
          exact FileSystem.lookUp_join hpath hname hfree
            ((hproper.entry hpath).child?_eq_some_iff.mpr hchild)
  | case4 names name path target links start pieces hpieces place hplace ih =>
      have henter : s.files.enter (links + 1) names (.link target) = .ok place := by
        simp only [FileSystem.enter, hpieces, hplace]
      have hend := FileSystem.not_link_of_follow hplace
        ((FileSystem.start_of_piecesFrom hpieces).2 ▸ splitSlashes_ne_nil _)
      rw [collectEntry_link, henter]
      exact ih (hpath.trans (henter.trans (FileSystem.enter_of_not_link hend).symm))
  | case5 names name path target links start pieces hpieces cause hnowhere =>
      have henter : s.files.enter (links + 1) names (.link target) = .error cause := by
        simp only [FileSystem.enter, hpieces, hnowhere]
      rw [collectEntry_link, henter]
      exact finds_leaf (by rw [FileSystem.isDirectory, hpath, henter]) name
  | case6 links names name path target hnone =>
      obtain ⟨cause, henter⟩ :
          ∃ cause, s.files.enter links names (.link target) = .error cause := by
        cases links with
        | zero => exact ⟨_, rfl⟩
        | succ links =>
            cases hpieces : FileSystem.piecesFrom names.dropLast target with
            | none => exact ⟨.notFound, by simp only [FileSystem.enter, hpieces]⟩
            | some start => exact absurd hpieces (hnone links start.1 start.2 rfl)
      rw [collectEntry_link, henter]
      exact finds_leaf (by rw [FileSystem.isDirectory, hpath, henter]) name

/-! ## What paths stand for -/

/-- A list has the source files below a directory: each path that names make of the directory, that
    leads to no directory and that ends in the name of a source file, once and in order. -/
structure Collected (s : Scanner) (dir : Path) (files : List Path) : Prop where
  mem_iff : ∀ q, q ∈ files ↔ ∃ d name, s.files.Within dir d ∧ s.files.Lists d name ∧
    q = d.join name ∧ s.files.isDirectory q = false ∧ HasExtension s.extensions name
  once : files.Nodup
  ordered : files.Pairwise Path.Precedes

/-- There is one such list. -/
theorem Collected.eq {dir : Path} {files others : List Path} (h : s.Collected dir files)
    (hothers : s.Collected dir others) : files = others := by
  have hperm : files.Perm others := (List.perm_ext_iff_of_nodup h.once hothers.once).mpr fun q =>
    (h.mem_iff q).trans (hothers.mem_iff q).symm
  exact hperm.eq_of_pairwise (fun _ _ _ _ hpq hqp => absurd hqp hpq.asymm) h.ordered hothers.ordered

/-- The order in which entries are listed does not matter to it. -/
theorem Collected.relisted (hproper : s.files.Proper) {other : FileSystem}
    (hother : s.files.Relisted other) {dir : Path} {files : List Path}
    (h : Collected { s with files := other } dir files) : s.Collected dir files := by
  refine ⟨fun q => (h.mem_iff q).trans ?_, h.once, h.ordered⟩
  simp only [hother.within_iff hproper, hother.lists_iff hproper, hother.isDirectory_eq hproper]

theorem standsFor_directory_iff (hproper : s.files.Proper) {dir q : Path} {name : RawText}
    (hdir : s.files.isDirectory dir = true) :
    s.StandsFor dir name q ↔ ∃ d name, s.files.Within dir d ∧ s.files.Lists d name ∧
      q = d.join name ∧ s.files.isDirectory q = false ∧ HasExtension s.extensions name := by
  rw [standsFor_iff_below hdir]
  refine exists_congr fun d => exists_congr fun last => ?_
  refine and_congr_right fun _ => and_congr_right fun hlists => ?_
  rw [isSource_iff (hproper.isEntryName hlists).2.2.2]

/-- A path that leads to a file stands for itself, whatever it is called. -/
theorem collectPath_file {path : Path} (hexists : s.files.Exists path)
    (hfile : s.files.isDirectory path = false) : s.collectPath path = .ok [path] := by
  rcases hexists with ⟨place, hplace⟩
  rw [FileSystem.isDirectory, hplace] at hfile
  rw [collectPath, hplace]
  simp only at hfile ⊢
  rw [hfile]
  rfl

/-- A directory is gone through as it should be. -/
theorem finds_collectPath (hproper : s.files.Proper) {dir : Path}
    (hdir : s.files.isDirectory dir = true) : s.Finds dir dir.text (s.collectPath dir) := by
  cases hplace : s.files.lookUp dir with
  | error cause =>
      rw [FileSystem.isDirectory, hplace] at hdir
      cases hdir
  | ok place =>
      have hdirectory : place.entry.isDirectory = true := by
        rwa [FileSystem.isDirectory, hplace] at hdir
      have hnolink : ∀ target, place.entry ≠ .link target := by
        intro target hlink
        rw [hlink] at hdirectory
        cases hdirectory
      rw [collectPath, hplace]
      simp only [hdirectory, if_true]
      exact finds_collectEntry hproper
        (hplace.trans (FileSystem.enter_of_not_link hnolink).symm)

theorem accessible_of_collectPath (hproper : s.files.Proper) {path : Path} {files : List Path}
    (h : s.collectPath path = .ok files) : s.files.Accessible path := by
  have hexists : s.files.Exists path := by
    cases hplace : s.files.lookUp path with
    | ok place => exact ⟨place, hplace⟩
    | error cause => rw [collectPath, hplace] at h; cases h
  cases hdir : s.files.isDirectory path with
  | false => exact FileSystem.accessible_of_not_isDirectory hexists hdir
  | true =>
      have hfinds := finds_collectPath hproper hdir
      rw [h] at hfinds
      exact ⟨hexists, hfinds.2⟩

theorem obstacle_of_collectPath (hproper : s.files.Proper) {path : Path} {fault : Fault}
    (h : s.collectPath path = .error fault) : s.files.Obstacle path fault := by
  cases hdir : s.files.isDirectory path with
  | true =>
      have hfinds := finds_collectPath hproper hdir
      rw [h] at hfinds
      exact Or.inr hfinds
  | false =>
      by_cases hexists : s.files.Exists path
      · rw [collectPath_file hexists hdir] at h
        cases h
      · refine Or.inl ⟨hexists, ?_⟩
        cases hplace : s.files.lookUp path with
        | ok place => exact absurd ⟨place, hplace⟩ hexists
        | error cause =>
            rw [collectPath, hplace] at h
            exact (Except.error.inj h).symm

/-- A path fails by what is in its way. -/
theorem collectPath_eq_error_iff (hproper : s.files.Proper) {path : Path} {fault : Fault} :
    s.collectPath path = .error fault ↔ s.files.Obstacle path fault := by
  refine ⟨obstacle_of_collectPath hproper, fun hobstacle => ?_⟩
  cases hresult : s.collectPath path with
  | ok files => exact absurd (accessible_of_collectPath hproper hresult) hobstacle.not_accessible
  | error other =>
      rw [(obstacle_of_collectPath hproper hresult).unique hobstacle]

theorem exists_collectPath_iff (hproper : s.files.Proper) {path : Path} :
    (∃ files, s.collectPath path = .ok files) ↔ s.files.Accessible path := by
  refine ⟨fun ⟨_, hfiles⟩ => accessible_of_collectPath hproper hfiles, fun haccessible => ?_⟩
  cases hresult : s.collectPath path with
  | ok files => exact ⟨files, rfl⟩
  | error fault =>
      exact absurd haccessible (obstacle_of_collectPath hproper hresult).not_accessible

/-- A directory stands for the source files below it. -/
theorem collected_directory (hproper : s.files.Proper) {dir : Path}
    (hdir : s.files.isDirectory dir = true) (haccessible : s.files.Accessible dir) :
    ∃ files, s.collectPath dir = .ok files ∧ s.Collected dir files := by
  rcases (exists_collectPath_iff hproper).mpr haccessible with ⟨files, hfiles⟩
  have hfinds := finds_collectPath hproper hdir
  rw [hfiles] at hfinds
  refine ⟨files, hfiles, fun q => (hfinds.1.mem_iff q).trans (standsFor_directory_iff hproper hdir),
    hfinds.1.ordered.imp ?_, hfinds.1.ordered⟩
  rintro p q hpq rfl
  exact Path.not_precedes_self p hpq

/-- A path stands for the same files however entries are listed, and fails by the same fault. -/
theorem collectPath_relisted (hproper : s.files.Proper) {other : FileSystem}
    (hother : s.files.Relisted other) (path : Path) :
    collectPath { s with files := other } path = s.collectPath path := by
  have hproper' := hother.proper hproper
  cases hresult : s.collectPath path with
  | error fault =>
      have hobstacle := obstacle_of_collectPath hproper hresult
      exact (collectPath_eq_error_iff hproper').mpr (hother.obstacle hproper hobstacle)
  | ok files =>
      have haccessible := accessible_of_collectPath hproper hresult
      have haccessible' := hother.accessible hproper haccessible
      cases hdir : s.files.isDirectory path with
      | false =>
          have hdir' := (hother.isDirectory_eq hproper path).trans hdir
          rw [← hresult, collectPath_file haccessible.1 hdir]
          exact collectPath_file haccessible'.1 hdir'
      | true =>
          have hdir' := (hother.isDirectory_eq hproper path).trans hdir
          rcases collected_directory hproper hdir haccessible with ⟨_, hfiles, hcollected⟩
          rcases collected_directory (s := { s with files := other }) hproper' hdir' haccessible'
            with ⟨others, hothers, hsame⟩
          rw [hothers, ← hcollected.eq (hsame.relisted hproper hother), ← hfiles, hresult]

theorem collectFiles_singleton (s : Scanner) (path : Path) :
    s.collectFiles [path] = s.collectPath path := by
  rw [collectFiles, List.map_singleton, joinParts]
  cases s.collectPath path with
  | error fault => rfl
  | ok files => exact congrArg Except.ok (List.append_nil files)

/-- The files of several paths are those of each, one after the other. -/
theorem collectFiles_eq_ok_iff {paths files : List Path} :
    s.collectFiles paths = .ok files ↔
      ∃ parts, List.Forall₂ (fun path part => s.collectFiles [path] = .ok part) paths parts ∧
        files = parts.flatten := by
  simp only [collectFiles_singleton]
  constructor
  · intro h
    rcases joinParts_map_eq_ok_iff.mp h with ⟨found, hfound, rfl⟩
    exact ⟨paths.map found, List.forall₂_map_right_iff.mpr (List.forall₂_same.mpr hfound), rfl⟩
  · rintro ⟨parts, hparts, rfl⟩
    induction hparts with
    | nil => rfl
    | cons hpart _ ih => exact joinParts_cons_ok.mpr ⟨_, _, hpart, ih, List.flatten_cons⟩

theorem exists_collectFiles_iff (hproper : s.files.Proper) {paths : List Path} :
    (∃ files, s.collectFiles paths = .ok files) ↔ ∀ p ∈ paths, s.files.Accessible p := by
  simp only [collectFiles, joinParts_map_eq_ok_iff]
  constructor
  · rintro ⟨_, found, hfound, _⟩ p hp
    exact accessible_of_collectPath hproper (hfound p hp)
  · intro hall
    choose! found hfound using fun p hp => (exists_collectPath_iff hproper).mpr (hall p hp)
    exact ⟨_, found, hfound, rfl⟩

/-- Several paths fail by what is in the way of the first that anything is in the way of. -/
theorem collectFiles_eq_error_iff (hproper : s.files.Proper) {paths : List Path} {fault : Fault} :
    s.collectFiles paths = .error fault ↔
      ∃ before path after, paths = before ++ path :: after ∧
        (∀ p ∈ before, s.files.Accessible p) ∧ s.files.Obstacle path fault := by
  simp only [collectFiles, joinParts_map_eq_error_iff, exists_collectPath_iff hproper,
    collectPath_eq_error_iff hproper]

end Scanner

/-- Collecting the files of a directory gives the source files below it, once and in order, if all
    directories on the way can be listed. However the file system lists the entries, the files are
    the same, and so is the fault if there is one. A path that leads to a file stands for itself. Of
    several paths the files come one after the other. What is in the way of that is a path that
    leads nowhere, which is named, or a directory that cannot be listed, of which the cause is told:
    the first of the paths that has one counts, and in it the first directory. -/
theorem Scanner.collectFiles_complete (s : Scanner) (hproper : s.files.Proper) :
    (∀ dir, s.files.isDirectory dir = true → s.files.Accessible dir →
      ∃ files, s.collectFiles [dir] = .ok files ∧ s.Collected dir files) ∧
    (∀ path other, s.files.Relisted other →
      collectFiles { s with files := other } [path] = s.collectFiles [path]) ∧
    (∀ path, s.files.Exists path → s.files.isDirectory path = false →
      s.collectFiles [path] = .ok [path]) ∧
    (∀ paths files, s.collectFiles paths = .ok files ↔
      ∃ parts, List.Forall₂ (fun path part => s.collectFiles [path] = .ok part) paths parts ∧
        files = parts.flatten) ∧
    (∀ paths, (∃ fault, s.collectFiles paths = .error fault) ↔
      ∃ p ∈ paths, ¬ s.files.Accessible p) ∧
    ∀ paths fault, s.collectFiles paths = .error fault ↔
      ∃ before path after, paths = before ++ path :: after ∧
        (∀ p ∈ before, s.files.Accessible p) ∧ s.files.Obstacle path fault := by
  simp only [collectFiles_singleton]
  refine ⟨fun dir => collected_directory hproper, fun path other hother =>
    collectPath_relisted hproper hother path, fun path => collectPath_file, fun paths files => ?_,
    fun paths => ?_, fun paths fault => collectFiles_eq_error_iff hproper⟩
  · rw [collectFiles_eq_ok_iff]
    simp only [collectFiles_singleton]
  · rw [← not_iff_not]
    simp only [not_exists, not_and, not_not]
    rw [← exists_collectFiles_iff hproper]
    cases s.collectFiles paths with
    | error fault => exact iff_of_false (fun hnone => hnone fault rfl) (by rintro ⟨_, ⟨⟩⟩)
    | ok files => exact iff_of_true (by rintro _ ⟨⟩) ⟨files, rfl⟩

/-- Entries that are not listed in order. As a text the name of a file comes before all that is in
    the directory beside it, another directory is called like a source file, and one name is nothing
    but an extension. -/
def unsortedEntries : List (RawText × Entry) :=
  [("x.cpp", .directory .full [("y.H", .file (.ok ""))]), ("z.h", .link ⟨"a-b.cpp"⟩),
    ("a-b.cpp", .file (.ok "")), (".cpp", .file (.ok "")),
    ("a", .directory .full [("x.cpp", .file (.ok ""))])]

/-- A file system with one directory, and a scanner for it. -/
def unsorted : Scanner :=
  ⟨⟨.full, [("src", .directory .full unsortedEntries)], []⟩, fun _ => default, ["cpp", "h"]⟩

theorem unsorted_proper : unsorted.files.Proper := by
  have hsingle : ∀ name, IsEntryName name →
      (Entry.directory .full [(name, .file (.ok ""))]).Proper := by
    intro name hname
    refine .directory (List.nodup_singleton name) ?_ ?_
    · exact List.forall_mem_singleton.mpr hname
    · exact List.forall_mem_singleton.mpr (.file (.ok ""))
  refine .directory (List.nodup_singleton _) (List.forall_mem_singleton.mpr (by decide))
    (List.forall_mem_singleton.mpr (.directory (by decide) (by decide) ?_))
  simp only [unsortedEntries, List.forall_mem_cons, List.not_mem_nil, false_implies,
    implies_true, and_true]
  exact ⟨hsingle "y.H" (by decide), .link _, .file _, .file _, hsingle "x.cpp" (by decide)⟩

theorem collectPath_unsorted :
    unsorted.collectPath ⟨"src"⟩
      = .ok [⟨"src/a/x.cpp"⟩, ⟨"src/a-b.cpp"⟩, ⟨"src/x.cpp/y.H"⟩, ⟨"src/z.h"⟩] := by
  have hplace : unsorted.files.lookUp ⟨"src"⟩
      = .ok ⟨["src"], .directory .full unsortedEntries, FileSystem.linkLimit⟩ := by cbv
  have hlink : unsorted.files.enter FileSystem.linkLimit ["src", "z.h"] (.link ⟨"a-b.cpp"⟩)
      = .ok ⟨["src", "a-b.cpp"], .file (.ok ""), 39⟩ := by cbv
  have horder : Scanner.inOrder unsortedEntries =
      ([(".cpp", .file (.ok "")), ("a", .directory .full [("x.cpp", .file (.ok ""))]),
        ("a-b.cpp", .file (.ok "")), ("x.cpp", .directory .full [("y.H", .file (.ok ""))]),
        ("z.h", .link ⟨"a-b.cpp"⟩)] : List (RawText × Entry)) := by
    simp +decide [Scanner.inOrder, unsortedEntries, List.mergeSort,
      List.MergeSort.Internal.splitInTwo]
  have hsource : Scanner.isSource unsorted.extensions "x.cpp" = true ∧
      Scanner.isSource unsorted.extensions "y.H" = true ∧
      Scanner.isSource unsorted.extensions "z.h" = true ∧
      Scanner.isSource unsorted.extensions "a-b.cpp" = true ∧
      Scanner.isSource unsorted.extensions ".cpp" = false := by
    refine ⟨?_, ?_, ?_, ?_, ?_⟩ <;> cbv
  have hsingle : ∀ e : RawText × Entry, Scanner.inOrder [e] = [e] := fun e => by
    simp only [Scanner.inOrder, List.mergeSort_singleton]
  rw [Scanner.collectPath, hplace]
  simp only [Entry.isDirectory, if_true, Scanner.collectEntry_directory, horder, hsingle,
    List.map_cons, List.map_nil, Scanner.collectEntry, Scanner.collectEntry_link, hlink,
    Scanner.ownName, hsource, List.cons_append, List.nil_append]
  decide

/-- The directory stands for four files, in the order of their steps. -/
theorem Scanner.collectFiles_complete_unsorted :
    unsorted.files.Proper ∧ unsorted.files.Accessible ⟨"src"⟩ ∧
      unsorted.Collected ⟨"src"⟩
        [⟨"src/a/x.cpp"⟩, ⟨"src/a-b.cpp"⟩, ⟨"src/x.cpp/y.H"⟩, ⟨"src/z.h"⟩] := by
  have hdirectory : unsorted.files.isDirectory ⟨"src"⟩ = true := by cbv
  have haccessible := Scanner.accessible_of_collectPath unsorted_proper collectPath_unsorted
  rcases (Scanner.collectFiles_complete unsorted unsorted_proper).1 ⟨"src"⟩ hdirectory haccessible
    with ⟨files, hfiles, hcollected⟩
  rw [Scanner.collectFiles_singleton, collectPath_unsorted] at hfiles
  obtain rfl := Except.ok.inj hfiles
  exact ⟨unsorted_proper, haccessible, hcollected⟩

/-- A source file beside a directory with which nothing may be done. -/
def guarded : FileSystem :=
  ⟨.full, [("src", .directory .full [("a.cpp", .file (.ok "")), ("b", .directory .denied [])])], []⟩

/-- The name of the link that is so many links away from a file. -/
def linkName (distance : Nat) : RawText :=
  ⟨List.replicate distance 0x6C⟩

/-- A file, and behind it more links in a chain than one way may follow. -/
def chained : FileSystem :=
  ⟨.full, ("a.cpp", .file (.ok "")) :: (linkName 1, .link ⟨"a.cpp"⟩) ::
    (List.range' 1 FileSystem.linkLimit).map fun n => (linkName (n + 1), .link ⟨linkName n⟩), []⟩

theorem lookUp_guarded : guarded.lookUp ⟨"src"⟩ = .ok ⟨["src"], .directory .full
    [("a.cpp", .file (.ok "")), ("b", .directory .denied [])], FileSystem.linkLimit⟩ := by
  cbv

theorem collectPath_guarded (grammar : Grammar) (extensions : List String) :
    Scanner.collectPath ⟨guarded, grammar, extensions⟩ ⟨"src"⟩
      = .error (.unlistable .permissionDenied) := by
  have horder : Scanner.inOrder [("a.cpp", .file (.ok "")), ("b", .directory .denied [])]
      = ([("a.cpp", .file (.ok "")), ("b", .directory .denied [])] : List (RawText × Entry)) := by
    simp +decide [Scanner.inOrder, List.mergeSort, List.MergeSort.Internal.splitInTwo]
  rw [Scanner.collectPath, lookUp_guarded]
  simp only [Entry.isDirectory, if_true, Scanner.collectEntry_directory, horder, List.map_cons,
    List.map_nil, Scanner.collectEntry]
  rfl

theorem collectPath_chained (grammar : Grammar) (extensions : List String) :
    Scanner.collectPath ⟨chained, grammar, extensions⟩ ⟨linkName 41⟩
      = .error (.noSuchPath ⟨linkName 41⟩) := by
  have hnowhere : chained.lookUp ⟨linkName 41⟩ = .error .tooManyLinks := by cbv
  rw [Scanner.collectPath, hnowhere]

/-- There can be no files though something is there: where a directory below the path may not be
    listed, and where the path leads to a file by one link more than may be followed. -/
theorem Scanner.collectFiles_guarded :
    guarded.Exists ⟨"src"⟩ ∧
      collectFiles ⟨guarded, fun _ => default, ["cpp"]⟩ [⟨"src"⟩]
        = .error (.unlistable .permissionDenied) ∧
      chained.readText ⟨linkName 40⟩ = .ok "" ∧
      chained.root.child? (linkName 41) = some (.link ⟨linkName 40⟩) ∧
      collectFiles ⟨chained, fun _ => default, ["cpp"]⟩ [⟨linkName 41⟩]
        = .error (.noSuchPath ⟨linkName 41⟩) := by
  simp only [collectFiles_singleton]
  exact ⟨⟨_, lookUp_guarded⟩, collectPath_guarded _ _, by cbv, rfl, collectPath_chained _ _⟩

end CloneScan
