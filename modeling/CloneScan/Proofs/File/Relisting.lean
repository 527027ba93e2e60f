import CloneScan.Proofs.File.Directories

/-!
# The Order of Listings

A file system lists the entries of a directory in an order of its own, and it may list them in
another one the next time. Two file systems that differ in nothing else lead every path to the same
place. What stands there may differ again in how its entries are listed, so the claim that carries
the look-up is that the two things at the end are relisted as well (`FileSystem.Relisted.follow`).
It takes that every name is listed once: of two entries of one name the first would be found.

## Main definitions

* `Entry.Relisted`, `FileSystem.Relisted`: Alike up to the order of entries, however deep.

## Theorems

* `FileSystem.Relisted.lookUp`: Every path leads to the same place.
* `FileSystem.Relisted.lists_iff`, `FileSystem.Relisted.within_iff`,
  `FileSystem.Relisted.isDirectory_eq`: What can be asked of directories has the same answer.
-/

namespace CloneScan

/-- One entry is the other with its entries in another order, and those below it. -/
inductive Entry.Relisted : Entry → Entry → Prop where
  | file (content : Except ReadError String) : Relisted (.file content) (.file content)
  | link (target : Path) : Relisted (.link target) (.link target)
  | directory (access : Access) {entries others : List (RawText × Entry)}
      (names : (entries.map Prod.fst).Perm (others.map Prod.fst))
      (below : ∀ name e e', (name, e) ∈ entries → (name, e') ∈ others → Relisted e e') :
      Relisted (.directory access entries) (.directory access others)

namespace Entry.Relisted

variable {e e' : Entry}

theorem symm (h : Relisted e e') : Relisted e' e := by
  induction h with
  | file content => exact .file content
  | link target => exact .link target
  | directory access names _ ih =>
      exact .directory access names.symm fun name first second hfirst hsecond =>
        ih name second first hsecond hfirst

theorem isDirectory_eq (h : Relisted e e') : e'.isDirectory = e.isDirectory := by
  cases h with
  | file | link | directory => rfl

theorem hindrance_eq (h : Relisted e e') (piece : List UInt8) :
    e'.hindrance piece = e.hindrance piece := by
  cases h with
  | file | link | directory => rfl

theorem names_perm (h : Relisted e e') :
    (e.entries.map Prod.fst).Perm (e'.entries.map Prod.fst) := by
  cases h with
  | file | link => exact List.Perm.refl _
  | directory _ names _ => exact names

theorem proper (h : Relisted e e') (hproper : e.Proper) : e'.Proper := by
  induction h with
  | file | link => exact hproper
  | directory _ names _ ih =>
      cases hproper with
      | directory unique named hbelow =>
          refine .directory (names.nodup_iff.mp unique) (fun child hchild => ?_)
            fun child hchild => ?_
          · rcases List.mem_map.mp (names.mem_iff.mpr (List.mem_map_of_mem hchild)) with
              ⟨first, hfirst, hname⟩
            exact hname ▸ named first hfirst
          · rcases List.mem_map.mp (names.mem_iff.mpr (List.mem_map_of_mem hchild)) with
              ⟨first, hfirst, hname⟩
            exact ih child.1 first.2 child.2 (hname ▸ hfirst) hchild (hbelow first hfirst)

/-- A name stands for the same in both, up to the order of entries. -/
theorem child? (h : Relisted e e') (hproper : e.Proper) {name : RawText} {child : Entry}
    (hchild : e.child? name = some child) :
    ∃ child', e'.child? name = some child' ∧ Relisted child child' := by
  have hproper' := h.proper hproper
  have hmem := hproper.child?_eq_some_iff.mp hchild
  cases h with
  | file | link => cases hchild
  | @directory _ entries others names below =>
      have hname : name ∈ others.map Prod.fst :=
        names.mem_iff.mp (List.mem_map.mpr ⟨_, hmem, rfl⟩)
      rcases List.mem_map.mp hname with ⟨⟨_, child'⟩, hmem', rfl⟩
      exact ⟨child', hproper'.child?_eq_some_iff.mpr hmem', below _ child child' hmem hmem'⟩

theorem descend {names : List RawText} (h : Relisted e e') (hproper : e.Proper) {found : Entry}
    (hfound : e.descend names = some found) :
    ∃ found', e'.descend names = some found' ∧ Relisted found found' := by
  induction names generalizing e e' with
  | nil =>
      obtain rfl := Option.some.inj hfound
      exact ⟨e', rfl, h⟩
  | cons name rest ih =>
      rcases Option.bind_eq_some_iff.mp hfound with ⟨child, hchild, hrest⟩
      rcases h.child? hproper hchild with ⟨child', hchild', hrelisted⟩
      rcases ih hrelisted (hproper.child hchild) hrest with ⟨found', hfound', hlast⟩
      refine ⟨found', ?_, hlast⟩
      rw [Entry.descend, hchild', Option.bind_some, hfound']

end Entry.Relisted

namespace FileSystem

/-- Two file systems are alike up to the order in which they list entries. -/
structure Relisted (fs other : FileSystem) : Prop where
  workingDirectory : other.workingDirectory = fs.workingDirectory
  root : fs.root.Relisted other.root

namespace Relisted

variable {fs other : FileSystem} {links : Nat} {names : List RawText}
  {pieces : List (List UInt8)} {place : Place}

theorem symm (h : fs.Relisted other) : other.Relisted fs :=
  ⟨h.workingDirectory.symm, h.root.symm⟩

theorem proper (h : fs.Relisted other) (hproper : fs.Proper) : other.Proper :=
  h.root.proper hproper

theorem placeAt (h : fs.Relisted other) (hproper : fs.Proper)
    (hplace : fs.placeAt names links = .ok place) :
    ∃ e, other.placeAt names links = .ok { place with entry := e } ∧ place.entry.Relisted e := by
  rcases placeAt_eq_ok_iff.mp hplace with ⟨hnames, hlinks, hentry⟩
  rcases h.root.descend hproper hentry with ⟨e, he, hrelisted⟩
  exact ⟨e, placeAt_eq_ok_iff.mpr ⟨hnames, hlinks, he⟩, hrelisted⟩

/-- A look-up leads to the same place in both, with the same links left. -/
theorem follow (h : fs.Relisted other) (hproper : fs.Proper)
    (hfollow : fs.follow links names pieces = .ok place) :
    ∃ e, other.follow links names pieces = .ok { place with entry := e } ∧
      place.entry.Relisted e := by
  fun_induction FileSystem.follow fs links names pieces with
  | case1 links names =>
      rcases h.placeAt hproper hfollow with ⟨e, he, hrelisted⟩
      exact ⟨e, (FileSystem.follow.eq_1 other links names).trans he, hrelisted⟩
  | case4 links names piece rest here hhere hfree hidle ih =>
      rcases h.placeAt hproper hhere with ⟨e, he, hrelisted⟩
      rw [← hrelisted.hindrance_eq] at hfree
      rw [FileSystem.follow]
      simp only [he, hfree, if_pos hidle]
      exact ih hfollow
  | case5 links names rest here hhere hfree hstep ih =>
      rcases h.placeAt hproper hhere with ⟨e, he, hrelisted⟩
      rw [← hrelisted.hindrance_eq] at hfree
      rw [FileSystem.follow]
      simp only [he, hfree, if_neg hstep, if_true]
      exact ih hfollow
  | case9 names piece rest here hfree hstep hup target links hchild start pieces hpieces hhere
      ih =>
      rcases h.placeAt hproper hhere with ⟨e, he, hrelisted⟩
      have hhereproper := hproper.descend (placeAt_eq_ok_iff.mp hhere).2.2
      rcases hrelisted.child? hhereproper hchild with ⟨child', hchild', hsame⟩
      -- A link is the same in both, as it lists nothing.
      cases hsame
      rw [← hrelisted.hindrance_eq] at hfree
      rw [FileSystem.follow]
      simp only [he, hfree, if_neg hstep, if_neg hup, hchild', hpieces]
      exact ih hfollow
  | case10 names piece rest here hfree hstep hup child links hnolinks hnolink hchild hhere
      ih =>
      rcases h.placeAt hproper hhere with ⟨e, he, hrelisted⟩
      have hhereproper := hproper.descend (placeAt_eq_ok_iff.mp hhere).2.2
      rcases hrelisted.child? hhereproper hchild with ⟨child', hchild', hsame⟩
      rw [← hrelisted.hindrance_eq] at hfree
      cases hsame with
      | link target =>
          cases links with
          | zero => exact absurd rfl (hnolinks target rfl)
          | succ links => exact absurd rfl (hnolink target links rfl)
      | file | directory =>
          rw [FileSystem.follow]
          simp only [he, hfree, if_neg hstep, if_neg hup, hchild']
          exact ih hfollow
  -- In all other cases the look-up leads nowhere.
  | case2 | case3 | case6 | case7 | case8 =>
      exact absurd hfollow (by simp only [reduceCtorEq, not_false_eq_true])

/-- Every path leads to the same place in both. -/
theorem lookUp (h : fs.Relisted other) (hproper : fs.Proper) {path : Path}
    (hpath : fs.lookUp path = .ok place) :
    ∃ e, other.lookUp path = .ok { place with entry := e } ∧ place.entry.Relisted e := by
  have hne := text_ne_of_lookUp hpath
  rw [lookUp_eq_follow hne] at hpath ⊢
  rw [h.workingDirectory]
  exact h.follow hproper hpath

theorem isDirectory_eq (h : fs.Relisted other) (hproper : fs.Proper) (path : Path) :
    other.isDirectory path = fs.isDirectory path := by
  unfold isDirectory
  cases hpath : fs.lookUp path with
  | ok place =>
      rcases h.lookUp hproper hpath with ⟨e, he, hrelisted⟩
      rw [he]
      exact hrelisted.isDirectory_eq
  | error cause =>
      cases hother : other.lookUp path with
      | error _ => rfl
      | ok place =>
          -- Where the other leads somewhere, this one does.
          rcases h.symm.lookUp (h.proper hproper) hother with ⟨e, he, _⟩
          rw [hpath] at he
          cases he

theorem lists (h : fs.Relisted other) (hproper : fs.Proper) {d : Path} {name : RawText}
    (hlists : fs.Lists d name) : other.Lists d name := by
  rcases hlists with ⟨place, hplace, hname⟩
  rcases h.lookUp hproper hplace with ⟨e, he, hrelisted⟩
  exact ⟨_, he, hrelisted.names_perm.mem_iff.mp hname⟩

theorem lists_iff (h : fs.Relisted other) (hproper : fs.Proper) {d : Path} {name : RawText} :
    other.Lists d name ↔ fs.Lists d name :=
  ⟨h.symm.lists (h.proper hproper), h.lists hproper⟩

theorem within_iff (h : fs.Relisted other) (hproper : fs.Proper) {d below : Path} :
    other.Within d below ↔ fs.Within d below := by
  rw [Within, Within]
  simp only [h.lists_iff hproper]

end Relisted

end FileSystem

end CloneScan
