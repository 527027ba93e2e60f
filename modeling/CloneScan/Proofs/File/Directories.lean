import CloneScan.Proofs.File.SamePath
import Mathlib.Logic.Relation

/-!
# Going Down Directories

A path with the name of an entry at its end leads to that entry, if the path leads to a directory.
That is what a walk through directories relies on, which never looks up a path that it has made. It
holds because a look-up can be cut anywhere: what stands behind the cut is looked up from the place
where the front led, with the links that were left there (`FileSystem.follow_append`). How the path
of the directory was spelled is of no matter, nor is a slash at its end.

An entry may be a link, and then the path leads where the link says. `FileSystem.enter` is the
place an entry stands for, with a link followed and everything else as it is. No look-up ends at a
link (`FileSystem.not_link_of_follow`), so one round of it is enough.

## Main definitions

* `Entry.Proper`: Every directory has one entry of a name, and names that a path can hold.
* `FileSystem.Exists`: A path leads somewhere.
* `FileSystem.Lists`: A directory has an entry of a name.
* `FileSystem.Within`: A directory can be come to from another by the names of entries.
* `FileSystem.enter`: The place that an entry stands for.

## Theorems

* `FileSystem.follow_append`: A look-up may be cut anywhere.
* `FileSystem.lookUp_join`: What the path of an entry leads to.
* `FileSystem.lookUp_join_of_hindrance`: Where the path of an entry leads nowhere.
-/

namespace CloneScan

theorem lookup_eq_some_iff_mem {α : Type} {entries : List (RawText × α)} {name : RawText}
    {value : α} (h : (entries.map Prod.fst).Nodup) :
    entries.lookup name = some value ↔ (name, value) ∈ entries := by
  induction entries with
  | nil => exact iff_of_false (by rintro ⟨⟩) List.not_mem_nil
  | cons e rest ih =>
      rcases e with ⟨first, found⟩
      rw [List.map_cons, List.nodup_cons] at h
      rw [List.lookup_cons, List.mem_cons, Prod.mk.injEq]
      by_cases hname : name = first
      · subst hname
        have hrest : (name, value) ∉ rest := fun hmem =>
          h.1 (List.mem_map.mpr ⟨_, hmem, rfl⟩)
        simp only [beq_self_eq_true, Option.some.injEq, true_and, hrest, or_false]
        exact eq_comm
      · have hfirst : (name == first) = false := beq_eq_false_iff_ne.mpr hname
        simp only [hfirst, hname, false_and, false_or]
        exact ih h.2

namespace Entry

/-- Every directory, however deep, has one entry of a name, and all names are ones that an entry
    may have. -/
inductive Proper : Entry → Prop where
  | file (content : Except ReadError String) : Proper (.file content)
  | link (target : Path) : Proper (.link target)
  | directory {access : Access} {entries : List (RawText × Entry)}
      (unique : (entries.map Prod.fst).Nodup) (named : ∀ e ∈ entries, IsEntryName e.1)
      (below : ∀ e ∈ entries, Proper e.2) : Proper (.directory access entries)

namespace Proper

variable {e : Entry}

theorem nodup (h : e.Proper) : (e.entries.map Prod.fst).Nodup := by
  cases h with
  | directory unique _ _ => exact unique
  | file | link => exact List.nodup_nil

theorem isEntryName (h : e.Proper) {name : RawText} (hname : name ∈ e.entries.map Prod.fst) :
    IsEntryName name := by
  rcases List.mem_map.mp hname with ⟨child, hchild, rfl⟩
  cases h with
  | directory _ named _ => exact named child hchild
  | file | link => exact absurd hchild List.not_mem_nil

theorem child?_eq_some_iff (h : e.Proper) {name : RawText} {child : Entry} :
    e.child? name = some child ↔ (name, child) ∈ e.entries := by
  cases h with
  | directory unique _ _ => exact lookup_eq_some_iff_mem unique
  | file | link => exact iff_of_false (by rintro ⟨⟩) List.not_mem_nil

theorem child (h : e.Proper) {name : RawText} {child : Entry}
    (hchild : e.child? name = some child) : child.Proper := by
  have hmem := h.child?_eq_some_iff.mp hchild
  cases h with
  | directory _ _ below => exact below _ hmem
  | file | link => exact absurd hmem List.not_mem_nil

/-- What is below is as proper as the whole. -/
theorem descend {names : List RawText} (h : e.Proper) {found : Entry}
    (hfound : Entry.descend names e = some found) : found.Proper := by
  induction names generalizing e with
  | nil =>
      obtain rfl := Option.some.inj hfound
      exact h
  | cons name rest ih =>
      rcases Option.bind_eq_some_iff.mp hfound with ⟨child, hchild, hrest⟩
      exact ih (h.child hchild) hrest

end Proper

theorem descend_append (front back : List RawText) (e : Entry) :
    descend (front ++ back) e = (descend front e).bind (descend back) := by
  induction front generalizing e with
  | nil => rfl
  | cons name rest ih =>
      rw [List.cons_append, descend, descend, Option.bind_assoc]
      exact congrArg _ (funext ih)

theorem descend_concat {names : List RawText} {e here : Entry} (h : descend names e = some here)
    (name : RawText) : descend (names ++ [name]) e = here.child? name := by
  rw [descend_append, h, Option.bind_some]
  cases hchild : here.child? name with
  | none => rw [descend, hchild, Option.bind_none]
  | some child =>
      rw [descend, hchild, Option.bind_some]
      rfl

end Entry

namespace FileSystem

variable {fs : FileSystem} {links : Nat} {names : List RawText} {pieces : List (List UInt8)}
  {place : Place}

/-- A path leads somewhere. -/
def Exists (fs : FileSystem) (path : Path) : Prop :=
  ∃ place, fs.lookUp path = .ok place

/-- The whole file system is proper. -/
def Proper (fs : FileSystem) : Prop :=
  fs.root.Proper

/-- A path leads to a directory that has an entry of a name. -/
def Lists (fs : FileSystem) (d : Path) (name : RawText) : Prop :=
  ∃ place, fs.lookUp d = .ok place ∧ name ∈ place.entry.entries.map Prod.fst

/-- A path can be come to from another by the names of entries. -/
def Within (fs : FileSystem) : Path → Path → Prop :=
  Relation.ReflTransGen fun d below => ∃ name, fs.Lists d name ∧ below = d.join name

theorem placeAt_eq_ok_iff :
    fs.placeAt names links = .ok place ↔
      place.names = names ∧ place.links = links ∧ fs.root.descend names = some place.entry := by
  rcases place with ⟨n, e, l⟩
  unfold placeAt
  cases fs.root.descend names with
  | none => simp only [reduceCtorEq, and_false]
  | some found =>
      rw [Except.ok.injEq, Place.mk.injEq, Option.some.injEq]
      exact ⟨fun ⟨hn, he, hl⟩ => ⟨hn.symm, hl.symm, he⟩,
        fun ⟨hn, hl, he⟩ => ⟨hn.symm, he, hl.symm⟩⟩

/-- A look-up ends at the place of some names. -/
theorem placeAt_of_follow (h : fs.follow links names pieces = .ok place) :
    fs.placeAt place.names place.links = .ok place := by
  fun_induction follow fs links names pieces with
  | case1 links names =>
      rcases placeAt_eq_ok_iff.mp h with ⟨hnames, hlinks, _⟩
      rw [hnames, hlinks]
      exact h
  | case4 _ _ _ _ _ _ _ _ ih | case5 _ _ _ _ _ _ _ ih | case9 _ _ _ _ _ _ _ _ _ _ _ _ _ _ ih
  | case10 _ _ _ _ _ _ _ _ _ _ _ _ _ ih => exact ih h
  | case2 | case3 | case6 | case7 | case8 => exact absurd h (by simp only [reduceCtorEq,
      not_false_eq_true])

/-- A look-up may be cut anywhere. -/
theorem follow_append (fs : FileSystem) (links : Nat) (names : List RawText)
    (front back : List (List UInt8)) :
    fs.follow links names (front ++ back)
      = (fs.follow links names front).bind fun here => fs.follow here.links here.names back := by
  fun_induction follow fs links names front with
  | case1 links names =>
      rw [List.nil_append]
      -- Where nothing is left in front, either look-up first looks where it is.
      cases hplace : fs.placeAt names links with
      | error cause =>
          cases back with
          | nil => rw [follow, hplace]; rfl
          | cons piece rest => rw [follow, hplace]; rfl
      | ok here =>
          rcases placeAt_eq_ok_iff.mp hplace with ⟨hnames, hlinks, _⟩
          rw [← hnames, ← hlinks]
          rfl
  | case2 links names piece rest cause hhere =>
      rw [List.cons_append, follow, hhere]
      rfl
  | case3 links names piece rest here hhere cause hhindrance =>
      rw [List.cons_append, follow, hhere]
      simp only [hhindrance]
      rfl
  | case4 links names piece rest here hhere hfree hidle ih =>
      rw [List.cons_append, follow, hhere]
      simp only [hfree, if_pos hidle]
      exact ih
  | case5 links names rest here hhere hfree hstep ih =>
      rw [List.cons_append, follow, hhere]
      simp only [hfree, if_neg hstep, if_true]
      exact ih
  | case6 links names piece rest here hhere hfree hstep hup hchild =>
      rw [List.cons_append, follow, hhere]
      simp only [hfree, if_neg hstep, if_neg hup, hchild]
      rfl
  | case7 names piece rest here hfree hstep hup target hchild hhere =>
      rw [List.cons_append, follow, hhere]
      simp only [hfree, if_neg hstep, if_neg hup, hchild]
      rfl
  | case8 names piece rest here hfree hstep hup target links hchild hpieces hhere =>
      rw [List.cons_append, follow, hhere]
      simp only [hfree, if_neg hstep, if_neg hup, hchild, hpieces]
      rfl
  | case9 names piece rest here hfree hstep hup target links hchild start pieces hpieces hhere
      ih =>
      -- The pieces of a link come in front of what is left, so the cut is further back.
      rw [List.cons_append, follow, hhere]
      simp only [hfree, if_neg hstep, if_neg hup, hchild, hpieces]
      rw [← List.append_assoc]
      exact ih
  | case10 names piece rest here hfree hstep hup child links hnolinks hnolink hchild hhere
      ih =>
      rw [List.cons_append, follow, hhere]
      simp only [hfree, if_neg hstep, if_neg hup, hchild]
      exact ih

/-- Above what the top directory has there is no link. -/
theorem descend_dropLast_ne_link {here : Entry} (h : fs.root.descend names = some here)
    (target : Path) : fs.root.descend names.dropLast ≠ some (.link target) := by
  rcases List.eq_nil_or_concat' names with rfl | ⟨above, name, rfl⟩
  · rintro ⟨⟩
  · rw [List.dropLast_concat]
    intro hlink
    rw [Entry.descend_concat hlink] at h
    cases h

/-- A path is meant from the top or from where one is. -/
theorem start_of_piecesFrom {path : Path} {start : List RawText}
    (h : piecesFrom names path = some (start, pieces)) :
    (start = [] ∨ start = names) ∧ pieces = splitSlashes path.text.bytes := by
  unfold piecesFrom at h
  by_cases hempty : path.text.isEmpty = true
  · rw [if_pos hempty] at h
    cases h
  · rw [if_neg hempty, Option.some.injEq, Prod.mk.injEq] at h
    rcases h with ⟨rfl, rfl⟩
    refine ⟨?_, rfl⟩
    split
    · exact Or.inl rfl
    · exact Or.inr rfl

/-- A look-up that starts at no link ends at none: each link on the way is followed. -/
theorem not_link_of_start (h : fs.follow links names pieces = .ok place)
    (hstart : ∀ target, fs.root.descend names ≠ some (.link target)) (target : Path) :
    place.entry ≠ .link target := by
  fun_induction follow fs links names pieces with
  | case1 links names =>
      rcases placeAt_eq_ok_iff.mp h with ⟨_, _, hentry⟩
      exact fun hlink => hstart target (hentry.trans (congrArg some hlink))
  | case4 links names piece rest here hhere hfree hidle ih => exact ih h hstart
  | case5 links names rest here hhere hfree hstep ih =>
      exact ih h (descend_dropLast_ne_link (placeAt_eq_ok_iff.mp hhere).2.2)
  | case9 names piece rest here hfree hstep hup _ links hchild start pieces hpieces hhere ih =>
      refine ih h fun target => ?_
      rcases (start_of_piecesFrom hpieces).1 with rfl | rfl
      · rintro ⟨⟩
      · exact hstart target
  | case10 names piece rest here hfree hstep hup child links hnolinks hnolink hchild hhere
      ih =>
      refine ih h fun target hlink => ?_
      rw [Entry.descend_concat (placeAt_eq_ok_iff.mp hhere).2.2, hchild, Option.some.injEq] at hlink
      cases links with
      | zero => exact hnolinks target rfl hlink
      | succ links => exact hnolink target links rfl hlink
  | case2 | case3 | case6 | case7 | case8 =>
      exact absurd h (by simp only [reduceCtorEq, not_false_eq_true])

/-- Nor does any look-up with a piece, since what it starts at must be a directory. -/
theorem not_link_of_follow (h : fs.follow links names pieces = .ok place) (hpieces : pieces ≠ [])
    (target : Path) : place.entry ≠ .link target := by
  refine not_link_of_start h (fun above hlink => ?_) target
  cases pieces with
  | nil => exact hpieces rfl
  | cons piece rest =>
      have hplace : fs.placeAt names links = .ok ⟨names, .link above, links⟩ :=
        placeAt_eq_ok_iff.mpr ⟨rfl, rfl, hlink⟩
      rw [follow, hplace] at h
      cases h

/-- The place that an entry stands for: a link is followed from the directory that it is in. -/
def enter (fs : FileSystem) (links : Nat) (names : List RawText) : Entry → Except ReadError Place
  | .link target =>
    match links, piecesFrom names.dropLast target with
    | 0, _ => .error .tooManyLinks
    | _ + 1, none => .error .notFound
    | links + 1, some (start, pieces) => fs.follow links start pieces
  | e => .ok ⟨names, e, links⟩

theorem enter_of_not_link {e : Entry} (h : ∀ target, e ≠ .link target) :
    fs.enter links names e = .ok ⟨names, e, links⟩ := by
  cases e with
  | link target => exact absurd rfl (h target)
  | file | directory => rfl

/-- A name leads from a directory to what the entry of that name stands for, if names may be looked
    up in the directory. -/
theorem follow_name (hplace : fs.placeAt names links = .ok place) {name : RawText}
    (hname : IsEntryName name) (hfree : place.entry.hindrance name.bytes = none) {child : Entry}
    (hchild : place.entry.child? name = some child) :
    fs.follow links names [name.bytes] = fs.enter links (names ++ [name]) child := by
  have hstep : ¬ (name.bytes = [] ∨ name.bytes = [dot]) :=
    not_or.mpr ⟨hname.piece_ne.1, hname.piece_ne.2.1⟩
  rw [follow]
  simp only [hplace, hfree, if_neg hstep, if_neg hname.piece_ne.2.2, hchild]
  have hend : fs.placeAt (names ++ [name]) links = .ok ⟨names ++ [name], child, links⟩ := by
    refine placeAt_eq_ok_iff.mpr ⟨rfl, rfl, ?_⟩
    rw [Entry.descend_concat (placeAt_eq_ok_iff.mp hplace).2.2, hchild]
  cases child with
  | file content => exact (follow.eq_1 fs links _).trans hend
  | directory access entries => exact (follow.eq_1 fs links _).trans hend
  | link target =>
      cases links with
      | zero => rfl
      | succ links =>
          simp only [enter, List.dropLast_concat]
          cases piecesFrom names target with
          | none => rfl
          | some start => simp only [List.append_nil]

/-- What a path leads to, by the pieces it has. -/
theorem lookUp_eq_follow {path : Path} (h : path.text ≠ "") :
    fs.lookUp path = fs.follow linkLimit
      (if (splitSlashes path.text.bytes).head? = some [] then [] else fs.workingDirectory)
      (splitSlashes path.text.bytes) := by
  rw [lookUp, piecesFrom, if_neg (fun hempty => h (RawText.isEmpty_iff.mp hempty))]

theorem text_ne_of_lookUp {path : Path} (h : fs.lookUp path = .ok place) : path.text ≠ "" := by
  intro hempty
  rw [lookUp, piecesFrom, if_pos (RawText.isEmpty_iff.mpr hempty)] at h
  cases h

/-- Only a directory has entries. -/
theorem Lists.isDirectory {d : Path} {name : RawText} (h : fs.Lists d name) :
    fs.isDirectory d = true := by
  rcases h with ⟨⟨names, e, links⟩, hplace, hname⟩
  rw [FileSystem.isDirectory, hplace]
  cases e with
  | directory access entries => rfl
  | file | link => exact absurd hname List.not_mem_nil

/-- The path of an entry is looked up from where the path of the directory leads. -/
theorem lookUp_join_eq_follow {d : Path} (hd : fs.lookUp d = .ok place) {name : RawText}
    (hname : IsEntryName name) :
    fs.lookUp (d.join name) = fs.follow place.links place.names [name.bytes] := by
  have hempty : d.text ≠ "" := text_ne_of_lookUp hd
  rcases Path.splitSlashes_join hempty hname with ⟨front, hfront, hpieces, hdirectory⟩
  rw [lookUp_eq_follow hempty] at hd
  -- A piece that a slash at the end makes may be left out, as the path leads somewhere.
  have htrimmed : Trimmed (splitSlashes d.text.bytes) front ∧
      (splitSlashes d.text.bytes).head? = front.head? := by
    rcases hdirectory with hdirectory | hdirectory
    · rw [hdirectory]
      exact ⟨List.append_nil front ▸ Trimmed.nil.append front, rfl⟩
    · rw [hdirectory, List.head?_append_of_ne_nil _ hfront]
      have hdrop := (Trimmed.drop (isStep_eq_false_iff.mpr (Or.inl rfl)) .nil).append front
      rw [List.append_nil] at hdrop
      exact ⟨hdrop, rfl⟩
  have hplace := follow_of_trimmed fs htrimmed.1 hd
  rw [lookUp_eq_follow (d.text_join_ne hname), hpieces, List.head?_append_of_ne_nil _ hfront,
    ← htrimmed.2, follow_append, hplace]
  rfl

theorem placeAt_of_lookUp {path : Path} (h : fs.lookUp path = .ok place) :
    fs.placeAt place.names place.links = .ok place := by
  rw [lookUp_eq_follow (text_ne_of_lookUp h)] at h
  exact placeAt_of_follow h

/-- The path of an entry leads to what the entry stands for, if names may be looked up in the
    directory. -/
theorem lookUp_join {d : Path} (hd : fs.lookUp d = .ok place) {name : RawText}
    (hname : IsEntryName name) (hfree : place.entry.hindrance name.bytes = none) {child : Entry}
    (hchild : place.entry.child? name = some child) :
    fs.lookUp (d.join name) = fs.enter place.links (place.names ++ [name]) child :=
  (lookUp_join_eq_follow hd hname).trans (follow_name (placeAt_of_lookUp hd) hname hfree hchild)

/-- Where no names may be looked up, the path of an entry leads nowhere. -/
theorem lookUp_join_of_hindrance {d : Path} (hd : fs.lookUp d = .ok place) {name : RawText}
    (hname : IsEntryName name) {cause : ReadError}
    (hhindrance : place.entry.hindrance name.bytes = some cause) :
    fs.lookUp (d.join name) = .error cause := by
  rw [lookUp_join_eq_follow hd hname, follow]
  simp only [placeAt_of_lookUp hd, hhindrance]

theorem lists_iff_of_lookUp {path : Path} (h : fs.lookUp path = .ok place) {name : RawText} :
    fs.Lists path name ↔ name ∈ place.entry.entries.map Prod.fst := by
  simp only [Lists, h, Except.ok.injEq, exists_eq_left']

namespace Proper

/-- What a path leads to is proper. -/
theorem entry (hproper : fs.Proper) {path : Path} (h : fs.lookUp path = .ok place) :
    place.entry.Proper := by
  exact Entry.Proper.descend hproper (placeAt_eq_ok_iff.mp (placeAt_of_lookUp h)).2.2

theorem isEntryName (hproper : fs.Proper) {d : Path} {name : RawText} (h : fs.Lists d name) :
    IsEntryName name := by
  rcases h with ⟨place, hplace, hname⟩
  exact (hproper.entry hplace).isEntryName hname

/-- A path that is come to by names has the steps of the one that it is come to from in front. -/
theorem prefix_of_within (hproper : fs.Proper) {dir d : Path} (h : fs.Within dir d) :
    dir.components <+: d.components := by
  induction h with
  | refl => exact List.prefix_rfl
  | tail _ hstep ih =>
      rcases hstep with ⟨name, hlists, rfl⟩
      rw [Path.components_join _ (hproper.isEntryName hlists)]
      exact ih.trans (List.prefix_append _ _)

end Proper

end FileSystem

end CloneScan
