import CloneScan.Proofs.File.Relisting
import CloneScan.Proofs.Path.Order

/-!
# What Is in the Way

A search through directories can fail in two ways. The path it is given may lead nowhere, and some
directory that it comes to may refuse to be listed. Directories that refuse are named by paths here,
as the files are that the search is for, so that nothing has to be said of the way it takes. Several
of them may refuse, and the one that counts is the first in the order of paths. So what is in the
way of a path is one thing (`FileSystem.Obstacle.unique`), and the order in which entries are listed
has no part in it (`FileSystem.Relisted.obstacle`).

## Main definitions

* `FileSystem.Refuses`: A directory cannot be listed.
* `FileSystem.Accessible`: Nothing is in the way of a path.
* `FileSystem.FirstRefusal`: The first directory that cannot be listed.
* `FileSystem.Obstacle`: What is in the way of a path.

## Theorems

* `FileSystem.Obstacle.unique`: There is one obstacle at most.
* `FileSystem.Relisted.obstacle`: The order of listings does not matter to it.
-/

namespace CloneScan

/-- Why the entries cannot be told, if so. -/
def Entry.refusal : Entry → Option ReadError
  | directory access _ => access.refusal
  | _ => none

namespace FileSystem

/-- A path leads to a directory that cannot be listed, for a cause. -/
def Refuses (fs : FileSystem) (d : Path) (cause : ReadError) : Prop :=
  ∃ place, fs.lookUp d = .ok place ∧ place.entry.refusal = some cause

/-- A path leads somewhere, and all directories that can be come to from it can be listed. -/
def Accessible (fs : FileSystem) (path : Path) : Prop :=
  fs.Exists path ∧ ∀ d cause, fs.Within path d → ¬ fs.Refuses d cause

/-- Of the directories that can be come to from a path and cannot be listed, the first in the order
    of paths. -/
structure FirstRefusal (fs : FileSystem) (path d : Path) (cause : ReadError) : Prop where
  within : fs.Within path d
  refuses : fs.Refuses d cause
  first : ∀ d' cause', fs.Within path d' → fs.Refuses d' cause' → d' = d ∨ d.Precedes d'

/-- What is in the way of a path: that it leads nowhere, or the first directory that cannot be
    listed. -/
def Obstacle (fs : FileSystem) (path : Path) (fault : Fault) : Prop :=
  (¬ fs.Exists path ∧ fault = .noSuchPath path) ∨
    ∃ d cause, fs.FirstRefusal path d cause ∧ fault = .unlistable cause

variable {fs : FileSystem} {path d : Path} {cause : ReadError}

theorem Refuses.unique {other : ReadError} (h : fs.Refuses d cause) (hother : fs.Refuses d other) :
    cause = other := by
  rcases h with ⟨place, hplace, hcause⟩
  rcases hother with ⟨place', hplace', hother⟩
  obtain rfl := Except.ok.inj (hplace.symm.trans hplace')
  exact Option.some.inj (hcause.symm.trans hother)

/-- Only a directory refuses to be listed. -/
theorem Refuses.isDirectory (h : fs.Refuses d cause) : fs.isDirectory d = true := by
  rcases h with ⟨⟨names, e, links⟩, hplace, hcause⟩
  rw [FileSystem.isDirectory, hplace]
  cases e with
  | directory access entries => rfl
  | file | link => cases hcause

/-- What is no directory has nothing within. -/
theorem within_eq_of_not_isDirectory (h : fs.isDirectory path = false)
    (hwithin : fs.Within path d) : d = path := by
  rcases Relation.ReflTransGen.cases_head hwithin with rfl | ⟨_, ⟨name, hlists, _⟩, _⟩
  · rfl
  · rw [hlists.isDirectory] at h
    cases h

theorem accessible_of_not_isDirectory (hexists : fs.Exists path)
    (h : fs.isDirectory path = false) : fs.Accessible path := by
  refine ⟨hexists, fun d cause hwithin hrefuses => ?_⟩
  obtain rfl := within_eq_of_not_isDirectory h hwithin
  rw [hrefuses.isDirectory] at h
  cases h

namespace FirstRefusal

/-- A path that anything can be come to from leads somewhere. -/
theorem exists_path (h : fs.FirstRefusal path d cause) : fs.Exists path := by
  rcases Relation.ReflTransGen.cases_head h.within with rfl | ⟨_, ⟨name, hlists, _⟩, _⟩
  · exact h.refuses.imp fun _ hplace => hplace.1
  · exact hlists.imp fun _ hplace => hplace.1

theorem unique {d' : Path} {cause' : ReadError} (h : fs.FirstRefusal path d cause)
    (h' : fs.FirstRefusal path d' cause') : cause = cause' := by
  have hsame : d' = d := by
    rcases h.first d' cause' h'.within h'.refuses with heq | hbefore
    · exact heq
    · rcases h'.first d cause h.within h.refuses with heq | hbehind
      · exact heq.symm
      · exact absurd hbehind hbefore.asymm
  subst hsame
  exact h.refuses.unique h'.refuses

end FirstRefusal

/-- There is one obstacle at most. -/
theorem Obstacle.unique {fault fault' : Fault} (h : fs.Obstacle path fault)
    (h' : fs.Obstacle path fault') : fault = fault' := by
  rcases h with ⟨hnone, rfl⟩ | ⟨d, cause, hfirst, rfl⟩
  · rcases h' with ⟨_, rfl⟩ | ⟨d', cause', hfirst', _⟩
    · rfl
    · exact absurd hfirst'.exists_path hnone
  · rcases h' with ⟨hnone, _⟩ | ⟨d', cause', hfirst', rfl⟩
    · exact absurd hfirst.exists_path hnone
    · rw [hfirst.unique hfirst']

theorem Obstacle.not_accessible {fault : Fault} (h : fs.Obstacle path fault) :
    ¬ fs.Accessible path := by
  rintro ⟨hexists, hnone⟩
  rcases h with ⟨hnowhere, _⟩ | ⟨d, cause, hfirst, _⟩
  · exact hnowhere hexists
  · exact hnone d cause hfirst.within hfirst.refuses

namespace Relisted

variable {other : FileSystem}

theorem exists_path (h : fs.Relisted other) (hproper : fs.Proper) (hexists : fs.Exists path) :
    other.Exists path := by
  rcases hexists with ⟨place, hplace⟩
  rcases h.lookUp hproper hplace with ⟨e, he, _⟩
  exact ⟨_, he⟩

theorem refuses (h : fs.Relisted other) (hproper : fs.Proper) (hrefuses : fs.Refuses d cause) :
    other.Refuses d cause := by
  rcases hrefuses with ⟨place, hplace, hcause⟩
  rcases h.lookUp hproper hplace with ⟨e, he, hrelisted⟩
  refine ⟨_, he, ?_⟩
  cases hentry : place.entry with
  | file content => rw [hentry] at hcause; cases hcause
  | link target => rw [hentry] at hcause; cases hcause
  | directory access entries =>
      -- What may be done with a directory is not a matter of its listing.
      rw [hentry] at hcause hrelisted
      cases hrelisted
      exact hcause

theorem accessible (h : fs.Relisted other) (hproper : fs.Proper)
    (haccessible : fs.Accessible path) : other.Accessible path := by
  refine ⟨h.exists_path hproper haccessible.1, fun d cause hwithin hrefuses => ?_⟩
  exact haccessible.2 d cause ((h.within_iff hproper).mp hwithin)
    (h.symm.refuses (h.proper hproper) hrefuses)

/-- What is in the way in one is in the way in the other. -/
theorem obstacle (h : fs.Relisted other) (hproper : fs.Proper) {fault : Fault}
    (hobstacle : fs.Obstacle path fault) : other.Obstacle path fault := by
  have hproper' := h.proper hproper
  rcases hobstacle with ⟨hnone, rfl⟩ | ⟨d, cause, hfirst, rfl⟩
  · exact Or.inl ⟨fun hexists => hnone (h.symm.exists_path hproper' hexists), rfl⟩
  · refine Or.inr ⟨d, cause, ⟨(h.within_iff hproper).mpr hfirst.within,
      h.refuses hproper hfirst.refuses, fun d' cause' hwithin hrefuses => ?_⟩, rfl⟩
    exact hfirst.first d' cause' ((h.within_iff hproper).mp hwithin)
      (h.symm.refuses hproper' hrefuses)

end Relisted

end FileSystem

end CloneScan
