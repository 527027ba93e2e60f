import CloneScan.FileSystem
import CloneScan.Proofs.Path.Pieces
import CloneScan.Proofs.Path.Spellings

/-!
# One File Under Several Spellings

Paths are compared by their steps, and files are looked up by their pieces between slashes. The
two do not ask the same. An empty piece and a single dot are no steps, yet a look-up that meets
one still asks whether a directory stands there. So two spellings of one path may differ in
whether they lead anywhere: `a` may be a file where `a/` is nothing.

But they cannot lead to different files. What a look-up passes over without moving may be left
out of a path that leads somewhere, and what is left is known from the steps
(`follow_of_trimmed`). So two readable paths with the same steps have the same text.

## Main definitions

* `isStep`: A piece of a path moves the look-up.
* `Trimmed`: A list of pieces without some of those that do not move.

## Theorems

* `FileSystem.follow_of_trimmed`: Where a path leads, it leads without those pieces.
* `pieces_of_components`: The steps of a path are its pieces that move.
* `FileSystem.readText_of_same`: Two readable paths with the same steps have the same text.
-/

namespace CloneScan

/-- A piece between slashes moves a look-up. -/
def isStep (piece : List UInt8) : Bool :=
  piece != [] && piece != [dot]

/-- The second list is the first without some of the pieces that do not move a look-up. -/
inductive Trimmed : List (List UInt8) → List (List UInt8) → Prop where
  | nil : Trimmed [] []
  /-- The piece is left out. -/
  | drop {piece : List UInt8} {all some : List (List UInt8)} (idle : isStep piece = false)
      (rest : Trimmed all some) : Trimmed (piece :: all) some
  | keep {all some : List (List UInt8)} (piece : List UInt8) (rest : Trimmed all some) :
      Trimmed (piece :: all) (piece :: some)

theorem Trimmed.append {all some : List (List UInt8)} (h : Trimmed all some)
    (first : List (List UInt8)) : Trimmed (first ++ all) (first ++ some) := by
  induction first with
  | nil => exact h
  | cons piece rest ih => exact .keep piece ih

theorem trimmed_filter (pieces : List (List UInt8)) : Trimmed pieces (pieces.filter isStep) := by
  induction pieces with
  | nil => exact .nil
  | cons piece rest ih =>
      by_cases hstep : isStep piece = true
      · rw [List.filter_cons_of_pos hstep]
        exact .keep piece ih
      · rw [List.filter_cons_of_neg hstep]
        exact .drop (Bool.not_eq_true _ ▸ hstep) ih

theorem isStep_eq_false_iff {piece : List UInt8} :
    isStep piece = false ↔ piece = [] ∨ piece = [dot] := by
  unfold isStep
  rw [Bool.and_eq_false_iff, bne_eq_false_iff_eq, bne_eq_false_iff_eq]

/-- Where a piece moves the look-up, it is still there once others were left out. -/
theorem Trimmed.cases_step {piece : List UInt8} {all some : List (List UInt8)}
    (hstep : ¬ (piece = [] ∨ piece = [dot])) (h : Trimmed (piece :: all) some) :
    ∃ rest, some = piece :: rest ∧ Trimmed all rest := by
  cases h with
  | drop hidle _ => exact absurd (isStep_eq_false_iff.mp hidle) hstep
  | keep _ hrest => exact ⟨_, rfl, hrest⟩

namespace FileSystem

/-- What a path leads to, it leads to without pieces that do not move the look-up. -/
theorem follow_of_trimmed (fs : FileSystem) {links : Nat} {names : List RawText}
    {all some : List (List UInt8)} {place : Place} (htrimmed : Trimmed all some)
    (h : fs.follow links names all = .ok place) : fs.follow links names some = .ok place := by
  fun_induction follow fs links names all generalizing some with
  | case1 links names =>
      cases htrimmed
      rw [follow]
      exact h
  | case4 links names piece rest here hhere hfree hidle ih =>
      -- The piece is left out, or it is passed over once more.
      cases htrimmed with
      | drop _ hrest => exact ih hrest h
      | keep _ hrest =>
          rw [follow]
          simp only [hhere, hfree, if_pos hidle]
          exact ih hrest h
  | case5 links names rest here hhere hfree hstep ih =>
      rcases htrimmed.cases_step hstep with ⟨rest', rfl, hrest⟩
      rw [follow]
      simp only [hhere, hfree, if_neg hstep, if_true]
      exact ih hrest h
  | case9 names piece rest here hfree hstep hup target links hchild start pieces hpieces hhere
      ih =>
      -- What the link says is looked up whole, in front of what is left.
      rcases htrimmed.cases_step hstep with ⟨rest', rfl, hrest⟩
      rw [follow]
      simp only [hhere, hfree, if_neg hstep, if_neg hup, hchild, hpieces]
      exact ih (hrest.append pieces) h
  | case10 names piece rest here hfree hstep hup child links hnolinks hnolink hchild hhere
      ih =>
      rcases htrimmed.cases_step hstep with ⟨rest', rfl, hrest⟩
      rw [follow]
      simp only [hhere, hfree, if_neg hstep, if_neg hup, hchild]
      exact ih hrest h
  | case2 | case3 | case6 | case7 | case8 =>
      exact absurd h (by simp only [reduceCtorEq, not_false_eq_true])

end FileSystem

/-- The piece that a step of a path stands for, if it is one that a piece can stand for. -/
def Component.piece? : Component → Option (List UInt8)
  | root | here => none
  | up => some [dot, dot]
  | name text => some text

/-- The piece of a step is the piece it was made of. -/
theorem piece?_ofPiece? (piece : List UInt8) :
    (Component.ofPiece? piece).bind Component.piece?
      = if isStep piece then some piece else none := by
  unfold Component.ofPiece?
  by_cases hidle : piece = [] ∨ piece = [dot]
  · rw [if_pos hidle, isStep_eq_false_iff.mpr hidle]
    rfl
  · have hstep : isStep piece = true := by
      rwa [← Bool.not_eq_false, isStep_eq_false_iff]
    rw [if_neg hidle, if_pos hstep]
    split
    · exact congrArg some (‹piece = [dot, dot]›).symm
    · rfl

/-- No piece behind a slash stands for the top. -/
theorem ofPiece?_ne_root (piece : List UInt8) : Component.ofPiece? piece ≠ some .root := by
  unfold Component.ofPiece?
  split
  · exact nofun
  · split
    · exact nofun
    · exact nofun

theorem filterMap_piece? (pieces : List (List UInt8)) :
    (pieces.filterMap Component.ofPiece?).filterMap Component.piece? = pieces.filter isStep := by
  rw [List.filterMap_filterMap, ← List.filterMap_eq_filter]
  exact List.filterMap_congr fun piece _ => piece?_ofPiece? piece

/-- The pieces of a path that move a look-up, and whether it starts at the top, are known from its
    steps. -/
theorem pieces_of_components {p : Path} (hne : p.text ≠ "") :
    (splitSlashes p.text.bytes).filter isStep = p.components.filterMap Component.piece? ∧
      ((splitSlashes p.text.bytes).head? = some [] ↔ p.components.head? = some .root) := by
  rw [Path.components_of_ne hne]
  cases splitSlashes p.text.bytes with
  | nil => exact ⟨rfl, iff_of_false (by rintro ⟨⟩) (by rintro ⟨⟩)⟩
  | cons first rest =>
      rw [Component.ofPieces, List.filterMap_append, filterMap_piece?, Component.ofFirst?]
      by_cases hroot : first = []
      · rw [if_pos hroot, hroot]
        exact ⟨rfl, iff_of_true rfl rfl⟩
      by_cases hhere : first = [dot]
      · rw [if_neg hroot, if_pos hhere, hhere]
        exact ⟨rfl, iff_of_false (by rintro ⟨⟩) (by rintro ⟨⟩)⟩
      -- Any other piece is like those behind a slash.
      rw [if_neg hroot, if_neg hhere]
      have hstep : isStep first = true := by
        rw [← Bool.not_eq_false, isStep_eq_false_iff, not_or]
        exact ⟨hroot, hhere⟩
      have hpiece := piece?_ofPiece? first
      have htop := ofPiece?_ne_root first
      rw [if_pos hstep] at hpiece
      cases hfirst : Component.ofPiece? first with
      | none => rw [hfirst] at hpiece; cases hpiece
      | some step =>
          rw [hfirst, Option.bind_some] at hpiece
          refine ⟨?_, iff_of_false (fun hhead => hroot (Option.some.inj hhead)) fun hhead => ?_⟩
          · rw [Option.toList_some, List.filterMap_cons_some hpiece, List.filter_cons_of_pos hstep]
            rfl
          · exact htop (hfirst.trans hhead)

namespace FileSystem

/-- A readable path leads to a file with its text, and so it does with its pieces trimmed. -/
theorem follow_of_readText {fs : FileSystem} {p : Path} {text : String}
    (h : fs.readText p = .ok text) :
    p.text ≠ "" ∧ ∃ place, place.entry = .file (.ok text) ∧
      fs.follow linkLimit
        (if (splitSlashes p.text.bytes).head? = some [] then [] else fs.workingDirectory)
        ((splitSlashes p.text.bytes).filter isStep) = .ok place := by
  unfold readText at h
  cases hlook : fs.lookUp p with
  | error cause =>
      rw [hlook] at h
      exact absurd h (by simp only [reduceCtorEq, not_false_eq_true])
  | ok place =>
      rw [hlook] at h
      have hentry : place.entry = .file (.ok text) := by
        cases hcase : place.entry with
        | file content =>
            cases content with
            | error cause => simp only [hcase, reduceCtorEq] at h
            | ok found =>
                simp only [hcase, Except.ok.injEq] at h
                rw [h]
        | link target => simp only [hcase, reduceCtorEq] at h
        | directory access entries => simp only [hcase, reduceCtorEq] at h
      unfold lookUp piecesFrom at hlook
      by_cases hempty : p.text.isEmpty = true
      · rw [if_pos hempty] at hlook
        exact absurd hlook (by simp only [reduceCtorEq, not_false_eq_true])
      · rw [if_neg hempty] at hlook
        exact ⟨fun hblank => hempty (RawText.isEmpty_iff.mpr hblank), place, hentry,
          fs.follow_of_trimmed (trimmed_filter _) hlook⟩

/-- Two readable paths with the same steps have the same text. -/
theorem readText_of_same {fs : FileSystem} {p q : Path} {first second : String}
    (hsame : p.Same q) (hp : fs.readText p = .ok first) (hq : fs.readText q = .ok second) :
    first = second := by
  rcases follow_of_readText hp with ⟨hpne, pplace, hpentry, hpfollow⟩
  rcases follow_of_readText hq with ⟨hqne, qplace, hqentry, hqfollow⟩
  have hppieces := pieces_of_components hpne
  have hqpieces := pieces_of_components hqne
  have hcomponents : p.components = q.components := hsame
  -- The steps decide where the look-up starts and what it follows.
  rw [hcomponents] at hppieces
  have hstart := hppieces.2.trans hqpieces.2.symm
  simp only [hstart, hppieces.1, ← hqpieces.1, hqfollow, Except.ok.injEq] at hpfollow
  rw [← hpfollow, hqentry, Entry.file.injEq, Except.ok.injEq] at hpentry
  exact hpentry.symm

end FileSystem

end CloneScan
