import CloneScan.Scanner
import Mathlib.Data.List.TakeWhile
import Mathlib.Tactic.Common

/-!
# The Extensions of Names

A file counts as a source file by its extension, which is what stands behind the last dot of its
name. A name that starts with its only dot has none, since in front of that dot there is nothing to
extend. The definition goes through a name from its end; here the name is taken apart at the dot.

## Main definitions

* `HasExtension`: A name has one of several extensions.

## Theorems

* `Path.extensionOf_eq_some_iff`: The extension of a name.
* `Scanner.isSource_iff`: The name of a source file.
-/

namespace CloneScan

/-- A name has one of several extensions, in either case: behind its last dot, and with something in
    front of that dot. -/
def HasExtension (extensions : List String) (name : RawText) : Prop :=
  ∃ stem extension : RawText, name = stem ++ "." ++ extension ∧ stem ≠ "" ∧
    dot ∉ extension.bytes ∧
    ∃ known ∈ extensions, Text.lowerCase known = Text.lowerCase extension.shown

namespace Path

theorem extensionOf_of_not_mem {name : RawText} (h : dot ∉ name.bytes) :
    extensionOf name = none := by
  have hdrop : name.bytes.reverse.dropWhile (· ≠ dot) = [] := by
    rw [List.dropWhile_eq_nil_iff]
    exact fun b hb => decide_eq_true fun hdot => h (hdot ▸ List.mem_reverse.mp hb)
  simp only [extensionOf, hdrop]

/-- Behind the last dot is the extension, unless that dot comes first. -/
theorem extensionOf_append {stem extension : RawText} (hdot : dot ∉ extension.bytes) :
    extensionOf (stem ++ "." ++ extension)
      = if stem = "" ∨ stem ++ "." ++ extension = ".." then none else some extension := by
  have hreverse : (stem ++ "." ++ extension).bytes.reverse
      = extension.bytes.reverse ++ dot :: stem.bytes.reverse := by
    have hbytes : (stem ++ "." ++ extension).bytes = stem.bytes ++ [dot] ++ extension.bytes := rfl
    rw [hbytes, List.reverse_append, List.reverse_append]
    rfl
  have hpart : ∀ b ∈ extension.bytes.reverse, decide (b ≠ dot) = true := fun b hb =>
    decide_eq_true fun heq => hdot (heq ▸ List.mem_reverse.mp hb)
  have hdrop : (stem ++ "." ++ extension).bytes.reverse.dropWhile (· ≠ dot)
      = dot :: stem.bytes.reverse := by
    rw [hreverse, List.dropWhile_append_of_pos hpart]
    exact List.dropWhile_cons_of_neg (by decide)
  have htake : (stem ++ "." ++ extension).bytes.reverse.takeWhile (· ≠ dot)
      = extension.bytes.reverse := by
    rw [hreverse, List.takeWhile_append_of_pos hpart, List.takeWhile_cons_of_neg (by decide),
      List.append_nil]
  simp only [extensionOf, hdrop, htake, List.reverse_reverse]
  cases hstem : stem.bytes.reverse with
  | nil =>
      have hempty : stem = "" := RawText.ext (List.reverse_eq_nil_iff.mp hstem)
      rw [if_pos (Or.inl hempty)]
  | cons b rest =>
      have hne : stem ≠ "" := by
        rintro rfl
        cases hstem
      exact if_congr (or_iff_right hne).symm rfl rfl

/-- The extension of a name is what is behind its last dot, if anything is in front of that. -/
theorem extensionOf_eq_some_iff {name extension : RawText} (h : name ≠ "..") :
    extensionOf name = some extension ↔
      ∃ stem : RawText, name = stem ++ "." ++ extension ∧ stem ≠ "" ∧ dot ∉ extension.bytes := by
  constructor
  · intro hsome
    by_cases hmem : dot ∈ name.bytes
    · -- Read from its end, the name has a first dot.
      rcases List.eq_append_cons_of_mem (List.mem_reverse.mpr hmem) with ⟨back, front, hback, hdot⟩
      have hname : name = ⟨front.reverse⟩ ++ "." ++ ⟨back.reverse⟩ := by
        have hbytes : name.bytes = front.reverse ++ [dot] ++ back.reverse := by
          rw [← List.reverse_inj, hback, List.reverse_append, List.reverse_append,
            List.reverse_reverse, List.reverse_reverse]
          rfl
        exact RawText.ext hbytes
      have hlast : dot ∉ (RawText.mk back.reverse).bytes := fun hdot' =>
        hdot (List.mem_reverse.mp hdot')
      rw [hname, extensionOf_append hlast, ← hname] at hsome
      by_cases hnone : (RawText.mk front.reverse) = "" ∨ name = ".."
      · rw [if_pos hnone] at hsome
        cases hsome
      · rw [if_neg hnone, Option.some.injEq] at hsome
        exact ⟨_, hsome ▸ hname, fun hempty => hnone (Or.inl hempty), hsome ▸ hlast⟩
    · rw [extensionOf_of_not_mem hmem] at hsome
      cases hsome
  · rintro ⟨stem, rfl, hstem, hdot⟩
    rw [extensionOf_append hdot, if_neg (not_or.mpr ⟨hstem, h⟩)]

end Path

theorem Scanner.isSource_iff {extensions : List String} {name : RawText} (h : name ≠ "..") :
    Scanner.isSource extensions name = true ↔ HasExtension extensions name := by
  have hknown : ∀ extension : RawText,
      (extensions.any fun known => Text.lowerCase known == Text.lowerCase extension.shown) = true ↔
        ∃ known ∈ extensions, Text.lowerCase known = Text.lowerCase extension.shown := by
    intro extension
    simp only [List.any_eq_true, beq_iff_eq]
  unfold isSource HasExtension
  cases hname : Path.extensionOf name with
  | none =>
      refine iff_of_false (by rintro ⟨⟩) ?_
      rintro ⟨stem, extension, hsplit, hstem, hdot, _⟩
      have hsome := (Path.extensionOf_eq_some_iff h).mpr ⟨stem, hsplit, hstem, hdot⟩
      rw [hname] at hsome
      cases hsome
  | some extension =>
      dsimp only
      rw [hknown]
      constructor
      · intro hlisted
        rcases (Path.extensionOf_eq_some_iff h).mp hname with ⟨stem, hsplit, hstem, hdot⟩
        exact ⟨stem, extension, hsplit, hstem, hdot, hlisted⟩
      · rintro ⟨stem, other, hsplit, hstem, hdot, hlisted⟩
        have hsome := (Path.extensionOf_eq_some_iff h).mpr ⟨stem, hsplit, hstem, hdot⟩
        rw [hname, Option.some.injEq] at hsome
        exact hsome ▸ hlisted

end CloneScan
