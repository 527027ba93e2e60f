import CloneScan.Regex.Basic

/-!
# Laps

A repetition matches what its body matches several times in a row. `Regex.Spans` counts the bounds
down while it goes, one copy of the body after the other. Here the copies are counted instead:
`Laps` says how many there were, and `Regex.spans_repeated_iff` that the count lies between the
bounds. That is the form in which a repetition can be compared with a sweep, which makes its
mandatory rounds first and the optional ones after them.

## Main definitions

* `Laps`: A number of steps of a relation.
* `Regex.HasOrderedBounds`: No repetition has a least number above its greatest.

## Theorems

* `Laps.append`, `Laps.split`: A number of laps in two parts.
* `Regex.spans_repeated_iff`: A repetition is a number of laps between its bounds.
* `Regex.Spans.le_length`: A match does not leave the text.
-/

namespace CloneScan

/-- A number of steps of a relation leads from one place to another. -/
inductive Laps (leads : Nat → Nat → Prop) : Nat → Nat → Nat → Prop where
  | none {i : Nat} : Laps leads 0 i i
  | more {n i j k : Nat} (first : leads i j) (rest : Laps leads n j k) : Laps leads (n + 1) i k

namespace Laps

variable {leads : Nat → Nat → Prop} {m n i j k : Nat}

theorem append (first : Laps leads m i j) (second : Laps leads n j k) :
    Laps leads (m + n) i k := by
  induction first with
  | none => rwa [Nat.zero_add]
  | more step _ ih =>
      rw [Nat.add_right_comm]
      exact .more step (ih second)

theorem split (h : Laps leads (m + n) i k) : ∃ j, Laps leads m i j ∧ Laps leads n j k := by
  induction m generalizing i with
  | zero => exact ⟨i, .none, Nat.zero_add n ▸ h⟩
  | succ m ih =>
      rw [Nat.add_right_comm] at h
      cases h with
      | more step rest =>
          rcases ih rest with ⟨j, hfirst, hsecond⟩
          exact ⟨j, .more step hfirst, hsecond⟩

/-- What every step keeps, the laps keep. -/
theorem preserves (p : Nat → Prop) (hstep : ∀ i j, leads i j → p i → p j)
    (h : Laps leads n i j) (hstart : p i) : p j := by
  induction h with
  | none => exact hstart
  | more step _ ih => exact ih (hstep _ _ step hstart)

end Laps

namespace Regex

/-- A repetition matches a number of laps of its body, and the number lies between the bounds. -/
theorem spans_repeated_iff {text : List Char} {r : Regex} {least : Nat} {most : Option Nat}
    {i j : Nat} :
    Spans text (.repeated r least most) i j ↔
      ∃ n, least ≤ n ∧ (∀ m ∈ most, n ≤ m) ∧ Laps (Spans text r) n i j := by
  constructor
  · intro h
    generalize hr : Regex.repeated r least most = repetition at h
    induction h generalizing least most with
    | done =>
        rw [Regex.repeated.injEq] at hr
        obtain ⟨rfl, rfl, rfl⟩ := hr
        exact ⟨0, Nat.le_refl 0, fun m _ => Nat.zero_le m, .none⟩
    | more room first rest _ ih =>
        rw [Regex.repeated.injEq] at hr
        obtain ⟨rfl, rfl, rfl⟩ := hr
        rcases ih rfl with ⟨n, hleast, hmost, hlaps⟩
        refine ⟨n + 1, Nat.le_add_of_sub_le hleast, fun m hm => ?_, .more first hlaps⟩
        obtain rfl := Option.mem_def.mp hm
        have hpos : m ≠ 0 := fun h => room (congrArg some h)
        have hbelow := hmost (m - 1) rfl
        omega
    | empty => exact Regex.noConfusion hr
    | one => exact Regex.noConfusion hr
    | look => exact Regex.noConfusion hr
    | seq => exact Regex.noConfusion hr
    | altFirst => exact Regex.noConfusion hr
    | altSecond => exact Regex.noConfusion hr
  · rintro ⟨n, hleast, hmost, hlaps⟩
    induction hlaps generalizing least most with
    | none =>
        obtain rfl := Nat.le_zero.mp hleast
        exact .done
    | @more n _ _ _ first _ ih =>
        refine .more ?_ first (ih (Nat.sub_le_of_le_add hleast) fun m hm => ?_)
        · rintro rfl
          exact absurd (hmost 0 rfl) (Nat.not_succ_le_zero n)
        · rcases Option.map_eq_some_iff.mp hm with ⟨greatest, hgreatest, rfl⟩
          exact Nat.le_sub_one_of_lt (hmost greatest hgreatest)

/-- A match that starts in a text ends in it. -/
theorem Spans.le_length {text : List Char} {r : Regex} {i j : Nat} (h : Spans text r i j)
    (hstart : i ≤ text.length) : j ≤ text.length := by
  induction h with
  | one at_place => exact (List.getElem?_eq_some_iff.mp at_place).1
  | empty => exact hstart
  | look => exact hstart
  | done => exact hstart
  | seq _ _ ihfirst ihsecond => exact ihsecond (ihfirst hstart)
  | altFirst _ ih => exact ih hstart
  | altSecond _ ih => exact ih hstart
  | more _ _ _ ihfirst ihrest => exact ihrest (ihfirst hstart)

/-- No repetition has a least number above its greatest. -/
def HasOrderedBounds : Regex → Prop
  | empty | one _ | look _ => True
  | seq r s | alt r s => r.HasOrderedBounds ∧ s.HasOrderedBounds
  | repeated r least most => r.HasOrderedBounds ∧ ∀ m ∈ most, least ≤ m

end Regex

end CloneScan
