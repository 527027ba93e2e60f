import CloneScan.Proofs.Path.Pieces
import Mathlib.Data.List.Lex

/-!
# The Order of Paths

Paths are ordered step by step, and not as texts. The difference is in the bytes that come before
the slash: as a text `a-b.cpp` stands in front of `a/x.cpp`, but its first step `a-b.cpp` has
`a` as a proper part and comes behind it. In the order of steps all that is below `a` stands
together, at the place of `a`, which is what makes it the order of a walk through directories that
takes each in the order of its names (`Path.precedes_of_names`).

## Main definitions

* `Component.Before`: One step comes before another.
* `Path.Precedes`: One path comes before another.

## Theorems

* `Path.Precedes.asymm`, `Path.precedes_trichotomy`: It is an order of paths as they are told apart.
* `Path.precedes_of_longer`: A path comes before what is below it.
* `Path.precedes_of_names`: Paths that part at two names are in the order of these.
-/

namespace CloneScan

namespace Component

/-- The kinds of steps in order. -/
def rank : Component → Nat
  | root => 0
  | here => 1
  | up => 2
  | name _ => 3

/-- What tells a step from others of its kind. -/
def label : Component → List UInt8
  | name bytes => bytes
  | _ => []

/-- One step comes before another: by their kinds, and two names by their bytes. -/
def Before (a b : Component) : Prop :=
  a.rank < b.rank ∨ a.rank = b.rank ∧ a.label < b.label

instance : DecidableRel Before :=
  fun _ _ => inferInstanceAs (Decidable (_ ∨ _ ∧ _))

theorem eq_of_rank_label {a b : Component} (hrank : a.rank = b.rank) (hlabel : a.label = b.label) :
    a = b := by
  cases a with
  | name s =>
      cases b with
      | name t => exact congrArg name hlabel
      | root | here | up => simp [rank] at hrank
  | root | here | up =>
      cases b with
      | name t => simp [rank] at hrank
      | root | here | up => first | rfl | exact absurd hrank (by decide)

instance : Std.Asymm Before where
  asymm a b := by
    rintro (hab | ⟨hrank, hab⟩) (hba | ⟨_, hba⟩)
    · exact Nat.lt_asymm hab hba
    · omega
    · omega
    · exact List.lt_asymm hab hba

instance : Std.Trichotomous Before where
  trichotomous a b hab hba := by
    rw [Before, not_or] at hab hba
    have hrank : a.rank = b.rank := by omega
    have hle : a.label ≤ b.label := List.not_lt.mp fun hlt => hba.2 ⟨hrank.symm, hlt⟩
    have hge : b.label ≤ a.label := List.not_lt.mp fun hlt => hab.2 ⟨hrank, hlt⟩
    exact eq_of_rank_label hrank (List.le_antisymm hle hge)

end Component

namespace Path

/-- One path comes before another, step by step. -/
def Precedes (p q : Path) : Prop :=
  List.Lex Component.Before p.components q.components

instance : DecidableRel Precedes :=
  fun p q => inferInstanceAs (Decidable (List.Lex Component.Before p.components q.components))

theorem Precedes.asymm {p q : Path} (h : p.Precedes q) : ¬ q.Precedes p :=
  Std.Asymm.asymm (r := List.Lex Component.Before) _ _ h

theorem not_precedes_self (p : Path) : ¬ p.Precedes p :=
  fun h => h.asymm h

/-- Two paths are in order one way or the other, unless they have the same steps. -/
theorem precedes_trichotomy (p q : Path) : p.Precedes q ∨ p.Same q ∨ q.Precedes p := by
  by_cases hpq : p.Precedes q
  · exact Or.inl hpq
  · by_cases hqp : q.Precedes p
    · exact Or.inr (Or.inr hqp)
    · exact Or.inr (Or.inl (Std.Trichotomous.trichotomous (r := List.Lex Component.Before) _ _
        hpq hqp))

/-- A path comes before all that have more steps behind its own. -/
theorem precedes_of_longer {p q : Path} {step : Component}
    (h : p.components ++ [step] <+: q.components) : p.Precedes q := by
  rcases h with ⟨rest, hrest⟩
  have hmore := List.Lex.append_left Component.Before (List.Lex.nil (a := step) (l := rest))
    p.components
  rw [List.append_assoc] at hrest
  rwa [List.append_nil, List.singleton_append.symm, hrest] at hmore

/-- Paths that are alike down to two names are in the order of the names, however they go on. -/
theorem precedes_of_names {p q : Path} {common : List Component} {a b : RawText}
    (hp : common ++ [.name a.bytes] <+: p.components)
    (hq : common ++ [.name b.bytes] <+: q.components) (hab : a.bytes < b.bytes) :
    p.Precedes q := by
  rcases hp with ⟨prest, hp⟩
  rcases hq with ⟨qrest, hq⟩
  have hnames : Component.Before (.name a.bytes) (.name b.bytes) := Or.inr ⟨rfl, hab⟩
  rw [Precedes, ← hp, ← hq, List.append_assoc, List.append_assoc]
  exact List.Lex.append_left _ (List.Lex.rel hnames) common

end Path

/-- A hyphen comes before a slash, but not in the order of paths. -/
example : Path.Precedes ⟨"a/x.cpp"⟩ ⟨"a-b.cpp"⟩ ∧ "a-b.cpp" < "a/x.cpp" := by
  decide

end CloneScan
