import CloneScan.Proofs.Regex.Laps
import CloneScan.Regex.Sweep
import Mathlib.Data.Finset.Card
import Mathlib.Data.Finset.Range

/-!
# What a Sweep Finds

A sweep moves all places of a text at once, and `Regex.occursIn_iff` says that it finds a match
exactly where there is one. Each expression moves a set as its own matches move a single place
(`Moves`), and the cases follow the expression. The one that takes an argument is the repetition.

The optional rounds of a repetition are cut short in two ways: only places that were just gained
are tried again, and there are never more rounds than places. The first is an invariant of the
loop, `Explored`: every place reached so far that is no longer fresh has had its turn. The second
is a count. As long as a round gains anything, one place fewer is missing, so that after as many
rounds as there are places nothing can be gained, and the result is closed under another lap.

## Main definitions

* `PlaceSet.Within`: All members are places of the text.
* `Moves`: A function moves a set as a relation moves its members.
* `Explored`: Places that are not fresh have had their turn.

## Theorems

* `Moves.rounds`: Mandatory rounds make as many laps.
* `Moves.mem_closure_iff`: Optional rounds make at most as many laps.
* `Moves.closed_closure`: With as many rounds as there are places, nothing is left to gain.
* `Sweep.moves_run`: A located expression moves places as its matches do.
* `Regex.occursIn_iff`: A sweep finds a match exactly if there is one.
-/

namespace CloneScan

namespace PlaceSet

theorem testBit_ofList (entries : List Bool) (i : Nat) :
    (ofList entries).testBit i = entries[i]?.getD false := by
  induction entries generalizing i with
  | nil => exact Nat.zero_testBit i
  | cons b rest ih =>
      rw [ofList]
      cases i with
      | zero =>
          rw [Nat.testBit_zero, List.getElem?_cons_zero, Option.getD_some]
          cases b with
          | true => simp only [Bool.toNat_true, decide_eq_true_eq]; omega
          | false => simp only [Bool.toNat_false, decide_eq_false_iff_not]; omega
      | succ i =>
          have hhalf : ∀ n : Nat, (2 * n + b.toNat) / 2 = n := fun n => by
            have hbit := b.toNat_le
            omega
          rw [Nat.testBit_succ, hhalf, ih, List.getElem?_cons_succ]

theorem testBit_upTo (length i : Nat) : (upTo length).testBit i = decide (i ≤ length) := by
  have hpow : upTo length = 2 ^ (length + 1) - 1 := rfl
  rw [hpow, Nat.testBit_two_pow_sub_one]
  exact decide_eq_decide.mpr Nat.lt_succ_iff

theorem testBit_minus (s t : PlaceSet) (i : Nat) :
    (s.minus t).testBit i = (s.testBit i && !t.testBit i) := by
  rw [minus, Nat.testBit_xor, Nat.testBit_and]
  cases s.testBit i with
  | true => rw [Bool.true_and, Bool.true_and, Bool.true_xor]
  | false => rw [Bool.false_and, Bool.false_and, Bool.false_xor]

/-- All members are places of a text of the given length. -/
def Within (s : PlaceSet) (length : Nat) : Prop :=
  ∀ i, s.testBit i = true → i ≤ length

end PlaceSet

theorem getElem?_neighbours_zero (before : Option Char) (text : List Char) :
    (neighbours before text)[0]? = some (before, text[0]?) := by
  cases text with
  | nil => rfl
  | cons c rest => rfl

theorem getElem?_neighbours_succ {text : List Char} {i : Nat} (before : Option Char)
    (h : i < text.length) :
    (neighbours before text)[i + 1]? = some (text[i]?, text[i + 1]?) := by
  induction text generalizing before i with
  | nil => exact absurd h (Nat.not_lt_zero i)
  | cons c rest ih =>
      rw [neighbours, List.getElem?_cons_succ, List.getElem?_cons_succ]
      cases i with
      | zero => exact getElem?_neighbours_zero (some c) rest
      | succ i => exact ih (some c) (Nat.lt_of_succ_lt_succ h)

/-- Every place of a text has its two neighbours. -/
theorem getElem?_neighbours {text : List Char} {i : Nat} (h : i ≤ text.length) :
    (neighbours none text)[i]? = some (Regex.before text i, text[i]?) := by
  cases i with
  | zero => exact getElem?_neighbours_zero none text
  | succ i => exact getElem?_neighbours_succ none h

/-- A function moves a set of places as a relation moves its members, and the relation does not lead
    out of the text. -/
structure Moves (length : Nat) (round : PlaceSet → PlaceSet) (leads : Nat → Nat → Prop) :
    Prop where
  within : ∀ i j, leads i j → i ≤ length → j ≤ length
  mem_iff : ∀ s : PlaceSet, s.Within length → ∀ j,
    (round s).testBit j = true ↔ ∃ i, s.testBit i = true ∧ leads i j

/-- Every reached place that is not fresh leads only to places that are reached. -/
structure Explored (leads : Nat → Nat → Prop) (reached fresh : PlaceSet) : Prop where
  fresh_reached : ∀ i, fresh.testBit i = true → reached.testBit i = true
  tried : ∀ i, reached.testBit i = true → fresh.testBit i = false →
    ∀ j, leads i j → reached.testBit j = true

/-- Before the first round, every place is fresh. -/
theorem Explored.start (leads : Nat → Nat → Prop) (places : PlaceSet) :
    Explored leads places places :=
  ⟨fun _ hi => hi, fun _ hi hold => absurd (hi.symm.trans hold) Bool.true_eq_false.mp⟩

/-- The number of places that are not reached. -/
def missing (length : Nat) (reached : PlaceSet) : Nat :=
  ((Finset.range (length + 1)).filter fun i => reached.testBit i = false).card

namespace Moves

variable {length : Nat} {round : PlaceSet → PlaceSet} {leads : Nat → Nat → Prop}

theorem keeps (h : Moves length round leads) {s : PlaceSet} (hs : s.Within length) :
    (round s).Within length := by
  intro j hj
  rcases (h.mem_iff s hs j).mp hj with ⟨i, hi, hleads⟩
  exact h.within i j hleads (hs i hi)

theorem rounds_of_fixed {s : PlaceSet} (h : round s = s) (n : Nat) :
    Sweep.rounds round n s = s := by
  cases n with
  | zero => rfl
  | succ n => rw [Sweep.rounds, if_pos h]

/-- A round that changes nothing may as well be made. -/
theorem rounds_succ (n : Nat) (s : PlaceSet) :
    Sweep.rounds round (n + 1) s = Sweep.rounds round n (round s) := by
  rw [Sweep.rounds]
  by_cases hfixed : round s = s
  · rw [if_pos hfixed, hfixed, rounds_of_fixed hfixed]
  · rw [if_neg hfixed]

/-- A number of rounds makes as many laps. -/
theorem rounds (h : Moves length round leads) (n : Nat) :
    Moves length (Sweep.rounds round n) (Laps leads n) := by
  refine ⟨fun i j hlaps hi => hlaps.preserves (· ≤ length) h.within hi, ?_⟩
  induction n with
  | zero =>
      intro s _ j
      constructor
      · exact fun hj => ⟨j, hj, .none⟩
      · rintro ⟨i, hi, hlaps⟩
        cases hlaps with
        | none => exact hi
  | succ n ih =>
      intro s hs j
      rw [rounds_succ, ih (round s) (h.keeps hs) j]
      constructor
      · rintro ⟨k, hk, hlaps⟩
        rcases (h.mem_iff s hs k).mp hk with ⟨i, hi, hleads⟩
        exact ⟨i, hi, .more hleads hlaps⟩
      · rintro ⟨i, hi, hlaps⟩
        cases hlaps with
        | more first rest => exact ⟨_, (h.mem_iff s hs _).mpr ⟨i, hi, first⟩, rest⟩

/-- What a round gains: the places that fresh ones lead to and that were not reached before. -/
theorem mem_gained_iff (h : Moves length round leads) {reached fresh : PlaceSet}
    (hfresh : fresh.Within length) (j : Nat) :
    ((round fresh).minus reached).testBit j = true ↔
      (∃ i, fresh.testBit i = true ∧ leads i j) ∧ reached.testBit j = false := by
  rw [PlaceSet.testBit_minus, Bool.and_eq_true, Bool.not_eq_true', h.mem_iff fresh hfresh]

/-- With what a round gains, every place reached before the round has had its turn. -/
theorem leads_to_reached (h : Moves length round leads) {reached fresh : PlaceSet}
    (hfresh : fresh.Within length) (hexplored : Explored leads reached fresh) {i j : Nat}
    (hi : reached.testBit i = true) (hleads : leads i j) :
    (reached ||| (round fresh).minus reached).testBit j = true := by
  rw [Nat.testBit_or, Bool.or_eq_true]
  by_cases hj : reached.testBit j = true
  · exact Or.inl hj
  · have hnew := Bool.not_eq_true _ ▸ hj
    refine Or.inr ((h.mem_gained_iff hfresh j).mpr ⟨⟨i, ?_, hleads⟩, hnew⟩)
    by_contra hold
    exact hj (hexplored.tried i hi (Bool.not_eq_true _ ▸ hold) j hleads)

/-- A round keeps the invariant of the loop. -/
theorem explored_gained (h : Moves length round leads) {reached fresh : PlaceSet}
    (hfresh : fresh.Within length) (hexplored : Explored leads reached fresh) :
    Explored leads (reached ||| (round fresh).minus reached) ((round fresh).minus reached) := by
  constructor
  · intro i hi
    rw [Nat.testBit_or, hi, Bool.or_true]
  · intro i hi hold j hleads
    rw [Nat.testBit_or, hold, Bool.or_false] at hi
    exact h.leads_to_reached hfresh hexplored hi hleads

theorem within_gained (h : Moves length round leads) {fresh : PlaceSet}
    (hfresh : fresh.Within length) (reached : PlaceSet) :
    ((round fresh).minus reached).Within length := by
  intro i hi
  rw [PlaceSet.testBit_minus, Bool.and_eq_true] at hi
  exact h.keeps hfresh i hi.1

/-- Optional rounds add what some laps fewer than the limit lead to. -/
theorem mem_closure_iff (h : Moves length round leads) (limit : Nat) {reached fresh : PlaceSet}
    (hreached : reached.Within length) (hexplored : Explored leads reached fresh) (j : Nat) :
    (Sweep.closure round limit reached fresh).testBit j = true ↔
      ∃ n ≤ limit, ∃ i, reached.testBit i = true ∧ Laps leads n i j := by
  induction limit generalizing reached fresh with
  | zero =>
      rw [Sweep.closure]
      constructor
      · exact fun hj => ⟨0, Nat.le_refl 0, j, hj, .none⟩
      · rintro ⟨n, hn, i, hi, hlaps⟩
        obtain rfl := Nat.le_zero.mp hn
        cases hlaps with
        | none => exact hi
  | succ limit ih =>
      have hfresh : fresh.Within length := fun i hi => hreached i (hexplored.fresh_reached i hi)
      rw [Sweep.closure]
      by_cases hnothing : (round fresh).minus reached = 0
      · -- Nothing is gained, so the reached places are closed under a lap.
        rw [if_pos hnothing]
        constructor
        · exact fun hj => ⟨0, Nat.zero_le _, j, hj, .none⟩
        · rintro ⟨n, _, i, hi, hlaps⟩
          refine hlaps.preserves (fun i => reached.testBit i = true) (fun a b hleads ha => ?_) hi
          have hb := h.leads_to_reached hfresh hexplored ha hleads
          rwa [hnothing, Nat.or_zero] at hb
      · rw [if_neg hnothing, ih _ (h.explored_gained hfresh hexplored)]
        · constructor
          · rintro ⟨n, hn, i, hi, hlaps⟩
            rw [Nat.testBit_or, Bool.or_eq_true] at hi
            rcases hi with hold | hnew
            · exact ⟨n, Nat.le_succ_of_le hn, i, hold, hlaps⟩
            · rcases ((h.mem_gained_iff hfresh i).mp hnew).1 with ⟨start, hstart, hleads⟩
              exact ⟨n + 1, Nat.succ_le_succ hn, start, hexplored.fresh_reached start hstart,
                .more hleads hlaps⟩
          · rintro ⟨n, hn, i, hi, hlaps⟩
            cases hlaps with
            | none =>
                exact ⟨0, Nat.zero_le _, j, by rw [Nat.testBit_or, hi, Bool.true_or], .none⟩
            | more first rest =>
                exact ⟨_, Nat.le_of_succ_le_succ hn, _,
                  h.leads_to_reached hfresh hexplored hi first, rest⟩
        · intro i hi
          rw [Nat.testBit_or, Bool.or_eq_true] at hi
          exact hi.elim (hreached i) (h.within_gained hfresh reached i)

/-- A round that gains anything leaves fewer places missing. -/
theorem missing_lt (h : Moves length round leads) {reached fresh : PlaceSet}
    (hfresh : fresh.Within length) (hgained : (round fresh).minus reached ≠ 0) :
    missing length (reached ||| (round fresh).minus reached) < missing length reached := by
  rcases Nat.exists_testBit_of_ne_zero hgained with ⟨new, hnew⟩
  have hplace := h.within_gained hfresh reached new hnew
  refine Finset.card_lt_card ((Finset.ssubset_iff_of_subset fun i hi => ?_).mpr ⟨new, ?_, ?_⟩)
  · rw [Finset.mem_filter, Nat.testBit_or, Bool.or_eq_false_iff] at hi
    exact Finset.mem_filter.mpr ⟨hi.1, hi.2.1⟩
  · exact Finset.mem_filter.mpr ⟨Finset.mem_range.mpr (Nat.lt_succ_of_le hplace),
      ((h.mem_gained_iff hfresh new).mp hnew).2⟩
  · rw [Finset.mem_filter, Nat.testBit_or, hnew, Bool.or_true]
    exact fun hmem => Bool.noConfusion hmem.2

/-- With as many rounds as places are missing, the result is closed under a lap. -/
theorem closed_closure (h : Moves length round leads) {limit : Nat} {reached fresh : PlaceSet}
    (hreached : reached.Within length) (hexplored : Explored leads reached fresh)
    (hlimit : missing length reached ≤ limit) (i j : Nat) (hleads : leads i j)
    (hi : (Sweep.closure round limit reached fresh).testBit i = true) :
    (Sweep.closure round limit reached fresh).testBit j = true := by
  induction limit generalizing reached fresh with
  | zero =>
      -- No place is missing.
      rw [Sweep.closure] at hi ⊢
      have hplace := h.within i j hleads (hreached i hi)
      by_contra hj
      have hnone := Finset.card_eq_zero.mp (Nat.le_zero.mp hlimit)
      have hmem : j ∈ (Finset.range (length + 1)).filter fun i => reached.testBit i = false :=
        Finset.mem_filter.mpr
          ⟨Finset.mem_range.mpr (Nat.lt_succ_of_le hplace), Bool.not_eq_true _ ▸ hj⟩
      rw [hnone] at hmem
      exact absurd hmem (Finset.notMem_empty j)
  | succ limit ih =>
      have hfresh : fresh.Within length := fun i hi => hreached i (hexplored.fresh_reached i hi)
      rw [Sweep.closure] at hi ⊢
      by_cases hnothing : (round fresh).minus reached = 0
      · rw [if_pos hnothing] at hi ⊢
        have hj := h.leads_to_reached hfresh hexplored hi hleads
        rwa [hnothing, Nat.or_zero] at hj
      · rw [if_neg hnothing] at hi ⊢
        refine ih (fun k hk => ?_) (h.explored_gained hfresh hexplored)
          (Nat.le_of_lt_succ ((h.missing_lt hfresh hnothing).trans_le hlimit)) hi
        rw [Nat.testBit_or, Bool.or_eq_true] at hk
        exact hk.elim (hreached k) (h.within_gained hfresh reached k)

/-- As many rounds as a text has places make any number of laps. -/
theorem mem_closure_places_iff (h : Moves length round leads) {start : PlaceSet}
    (hstart : start.Within length) (j : Nat) :
    (Sweep.closure round (length + 1) start start).testBit j = true ↔
      ∃ n i, start.testBit i = true ∧ Laps leads n i j := by
  have hiff := h.mem_closure_iff (length + 1) hstart (.start leads start)
  constructor
  · intro hj
    rcases (hiff j).mp hj with ⟨n, _, i, hi, hlaps⟩
    exact ⟨n, i, hi, hlaps⟩
  · rintro ⟨n, i, hi, hlaps⟩
    have hmissing : missing length start ≤ length + 1 :=
      (Finset.card_filter_le _ _).trans_eq (Finset.card_range _)
    exact hlaps.preserves (fun i =>
        (Sweep.closure round (length + 1) start start).testBit i = true)
      (h.closed_closure hstart (.start leads start) hmissing)
      ((hiff i).mpr ⟨0, Nat.zero_le _, i, hi, .none⟩)

end Moves

namespace Sweep

variable {length : Nat}

/-- The optional rounds that a sweep allows for are enough. -/
theorem mem_closure_extra_iff {round : PlaceSet → PlaceSet} {leads : Nat → Nat → Prop}
    (h : Moves length round leads) {start : PlaceSet} (hstart : start.Within length)
    (limit j : Nat) :
    (closure round (min limit (length + 1)) start start).testBit j = true ↔
      ∃ n ≤ limit, ∃ i, start.testBit i = true ∧ Laps leads n i j := by
  by_cases hfew : limit ≤ length + 1
  · rw [Nat.min_eq_left hfew]
    exact h.mem_closure_iff limit hstart (.start leads start) j
  · rw [Nat.min_eq_right (Nat.le_of_not_le hfew)]
    constructor
    · intro hj
      rcases (h.mem_closure_iff _ hstart (.start leads start) j).mp hj with ⟨n, hn, hlaps⟩
      exact ⟨n, hn.trans (Nat.le_of_not_le hfew), hlaps⟩
    · rintro ⟨n, _, i, hi, hlaps⟩
      exact (h.mem_closure_places_iff hstart j).mpr ⟨n, i, hi, hlaps⟩

/-- A repeated sweep makes as many laps as its bounds allow. -/
theorem moves_repeated {a : Sweep} {leads : Nat → Nat → Prop}
    (h : Moves length (a.run length) leads) {least : Nat} {most : Option Nat}
    (hbounds : ∀ m ∈ most, least ≤ m) :
    Moves length ((Sweep.repeated a least most).run length)
      (fun i j => ∃ n, least ≤ n ∧ (∀ m ∈ most, n ≤ m) ∧ Laps leads n i j) := by
  refine ⟨fun i j hlaps hi => ?_, fun s hs j => ?_⟩
  · rcases hlaps with ⟨n, _, _, hlaps⟩
    exact (h.rounds n).within i j hlaps hi
  have hmandatory := h.rounds least
  have hstart := hmandatory.keeps hs
  -- The optional laps come after the mandatory ones, with a limit of their own.
  have hextra : ((Sweep.repeated a least most).run length s).testBit j = true ↔
      ∃ n, (∀ m ∈ most, n ≤ m - least) ∧
        ∃ k, (rounds (a.run length) least s).testBit k = true ∧ Laps leads n k j := by
    cases most with
    | none =>
        simp only [run, h.mem_closure_places_iff hstart, Option.mem_def, reduceCtorEq,
          false_implies, implies_true, true_and]
    | some m =>
        simp only [run, mem_closure_extra_iff h hstart, Option.mem_def, Option.some.injEq,
          forall_eq']
  rw [hextra]
  constructor
  · rintro ⟨n, hn, k, hk, hoptional⟩
    rcases (hmandatory.mem_iff s hs k).mp hk with ⟨i, hi, hlaps⟩
    refine ⟨i, hi, least + n, Nat.le_add_right _ _, fun m hm => ?_, hlaps.append hoptional⟩
    have hleast := hbounds m hm
    have hmost := hn m hm
    omega
  · rintro ⟨i, hi, n, hleast, hmost, hlaps⟩
    rw [← Nat.add_sub_cancel' hleast] at hlaps
    rcases hlaps.split with ⟨k, hfirst, hsecond⟩
    exact ⟨n - least, fun m hm => Nat.sub_le_sub_right (hmost m hm) least, k,
      (hmandatory.mem_iff s hs k).mpr ⟨i, hi, hfirst⟩, hsecond⟩

/-- A located expression moves places as its matches do. -/
theorem moves_run (text : List Char) {r : Regex} (hbounds : r.HasOrderedBounds) :
    Moves text.length ((r.locate text).run text.length) (Regex.Spans text r) := by
  induction r with
  | empty =>
      refine ⟨fun _ _ h => h.le_length, fun s _ j => ⟨fun hj => ⟨j, hj, .empty⟩, ?_⟩⟩
      rintro ⟨i, hi, hspan⟩
      cases hspan with
      | empty => exact hi
  | one set =>
      refine ⟨fun _ _ h => h.le_length, fun s _ j => ?_⟩
      rw [Regex.locate, run, Nat.testBit_shiftLeft, Bool.and_eq_true, Nat.testBit_and,
        Bool.and_eq_true, PlaceSet.testBit_ofList, decide_eq_true_iff, List.getElem?_map]
      constructor
      · rintro ⟨hpos, hmem, hset⟩
        cases hchar : text[j - 1]? with
        | none => rw [hchar] at hset; exact Bool.noConfusion hset
        | some c =>
            rw [hchar] at hset
            have hspan := Regex.Spans.one hchar hset
            rw [Nat.sub_add_cancel hpos] at hspan
            exact ⟨j - 1, hmem, hspan⟩
      · rintro ⟨i, hi, hspan⟩
        cases hspan with
        | one at_place member =>
            rw [Nat.add_sub_cancel, at_place]
            exact ⟨Nat.le_add_left 1 i, hi, member⟩
  | look l =>
      refine ⟨fun _ _ h => h.le_length, fun s hs j => ?_⟩
      rw [Regex.locate, run, Nat.testBit_and, Bool.and_eq_true, PlaceSet.testBit_ofList,
        List.getElem?_map]
      constructor
      · rintro ⟨hj, hholds⟩
        rw [getElem?_neighbours (hs j hj)] at hholds
        exact ⟨j, hj, .look hholds⟩
      · rintro ⟨i, hi, hspan⟩
        cases hspan with
        | look holds =>
            rw [getElem?_neighbours (hs _ hi)]
            exact ⟨hi, holds⟩
  | seq r s ihr ihs =>
      have hr := ihr hbounds.1
      have hs := ihs hbounds.2
      refine ⟨fun _ _ h => h.le_length, fun places hplaces j => ?_⟩
      rw [Regex.locate, run, hs.mem_iff _ (hr.keeps hplaces)]
      constructor
      · rintro ⟨k, hk, hsecond⟩
        rcases (hr.mem_iff _ hplaces k).mp hk with ⟨i, hi, hfirst⟩
        exact ⟨i, hi, .seq hfirst hsecond⟩
      · rintro ⟨i, hi, hspan⟩
        cases hspan with
        | seq first second => exact ⟨_, (hr.mem_iff _ hplaces _).mpr ⟨i, hi, first⟩, second⟩
  | alt r s ihr ihs =>
      have hr := ihr hbounds.1
      have hs := ihs hbounds.2
      refine ⟨fun _ _ h => h.le_length, fun places hplaces j => ?_⟩
      rw [Regex.locate, run, Nat.testBit_or, Bool.or_eq_true, hr.mem_iff _ hplaces,
        hs.mem_iff _ hplaces]
      constructor
      · rintro (⟨i, hi, hspan⟩ | ⟨i, hi, hspan⟩)
        · exact ⟨i, hi, .altFirst hspan⟩
        · exact ⟨i, hi, .altSecond hspan⟩
      · rintro ⟨i, hi, hspan⟩
        cases hspan with
        | altFirst first => exact Or.inl ⟨i, hi, first⟩
        | altSecond second => exact Or.inr ⟨i, hi, second⟩
  | repeated body least most ih =>
      have hbody := moves_repeated (ih hbounds.1) hbounds.2
      refine ⟨fun _ _ h => h.le_length, fun places hplaces j => ?_⟩
      rw [Regex.locate, hbody.mem_iff _ hplaces]
      simp only [Regex.spans_repeated_iff]

end Sweep

/-- A sweep finds a match exactly if there is one. -/
theorem Regex.occursIn_iff {r : Regex} (hbounds : r.HasOrderedBounds) (text : List Char) :
    r.occursIn text = true ↔ r.Occurs text := by
  have hall : (PlaceSet.upTo text.length).Within text.length := fun i hi =>
    of_decide_eq_true (PlaceSet.testBit_upTo text.length i ▸ hi)
  have hmoves := (Sweep.moves_run text hbounds).mem_iff _ hall
  rw [occursIn, bne_iff_ne]
  constructor
  · intro hsome
    rcases Nat.exists_testBit_of_ne_zero hsome with ⟨j, hj⟩
    rcases (hmoves j).mp hj with ⟨i, hi, hspan⟩
    exact ⟨i, j, hall i hi, hspan⟩
  · rintro ⟨i, j, hi, hspan⟩ hnone
    have hstart : (PlaceSet.upTo text.length).testBit i = true := by
      rw [PlaceSet.testBit_upTo]
      exact decide_eq_true hi
    have hj := (hmoves j).mpr ⟨i, hstart, hspan⟩
    rw [hnone, Nat.zero_testBit] at hj
    exact Bool.noConfusion hj

end CloneScan
