import CloneScan.Proofs.Regex.Laps
import CloneScan.Proofs.Regex.Steps
import CloneScan.Regex.Meaning

/-!
# The Bounds of Repetitions

A sweep makes the mandatory rounds of a repetition before the optional ones, and so it counts on a
least number that is not above the greatest. A pattern that is read has no other repetitions. The
reader refuses bounds in the wrong order; what it keeps of the pattern, in the groups that are open
as well as in the one underway, is ordered after each piece if it was before (`ordered_act`), and
the meaning of a pattern takes its bounds over.

## Main definitions

* `Pattern.HasOrderedBounds`: No repetition has a least number above its greatest.
* `Action.Sound`: What is known of what a piece does.
* `PatternReader.Ordered`: All that has been read has its bounds in order.

## Theorems

* `readAction_sound`: What a piece does, by the character it starts with.
* `Pattern.ordered_of_ofChars`: A pattern that is read has its bounds in order.
* `Pattern.ordered_of_toRegex`: So has the expression that it is.
-/

namespace CloneScan

open PatternReader

namespace Pattern

mutual

/-- No repetition has a least number above its greatest. -/
def HasOrderedBounds : Pattern → Prop
  | empty | flags _ | char _ | dot | anchor _ | letter _ _ | property _ _ | set _ _ => True
  | repeated p least most => p.HasOrderedBounds ∧ ∀ m ∈ most, least ≤ m
  | group _ p => p.HasOrderedBounds
  | concat ps | branches ps => AllHaveOrderedBounds ps

/-- None of several patterns has a repetition with a least number above its greatest. -/
def AllHaveOrderedBounds : List Pattern → Prop
  | [] => True
  | p :: ps => p.HasOrderedBounds ∧ AllHaveOrderedBounds ps

end

theorem allHaveOrderedBounds_iff {ps : List Pattern} :
    AllHaveOrderedBounds ps ↔ ∀ p ∈ ps, p.HasOrderedBounds := by
  induction ps with
  | nil => exact iff_of_true trivial nofun
  | cons p ps ih => rw [AllHaveOrderedBounds, ih, List.forall_mem_cons]

theorem ordered_ofItems {ps : List Pattern} (h : ∀ p ∈ ps, p.HasOrderedBounds) :
    (ofItems ps).HasOrderedBounds := by
  rcases ps with _ | ⟨p, _ | ⟨q, ps⟩⟩
  · trivial
  · exact h p List.mem_cons_self
  · exact allHaveOrderedBounds_iff.mpr h

theorem ordered_ofBranches {ps : List Pattern} (h : ∀ p ∈ ps, p.HasOrderedBounds) :
    (ofBranches ps).HasOrderedBounds := by
  rcases ps with _ | ⟨p, _ | ⟨q, ps⟩⟩
  · trivial
  · exact h p List.mem_cons_self
  · exact allHaveOrderedBounds_iff.mpr h

/-- A set of characters repeats nothing. -/
theorem ordered_of_one {members : Except PatternError CharSet} {f f' : Flags} {r : Regex}
    (h : (do return (.one (← members), f)) = Except.ok (r, f')) : r.HasOrderedBounds := by
  rcases bind_eq_ok.mp h with ⟨s, _, hs⟩
  obtain rfl := (Prod.mk.inj (Except.ok.inj hs)).1
  trivial

mutual

/-- The meaning of a pattern takes its bounds over. -/
theorem ordered_of_toRegex {p : Pattern} (h : p.HasOrderedBounds) {f f' : Flags} {r : Regex}
    (hr : p.toRegex f = .ok (r, f')) : r.HasOrderedBounds := by
  -- Only a repetition adds bounds. The flags differ from part to part and do not matter.
  cases p with
  | empty =>
      obtain rfl := (Prod.mk.inj (Except.ok.inj hr)).1
      trivial
  | flags change =>
      obtain rfl := (Prod.mk.inj (Except.ok.inj hr)).1
      trivial
  | anchor a =>
      obtain rfl := (Prod.mk.inj (Except.ok.inj hr)).1
      trivial
  | char l => exact ordered_of_one hr
  | dot => exact ordered_of_one hr
  | letter l negated => exact ordered_of_one hr
  | property q negated => exact ordered_of_one hr
  | set negated s =>
      rcases bind_eq_ok.mp hr with ⟨members, _, hset⟩
      exact ordered_of_one hset
  | repeated p least most =>
      have hbounds : p.HasOrderedBounds ∧ ∀ m ∈ most, least ≤ m := h
      rcases bind_eq_ok.mp hr with ⟨⟨body, after⟩, hbody, hpair⟩
      obtain rfl := (Prod.mk.inj (Except.ok.inj hpair)).1
      exact ⟨ordered_of_toRegex hbounds.1 hbody, hbounds.2⟩
  | group change p =>
      have hbounds : p.HasOrderedBounds := h
      rcases bind_eq_ok.mp hr with ⟨⟨body, after⟩, hbody, hpair⟩
      obtain rfl := (Prod.mk.inj (Except.ok.inj hpair)).1
      exact ordered_of_toRegex hbounds hbody
  | concat ps => exact ordered_of_concatOf h hr
  | branches ps => exact ordered_of_branchesOf h hr

theorem ordered_of_concatOf {ps : List Pattern} (h : AllHaveOrderedBounds ps) {f f' : Flags}
    {r : Regex} (hr : concatOf f ps = .ok (r, f')) : r.HasOrderedBounds := by
  cases ps with
  | nil =>
      obtain rfl := (Prod.mk.inj (Except.ok.inj hr)).1
      trivial
  | cons p ps =>
      rcases bind_eq_ok.mp hr with ⟨⟨first, after⟩, hfirst, hrest⟩
      rcases bind_eq_ok.mp hrest with ⟨⟨second, last⟩, hsecond, hpair⟩
      obtain rfl := (Prod.mk.inj (Except.ok.inj hpair)).1
      exact ⟨ordered_of_toRegex h.1 hfirst, ordered_of_concatOf h.2 hsecond⟩

theorem ordered_of_branchesOf {ps : List Pattern} (h : AllHaveOrderedBounds ps) {f f' : Flags}
    {r : Regex} (hr : branchesOf f ps = .ok (r, f')) : r.HasOrderedBounds := by
  cases ps with
  | nil =>
      obtain rfl := (Prod.mk.inj (Except.ok.inj hr)).1
      trivial
  | cons p ps =>
      rcases bind_eq_ok.mp hr with ⟨⟨first, after⟩, hfirst, hrest⟩
      rcases bind_eq_ok.mp hrest with ⟨⟨second, last⟩, hsecond, hpair⟩
      obtain rfl := (Prod.mk.inj (Except.ok.inj hpair)).1
      exact ⟨ordered_of_toRegex h.1 hfirst, ordered_of_branchesOf h.2 hsecond⟩

end

end Pattern

namespace PatternReader

/-! ## One piece -/

/-- What is known of what a piece does, by the character it starts with. -/
def Action.Sound (c : Char) : Action → Prop
  | add p => p.HasOrderedBounds
  | leave => c = ')'
  | repeatLast least most => ∀ m ∈ most, least ≤ m
  | enter _ | split => True

theorem le_of_readMostEnd {extended : Bool} {least most : Nat} {text left : List Char}
    {bounds : Nat × Option Nat} (h : readMostEnd extended least most text = .ok (bounds, left)) :
    ∀ m ∈ bounds.2, bounds.1 ≤ m := by
  rcases text with _ | ⟨c, rest⟩
  · exact absurd h error_ne_ok
  rw [readMostEnd, onFirst] at h
  by_cases hend : c = '\x7d'
  · rw [if_pos hend] at h
    by_cases horder : least ≤ most
    · rw [if_pos horder] at h
      obtain rfl := (Prod.mk.inj (Except.ok.inj h)).1
      exact fun m hm => Option.some.inj hm ▸ horder
    · -- Bounds in the wrong order are refused.
      rw [if_neg horder] at h
      exact absurd h error_ne_ok
  · rw [if_neg hend] at h
    exact absurd h error_ne_ok

theorem le_of_readMost {extended : Bool} {least : Nat} {text left : List Char}
    {bounds : Nat × Option Nat} (h : readMost extended least text = .ok (bounds, left)) :
    ∀ m ∈ bounds.2, bounds.1 ≤ m := by
  rcases text with _ | ⟨c, rest⟩
  · exact absurd h error_ne_ok
  rw [readMost, onFirst] at h
  by_cases hend : c = '\x7d'
  · rw [if_pos hend] at h
    obtain rfl := (Prod.mk.inj (Except.ok.inj h)).1
    exact fun m hm => absurd hm (Option.not_mem_none m)
  · rw [if_neg hend] at h
    rcases bind_eq_ok.mp h with ⟨_, _, hmost⟩
    exact le_of_readMostEnd hmost

theorem le_of_readCount {extended : Bool} {text left : List Char} {bounds : Nat × Option Nat}
    (h : readCount extended text = .ok (bounds, left)) : ∀ m ∈ bounds.2, bounds.1 ≤ m := by
  rw [readCount_eq] at h
  rcases bind_eq_ok.mp h with ⟨⟨least, _ | ⟨c, rest⟩⟩, _, hend⟩
  · exact absurd hend error_ne_ok
  rw [readCountEnd, onFirst] at hend
  by_cases hclose : c = '\x7d'
  · -- One number is both bounds.
    rw [if_pos hclose] at hend
    obtain rfl := (Prod.mk.inj (Except.ok.inj hend)).1
    exact fun m hm => Nat.le_of_eq (Option.some.inj hm)
  rw [if_neg hclose] at hend
  by_cases hcomma : c = ','
  · rw [if_pos hcomma] at hend
    exact le_of_readMost hend
  · rw [if_neg hcomma] at hend
    exact absurd hend error_ne_ok

theorem readAction_sound {extended : Bool} {c : Char} {rest left : List Char} {action : Action}
    (h : readAction extended c rest = .ok (action, left)) : action.Sound c := by
  unfold readAction at h
  split at h
  · rcases bind_eq_ok.mp h with ⟨_, _, hpair⟩
    obtain rfl := (Prod.mk.inj (Except.ok.inj hpair)).1
    trivial
  · obtain rfl := (Prod.mk.inj (Except.ok.inj h)).1
    rfl
  · obtain rfl := (Prod.mk.inj (Except.ok.inj h)).1
    trivial
  · rcases bind_eq_ok.mp h with ⟨⟨p, after⟩, hset, hpair⟩
    obtain rfl := (Prod.mk.inj (Except.ok.inj hpair)).1
    rcases bind_eq_ok.mp hset with ⟨_, _, hbody⟩
    rcases bind_eq_ok.mp hbody with ⟨_, _, hmembers⟩
    obtain rfl := (Prod.mk.inj (Except.ok.inj hmembers)).1
    trivial
  · obtain rfl := (Prod.mk.inj (Except.ok.inj h)).1
    exact fun m _ => Nat.zero_le m
  · obtain rfl := (Prod.mk.inj (Except.ok.inj h)).1
    exact nofun
  · obtain rfl := (Prod.mk.inj (Except.ok.inj h)).1
    exact nofun
  · rcases bind_eq_ok.mp h with ⟨_, hcount, hpair⟩
    obtain rfl := (Prod.mk.inj (Except.ok.inj hpair)).1
    exact le_of_readCount hcount
  · rcases bind_eq_ok.mp h with ⟨⟨e, after⟩, _, hpair⟩
    obtain rfl := (Prod.mk.inj (Except.ok.inj hpair)).1
    cases e with
    | char l => trivial
    | letter l negated => trivial
    | property q negated => trivial
    | anchor a => trivial
  all_goals
    obtain rfl := (Prod.mk.inj (Except.ok.inj h)).1
    trivial

/-! ## All pieces -/

/-- What has been read of a group has its bounds in order. -/
def Level.Ordered (l : Level) : Prop :=
  (∀ p ∈ l.branches, p.HasOrderedBounds) ∧ ∀ p ∈ l.items, p.HasOrderedBounds

namespace Level.Ordered

variable {l : Level}

theorem start : Level.start.Ordered :=
  ⟨nofun, nofun⟩

theorem add (h : l.Ordered) {p : Pattern} (hp : p.HasOrderedBounds) : (l.add p).Ordered :=
  ⟨h.1, List.forall_mem_cons.mpr ⟨hp, h.2⟩⟩

theorem split (h : l.Ordered) : l.split.Ordered :=
  ⟨List.forall_mem_cons.mpr
    ⟨Pattern.ordered_ofItems fun p hp => h.2 p (List.mem_reverse.mp hp), h.1⟩, nofun⟩

theorem toPattern (h : l.Ordered) : l.toPattern.HasOrderedBounds :=
  Pattern.ordered_ofBranches fun p hp => h.split.1 p (List.mem_reverse.mp hp)

theorem repeatLast (h : l.Ordered) {least : Nat} {most : Option Nat}
    (hbounds : ∀ m ∈ most, least ≤ m) {l' : Level} (hl : l.repeatLast least most = .ok l') :
    l'.Ordered := by
  unfold Level.repeatLast at hl
  split at hl
  · exact absurd hl error_ne_ok
  · next p rest hitems =>
      by_cases hrepeat : p.isRepeatable = true
      · rw [if_pos hrepeat] at hl
        obtain rfl := Except.ok.inj hl
        have hmembers := h.2
        rw [hitems] at hmembers
        have hlast := hmembers p List.mem_cons_self
        exact ⟨h.1, List.forall_mem_cons.mpr
          ⟨⟨hlast, hbounds⟩, fun q hq => hmembers q (List.mem_cons_of_mem p hq)⟩⟩
      · rw [if_neg hrepeat] at hl
        exact absurd hl error_ne_ok

end Level.Ordered

/-- All that has been read has its bounds in order, in the groups that are open too. -/
def Ordered (r : PatternReader) : Prop :=
  r.level.Ordered ∧ ∀ g ∈ r.groups, g.outer.Ordered

theorem ordered_act {r r' : PatternReader} {action : Action} {c : Char} (h : r.Ordered)
    (hsound : action.Sound c) (hact : r.act action = .ok r') : r'.Ordered := by
  -- Opening and closing move what has been read between the level and the groups.
  have hinside : ∀ change, (r.inside change).Ordered := fun change =>
    ⟨.start, List.forall_mem_cons.mpr ⟨h.1, h.2⟩⟩
  cases action with
  | add p => exact Except.ok.inj hact ▸ ⟨h.1.add hsound, h.2⟩
  | split => exact Except.ok.inj hact ▸ ⟨h.1.split, h.2⟩
  | repeatLast least most =>
      rcases bind_eq_ok.mp hact with ⟨level, hlevel, hr⟩
      exact Except.ok.inj hr ▸ ⟨h.1.repeatLast hsound hlevel, h.2⟩
  | leave =>
      rw [act, leave] at hact
      cases hgroups : r.groups with
      | nil => rw [hgroups] at hact; exact absurd hact error_ne_ok
      | cons g outer =>
          have hgroup : ∀ q ∈ g :: outer, q.outer.Ordered := hgroups ▸ h.2
          rw [hgroups] at hact
          exact Except.ok.inj hact ▸ ⟨(hgroup g List.mem_cons_self).add h.1.toPattern,
            fun q hq => hgroup q (List.mem_cons_of_mem g hq)⟩
  | enter opening =>
      cases opening with
      | flags change => exact Except.ok.inj hact ▸ ⟨h.1.add trivial, h.2⟩
      | group change name =>
          cases name with
          | none => exact Except.ok.inj hact ▸ hinside change
          | some n =>
              rw [act, enter] at hact
              by_cases hname : r.names.contains n = true
              · rw [if_pos hname] at hact
                exact absurd hact error_ne_ok
              · rw [if_neg hname] at hact
                exact Except.ok.inj hact ▸ hinside change

end PatternReader

/-- A pattern that is read has its bounds in order. -/
theorem Pattern.ordered_of_ofChars {text : List Char} {p : Pattern}
    (h : Pattern.ofChars text = .ok p) : p.HasOrderedBounds := by
  rcases Pattern.ofChars_eq_ok_iff.mp h with ⟨r, hread, _, rfl, _⟩
  have hr : r.Ordered :=
    readAll_preserves
      (fun _ haction hact hkept => ordered_act hkept (readAction_sound haction) hact)
      hread ⟨.start, nofun⟩
  exact hr.1.toPattern

end CloneScan
