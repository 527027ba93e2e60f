import CloneScan.CommentRule
import CloneScan.Proofs.Regex.Sweep
import CloneScan.Proofs.Regex.Wrapped

/-!
# The Pattern between the Ends of a Text

The comment rule puts a pattern into a group by joining texts, and reads what comes out as one
pattern. Whether that is the pattern in a group is a matter of how the joined text is read. What
stands before the pattern is read to the opening of the group, and from there on reading in a group
and by itself can be compared.

For a pattern that is one by itself there is one obstacle to being read as that group: it may end in
a remark, which takes in the closing and leaves the group open. Then the whole is no pattern. There
is another limit, to the nesting of patterns, to which the group adds its own two levels. Read the
other way, a whole that is a pattern either comes from a pattern in this way, or from a text that
closes the group itself.

## Main definitions

* `wholePattern`: A pattern in a group between the ends of a text.
* `wholeRegex`: An expression between the ends of a text.
* `EndsInRemark`: A pattern takes in what is joined to it.

## Theorems

* `ofChars_wholeText_iff`: What the whole of a pattern is read as.
* `ofChars_of_wholeText`: What the text was if the whole is a pattern.
* `toRegex_wholePattern`: The expression that the whole is.
* `occurs_wholeRegex_iff`: It occurs where the expression matches everything.
-/

namespace CloneScan

namespace CommentRule

open PatternReader

/-! ## Reading -/

/-- The group that is opened around a pattern, and what is read before it. -/
def around : OpenGroup :=
  ⟨[], ⟨[], [.anchor .textStart, .flags [(.dotAll, true)]]⟩, false⟩

/-- A pattern in a group between the ends of a text, with a dot matching line feeds. -/
def wholePattern (p : Pattern) : Pattern :=
  .concat [.flags [(.dotAll, true)], .anchor .textStart, .group [] p, .anchor .textEnd]

/-- What is joined to the pattern makes no difference to it: a remark at its end takes it in. -/
def EndsInRemark (pattern : String) : Prop :=
  Pattern.ofChars (pattern.toList ++ closing) = Pattern.ofChars pattern.toList

theorem depth_wholePattern (p : Pattern) : (wholePattern p).depth = p.depth + 2 := by
  simp only [wholePattern, Pattern.depth, Pattern.depthAll]
  omega

theorem wholeText_eq (pattern : String) :
    wholeText pattern = "(?s)\\A(?:".toList ++ (pattern.toList ++ closing) :=
  List.append_assoc _ _ _

theorem readAll_opening (fuel : Nat) (text : List Char) :
    readAll (fuel + 3) .start ("(?s)\\A(?:".toList ++ text)
      = readAll fuel (PatternReader.start.within [around]) text :=
  rfl

theorem readAll_closing {r : PatternReader} (h : r.groups = []) :
    ∃ s, readAll closing.length (r.within [around]) closing = .ok s ∧ s.groups = [] ∧
      s.level.toPattern = wholePattern r.level.toPattern := by
  rcases r with ⟨level, groups, extended, names⟩
  obtain rfl : groups = [] := h
  have hleave : (PatternReader.within [around] ⟨level, [], extended, names⟩).step ')' ['\\', 'z']
      = .ok (⟨around.outer.add (.group [] level.toPattern), [], false, names⟩, ['\\', 'z']) := rfl
  have hlength : closing.length = 2 + 1 := rfl
  rw [hlength, readAll_cons (blanks_closing _), hleave]
  exact ⟨_, rfl, rfl, rfl⟩

theorem length_le_wholeText (pattern : String) :
    (pattern.toList ++ closing).length ≤ (wholeText pattern).length := by
  rw [wholeText_eq]
  exact (List.suffix_append _ _).length_le

theorem readAll_alone (pattern : String) :
    readAll (wholeText pattern).length .start pattern.toList
      = readAll pattern.toList.length .start pattern.toList := by
  have hshort := length_le_wholeText pattern
  rw [List.length_append] at hshort
  exact readAll_fuel (by omega) (Nat.le_refl _)

/-- The whole is read as its pattern is, inside the group. -/
theorem readAll_wholeText (pattern : String) :
    readAll (wholeText pattern).length .start (wholeText pattern)
      = readAll (wholeText pattern).length (PatternReader.start.within [around])
          (pattern.toList ++ closing) := by
  have hlength : (wholeText pattern).length = (pattern.toList ++ closing).length + 6 + 3 := by
    rw [wholeText_eq, List.length_append, Nat.add_comm]
    rfl
  rw [hlength, wholeText_eq, readAll_opening]
  exact readAll_fuel (by omega) (by omega)

/-- What is left of a pattern in its group: either nothing, because of a remark, or the closing. -/
theorem readAll_wholeText_of_ok {pattern : String} {r : PatternReader}
    (h : readAll pattern.toList.length .start pattern.toList = .ok r) (hgroups : r.groups = []) :
    (readAll (pattern.toList ++ closing).length .start (pattern.toList ++ closing) = .ok r ∧
        readAll (wholeText pattern).length .start (wholeText pattern) = .ok (r.within [around])) ∨
      readAll (pattern.toList ++ closing).length .start (pattern.toList ++ closing)
          = .error .unopenedGroup ∧
        ∃ s, readAll (wholeText pattern).length .start (wholeText pattern) = .ok s ∧
          s.groups = [] ∧ s.level.toPattern = wholePattern r.level.toPattern := by
  have hshort := length_le_wholeText pattern
  have halone : readAll (wholeText pattern).length .start pattern.toList = .ok r :=
    (readAll_alone pattern).trans h
  -- The reading without groups is the one inside of none.
  have hnone : readAll (pattern.toList ++ closing).length .start (pattern.toList ++ closing)
      = readAll (wholeText pattern).length (PatternReader.start.within [])
          (pattern.toList ++ closing) :=
    readAll_fuel (Nat.le_refl _) hshort
  rcases readAll_within (Joined.append pattern.toList) hshort halone with hremark | hclosing
  · left
    rw [hnone, readAll_wholeText, hremark, hremark, within_nil]
    exact ⟨rfl, rfl⟩
  · right
    rw [hnone, readAll_wholeText, hclosing, hclosing, within_nil]
    refine ⟨?_, readAll_closing hgroups⟩
    have hleave : r.step ')' ['\\', 'z'] = .error .unopenedGroup := by
      rw [step_eq]
      simp only [readAction, bind, Except.bind, act, leave, hgroups]
    have hlength : closing.length = 2 + 1 := rfl
    rw [hlength, readAll_cons (blanks_closing _), hleave]
    rfl

/-- The whole of a pattern is that pattern in a group, unless the pattern ends in a remark or is
    nested too deep for the group. -/
theorem ofChars_wholeText_iff {pattern : String} {p q : Pattern}
    (h : Pattern.ofChars pattern.toList = .ok p) :
    Pattern.ofChars (wholeText pattern) = .ok q ↔
      ¬ EndsInRemark pattern ∧ p.depth + 2 ≤ nestingLimit ∧ q = wholePattern p := by
  rcases Pattern.ofChars_eq_ok_iff.mp h with ⟨r, hread, hgroups, rfl, hdepth⟩
  rw [Pattern.ofChars_eq_ok_iff]
  rcases readAll_wholeText_of_ok hread hgroups with ⟨hjoined, hwhole⟩ | ⟨hjoined, s, hwhole, hs, hp⟩
  · -- The group stays open.
    have hremark : EndsInRemark pattern := by
      rw [EndsInRemark, h]
      exact Pattern.ofChars_eq_ok_iff.mpr ⟨r, hjoined, hgroups, rfl, hdepth⟩
    refine iff_of_false ?_ fun hq => hq.1 hremark
    rintro ⟨s, hs, hopen, _⟩
    obtain rfl := Except.ok.inj (hwhole.symm.trans hs)
    exact List.append_ne_nil_of_right_ne_nil r.groups (List.cons_ne_nil around []) hopen
  · have hremark : ¬ EndsInRemark pattern := by
      intro hremark
      rcases Pattern.ofChars_eq_ok_iff.mp (hremark.trans h) with ⟨r', hr', _⟩
      exact error_ne_ok (hjoined.symm.trans hr')
    constructor
    · rintro ⟨s', hs', _, rfl, hlimit⟩
      obtain rfl := Except.ok.inj (hwhole.symm.trans hs')
      rw [hp, depth_wholePattern] at hlimit
      exact ⟨hremark, hlimit, hp⟩
    · rintro ⟨_, hlimit, rfl⟩
      exact ⟨s, hwhole, hs, hp, (depth_wholePattern _).le.trans hlimit⟩

/-- A whole that is a pattern comes from a pattern in a group, or from a text that closes the group
    itself. -/
theorem ofChars_of_wholeText {pattern : String} {q : Pattern}
    (h : Pattern.ofChars (wholeText pattern) = .ok q) :
    Pattern.ofChars pattern.toList = .error .unopenedGroup ∨
      ∃ p, Pattern.ofChars pattern.toList = .ok p := by
  rcases Pattern.ofChars_eq_ok_iff.mp h with ⟨s, hwhole, hs, rfl, hdepth⟩
  have hshort := length_le_wholeText pattern
  have hgroup := hwhole
  rw [readAll_wholeText] at hgroup
  rcases readAll_of_within (Joined.append pattern.toList) hshort hgroup hs with
    ⟨r, hr, hgroups⟩ | hr
  · right
    rw [readAll_alone] at hr
    refine ⟨r.level.toPattern, Pattern.ofChars_eq_ok_iff.mpr ⟨r, hr, hgroups, rfl, ?_⟩⟩
    -- The whole is not nested too deep, and the pattern is nested less.
    rcases readAll_wholeText_of_ok hr hgroups with ⟨_, hopen⟩ | ⟨_, s', hs', _, hp⟩
    · obtain rfl := Except.ok.inj (hwhole.symm.trans hopen)
      exact absurd hs (List.append_ne_nil_of_right_ne_nil r.groups (List.cons_ne_nil around []))
    · obtain rfl := Except.ok.inj (hwhole.symm.trans hs')
      rw [hp, depth_wholePattern] at hdepth
      omega
  · left
    rw [readAll_alone] at hr
    rw [Pattern.ofChars, hr]
    rfl

/-! ## Meaning -/

/-- The flags of a pattern in its group. -/
def dotAll : Flags :=
  { Flags.initial with dotAll := true }

/-- An expression between the ends of a text. -/
def wholeRegex (r : Regex) : Regex :=
  .seq .empty (.seq (.look .textStart) (.seq r (.seq (.look .textEnd) .empty)))

theorem toRegex_wholePattern (p : Pattern) :
    (wholePattern p).toRegex .initial
      = (p.toRegex dotAll).map fun q => (wholeRegex q.1, dotAll) := by
  have hflags : Flags.initial.apply [(.dotAll, true)] = dotAll := rfl
  simp only [wholePattern, Pattern.toRegex, Pattern.concatOf, bind, Except.bind, hflags]
  have hgroup : dotAll.apply [] = dotAll := rfl
  rw [hgroup]
  cases p.toRegex dotAll with
  | error e => rfl
  | ok q => rfl

theorem before_eq_none_iff {text : List Char} {i : Nat} (h : i ≤ text.length) :
    Regex.before text i = none ↔ i = 0 := by
  cases i with
  | zero => exact iff_of_true rfl rfl
  | succ i =>
      refine iff_of_false (fun hnone => ?_) (Nat.succ_ne_zero i)
      exact Nat.not_le.mpr h (List.getElem?_eq_none_iff.mp hnone)

theorem occurs_wholeRegex_iff {r : Regex} {text : List Char} :
    (wholeRegex r).Occurs text ↔ r.MatchesAll text := by
  constructor
  · rintro ⟨i, j, hi, hspans⟩
    cases hspans with
    | seq hempty hspans =>
    cases hempty
    cases hspans with
    | seq hlook hspans =>
    cases hlook with
    | look hstart =>
    cases hspans with
    | @seq _ _ _ k _ hr hspans =>
    cases hspans with
    | seq hlook =>
    cases hlook with
    | look hend =>
        obtain rfl : i = 0 := (before_eq_none_iff hi).mp (Option.isNone_iff_eq_none.mp hstart)
        have hlast : text.length ≤ k :=
          List.getElem?_eq_none_iff.mp (Option.isNone_iff_eq_none.mp hend)
        obtain rfl : k = text.length := Nat.le_antisymm (hr.le_length hi) hlast
        exact hr
  · intro h
    have hstart : Regex.Spans text (.look .textStart) 0 0 := .look rfl
    have hend : Regex.Spans text (.look .textEnd) text.length text.length := by
      refine .look ?_
      rw [Look.holds, List.getElem?_eq_none_iff.mpr (Nat.le_refl _)]
      rfl
    exact ⟨0, text.length, Nat.zero_le _, .seq .empty (.seq hstart (.seq h (.seq hend .empty)))⟩

/-! ## The rule -/

theorem make_eq_ok_iff {pattern message : String} {rule : CommentRule} (h : pattern ≠ "") :
    make pattern message = .ok rule ↔
      ∃ e, Regex.ofChars (wholeText pattern) = .ok e ∧ rule = ⟨pattern, message, some e⟩ := by
  have hempty : ¬ pattern.isEmpty = true := fun hempty => h (String.isEmpty_iff.mp hempty)
  rw [make, if_neg hempty]
  cases Regex.ofChars (wholeText pattern) with
  | error e => exact iff_of_false nofun fun ⟨_, he, _⟩ => error_ne_ok he
  | ok e =>
      constructor
      · intro hrule
        exact ⟨e, rfl, (Except.ok.inj hrule).symm⟩
      · rintro ⟨e', he, rfl⟩
        rw [Except.ok.inj he]

end CommentRule

theorem Regex.ofCharsWith_eq_ok_iff {f : Flags} {text : List Char} {r : Regex} :
    Regex.ofCharsWith f text = .ok r ↔
      ∃ p after, Pattern.ofChars text = .ok p ∧ p.toRegex f = .ok (r, after) := by
  unfold Regex.ofCharsWith
  simp only [PatternReader.bind_eq_ok]
  constructor
  · rintro ⟨p, hp, ⟨s, after⟩, hs, hr⟩
    obtain rfl := Except.ok.inj hr
    exact ⟨p, after, hp, hs⟩
  · rintro ⟨p, after, hp, hs⟩
    exact ⟨p, hp, (r, after), hs, rfl⟩

end CloneScan
