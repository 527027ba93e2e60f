import CloneScan.Proofs.Regex.Bounds

/-!
# Reading inside a Group

A pattern in a group of its own is read as it is by itself, and then the closing ends the group. One
way to see this is from the pattern: a text that can be read by itself is read to the same inside
groups, and the closing is left (`readAll_within`). The exception is a text that ends in a remark,
which takes the closing in.

The other way is from the group. A text that is read inside a group, closing and all, to the end of
that group, can be read by itself, unless it closes the group itself (`readAll_of_within`). This is
where a text could be cut short by its end and go on into the closing. It then has no parenthesis
left to end the group with, or a brace that no bounds follow.

## Main definitions

* `within`: What has been read, in further groups.

## Theorems

* `act_within`: What a piece does does not depend on the groups around.
* `step_within`, `readAll_within`: What is read by itself is read in groups.
* `step_of_within`, `readAll_of_within`: What is read in a group is read by itself.
-/

namespace CloneScan

namespace PatternReader

theorem Joined.blanks {text text' : List Char} (h : Joined text text') (extended : Bool) :
    Joined (blanks extended text) (PatternReader.blanks extended text') := by
  rcases h with rfl | ⟨rfl, rfl⟩
  · exact blanks_joined extended text
  · exact Or.inr ⟨rfl, rfl⟩

theorem blanks_closing (extended : Bool) : blanks extended closing = closing :=
  congrArg Prod.snd (spaced_closing extended rfl)

/-- What has been read, in further groups that are open around it. -/
def within (groups : List OpenGroup) (r : PatternReader) : PatternReader :=
  { r with groups := r.groups ++ groups }

theorem within_nil (r : PatternReader) : r.within [] = r := by
  rw [within, List.append_nil]

@[simp] theorem extended_within (groups : List OpenGroup) (r : PatternReader) :
    (r.within groups).extended = r.extended :=
  rfl

theorem act_within (groups : List OpenGroup) {r : PatternReader} {action : Action}
    (h : action = .leave → r.groups ≠ []) :
    (r.within groups).act action = (r.act action).map (within groups) := by
  cases action with
  | add p => rfl
  | enter opening =>
      cases opening with
      | flags change => rfl
      | group change name =>
          cases name with
          | none => rfl
          | some n =>
              have hnames : (r.within groups).names = r.names := rfl
              rw [act, act, enter, enter, hnames]
              by_cases hname : r.names.contains n = true
              · rw [if_pos hname, if_pos hname]
                rfl
              · rw [if_neg hname, if_neg hname]
                rfl
  | leave =>
      have hopen := h rfl
      unfold act leave within
      cases hgroups : r.groups with
      | nil => exact absurd hgroups hopen
      | cons g outer => rfl
  | split => rfl
  | repeatLast least most =>
      simp only [act, repeatLast, within]
      cases r.level.repeatLast least most with
      | error e => rfl
      | ok level => rfl

theorem groups_ne_nil_of_leave {r r' : PatternReader} (h : r.act .leave = .ok r') :
    r.groups ≠ [] := by
  intro hgroups
  rw [act, leave, hgroups] at h
  exact error_ne_ok h

-- Only a closing parenthesis can end a group.
theorem groups_ne_nil_of_act {r r' : PatternReader} {action : Action} (h : r.act action = .ok r')
    (hleave : action ≠ .leave) (hopen : r.groups ≠ []) : r'.groups ≠ [] := by
  cases action with
  | add p => exact Except.ok.inj h ▸ hopen
  | enter opening =>
      cases opening with
      | flags change => exact Except.ok.inj h ▸ hopen
      | group change name =>
          cases name with
          | none => exact Except.ok.inj h ▸ List.cons_ne_nil _ _
          | some n =>
              rw [act, enter] at h
              by_cases hname : r.names.contains n = true
              · rw [if_pos hname] at h
                exact absurd h error_ne_ok
              · rw [if_neg hname] at h
                exact Except.ok.inj h ▸ List.cons_ne_nil _ _
  | leave => exact absurd rfl hleave
  | split => exact Except.ok.inj h ▸ hopen
  | repeatLast least most =>
      rcases bind_eq_ok.mp h with ⟨level, _, hr⟩
      exact Except.ok.inj hr ▸ hopen

theorem groups_ne_nil_of_readAll {fuel : Nat} {r s : PatternReader} {text : List Char}
    (h : readAll fuel r text = .ok s) (hnone : ')' ∉ text) (hopen : r.groups ≠ []) :
    s.groups ≠ [] := by
  have hpiece : ∀ {r r' : PatternReader} {action : Action} {c : Char} {rest left : List Char},
      c ∈ text → readAction r.extended c rest = .ok (action, left) → r.act action = .ok r' →
      r.groups ≠ [] → r'.groups ≠ [] := by
    intro r r' action c rest left hmem haction hact hkept
    refine groups_ne_nil_of_act hact ?_ hkept
    rintro rfl
    obtain rfl : c = ')' := readAction_sound haction
    exact hnone hmem
  exact readAll_preserves hpiece h hopen

/-! ## From the pattern to the group -/

/-- A piece that is read by itself is read in groups, whatever these are. -/
theorem step_within {r r' : PatternReader} {c : Char} {rest after : List Char}
    (h : r.step c rest = .ok (r', after)) :
    ∃ after', Joined after after' ∧ ∀ groups,
      (r.within groups).step c (rest ++ closing) = .ok (r'.within groups, after') := by
  rcases step_eq_ok_iff.mp h with ⟨action, haction, hact⟩
  have hagree := readAction_stable r.extended c rest
  rw [haction] at hagree
  cases hboth : readAction r.extended c (rest ++ closing) with
  | error e => rw [hboth] at hagree; exact nomatch hagree
  | ok p =>
      rw [hboth] at hagree
      cases hagree with
      | @same _ _ after' _ hafter =>
          refine ⟨after', hafter, fun groups => step_eq_ok_iff.mpr ⟨action, hboth, ?_⟩⟩
          have hopen : action = .leave → r.groups ≠ [] := fun hleave =>
            groups_ne_nil_of_leave (hleave ▸ hact)
          rw [act_within groups hopen, hact]
          rfl

/-- What is read by itself is read in groups, and the closing is left unless a remark takes it in.
    It does not matter which groups these are. -/
theorem readAll_within {fuel : Nat} {r s : PatternReader} {text text' : List Char}
    (hjoined : Joined text text') (hfuel : text'.length ≤ fuel)
    (h : readAll fuel r text = .ok s) :
    (∀ groups, readAll fuel (r.within groups) text' = .ok (s.within groups)) ∨
      ∀ groups, readAll fuel (r.within groups) text'
        = readAll closing.length (s.within groups) closing := by
  -- One piece at a time: what is left after it is joined in the same way as before.
  induction fuel generalizing r text text' with
  | zero =>
      obtain rfl := List.length_eq_zero_iff.mp (Nat.le_zero.mp hfuel)
      rcases hjoined with heq | ⟨rfl, _⟩
      · exact absurd heq.symm (List.append_ne_nil_of_right_ne_nil text (List.cons_ne_nil _ _))
      rw [readAll_nil rfl] at h
      obtain rfl := Except.ok.inj h
      exact Or.inl fun groups => readAll_nil rfl 0
  | succ fuel ih =>
      have hleft := hjoined.blanks r.extended
      have hshort := (blanks_suffix r.extended text').length_le
      cases hblanks : blanks r.extended text with
      | nil =>
          rw [readAll_nil hblanks] at h
          obtain rfl := Except.ok.inj h
          rw [hblanks] at hleft
          rcases hleft with hclosing | ⟨_, hnil⟩
          · right
            intro groups
            rw [List.nil_append] at hclosing
            rw [hclosing] at hshort
            -- The blanks before the closing do not count, and the closing has none.
            have hskip : readAll (fuel + 1) (r.within groups) text'
                = readAll (fuel + 1) (r.within groups) closing := by
              rw [readAll, readAll, extended_within, hclosing, blanks_closing]
            rw [hskip]
            exact readAll_fuel (Nat.le_trans hshort hfuel) (Nat.le_refl _)
          · exact Or.inl fun groups => readAll_nil (r := r.within groups) hnil _
      | cons c rest =>
          rw [hblanks] at hleft
          have hblanks' := hleft.of_cons
          rw [readAll_cons hblanks] at h
          rcases bind_eq_ok.mp h with ⟨⟨r', after⟩, hstep, hlater⟩
          rcases step_within hstep with ⟨after', hafter, hstep'⟩
          have hgo : ∀ groups, readAll (fuel + 1) (r.within groups) text'
              = readAll fuel (r'.within groups) after' := by
            intro groups
            rw [readAll_cons (r := r.within groups) hblanks', hstep']
            rfl
          have hfuel' : after'.length ≤ fuel := by
            have hlength := (step_suffix (hstep' [])).length_le
            rw [hblanks', List.length_cons] at hshort
            omega
          simp only [hgo]
          exact ih hafter hfuel' hlater

/-! ## From the group to the pattern -/

/-- Where only the closing is left and the group around ends with it, no other group is open. -/
theorem groups_eq_nil_of_closing {fuel : Nat} {r s : PatternReader} {text : List Char}
    {g : OpenGroup} (hclosing : blanks r.extended text = closing)
    (h : readAll (fuel + 1) (r.within [g]) text = .ok s) (hs : s.groups = []) :
    r.groups = [] := by
  rw [readAll_cons (r := r.within [g]) hclosing] at h
  rcases bind_eq_ok.mp h with ⟨⟨r', left⟩, hstep, hlater⟩
  rcases step_eq_ok_iff.mp hstep with ⟨action, haction, hact⟩
  obtain ⟨rfl, rfl⟩ := Prod.mk.inj (Except.ok.inj haction)
  cases hgroups : r.groups with
  | nil => rfl
  | cons inner outer =>
      -- The parenthesis closes an inner group, and no other one follows.
      rw [act_within [g] fun _ => hgroups ▸ List.cons_ne_nil inner outer] at hact
      rw [act, leave, hgroups] at hact
      have hopen : r'.groups ≠ [] := by
        rw [← Except.ok.inj hact]
        exact List.append_ne_nil_of_right_ne_nil outer (List.cons_ne_nil g [])
      have hnone : ')' ∉ ['\\', 'z'] := by decide
      exact absurd hs (groups_ne_nil_of_readAll hlater hnone hopen)

-- A brace is no blank and opens no remark.
theorem blanks_brace (extended : Bool) (inside : List Char) :
    blanks extended ('\x7b' :: inside) = '\x7b' :: inside := by
  have hblank : Unicode.isBlank '\x7b' = false := by decide +kernel
  rw [blanks, spaced]
  simp only [Bool.false_eq_true, if_false, hblank, Bool.and_false]
  cases extended with
  | true => rfl
  | false => rfl

/-- A brace before the closing opens no bounds, so nothing is read from there. -/
theorem readAll_brace_ne_ok {fuel : Nat} {r s : PatternReader} {inside : List Char}
    (h : blanks r.extended inside = closing) : readAll fuel r ('\x7b' :: inside) ≠ .ok s := by
  have hbrace := blanks_brace r.extended inside
  cases fuel with
  | zero =>
      rw [readAll, hbrace]
      exact error_ne_ok
  | succ fuel =>
      have hstep : r.step '\x7b' inside = .error .badCount := by
        rw [step_eq, readAction, readCount_closing h]
        rfl
      rw [readAll_cons hbrace, hstep]
      exact error_ne_ok

/-- A piece that is read in a group is read by itself, unless it closes the group or goes on into
    the closing. In the last case the group cannot end any more. -/
theorem step_of_within {r s' : PatternReader} {c : Char} {rest after' : List Char} {g : OpenGroup}
    (h : (r.within [g]).step c (rest ++ closing) = .ok (s', after')) :
    (∃ r' after, r.step c rest = .ok (r', after) ∧ s' = r'.within [g] ∧ Joined after after') ∨
      r.step c rest = .error .unopenedGroup ∨
      ∀ fuel s, readAll fuel s' after' = .ok s → s.groups ≠ [] := by
  rcases step_eq_ok_iff.mp h with ⟨action, hboth, hact'⟩
  rw [extended_within] at hboth
  have hagree := readAction_stable r.extended c rest
  rw [hboth] at hagree
  cases halone : readAction r.extended c rest with
  | error e =>
      -- The piece goes on into the closing. What is left then cannot end the group around.
      rw [halone] at hagree
      right; right
      intro fuel s hlater
      have hleave : action ≠ .leave := by
        rintro rfl
        obtain rfl : c = ')' := readAction_sound hboth
        exact error_ne_ok halone.symm
      cases hagree with
      | lost hlost =>
          rcases hlost with hnone | ⟨a, rfl, _, inside, rfl, hinside⟩
          · have hbetween : (r.within [g]).groups ≠ [] :=
              List.append_ne_nil_of_right_ne_nil r.groups (List.cons_ne_nil g [])
            have hopen := groups_ne_nil_of_act hact' hleave hbetween
            exact groups_ne_nil_of_readAll hlater hnone hopen
          · obtain rfl := Except.ok.inj hact'
            exact absurd hlater (readAll_brace_ne_ok hinside)
  | ok p =>
      rcases p with ⟨action', after⟩
      rw [halone] at hagree
      cases hagree with
      | same _ hafter =>
          -- The groups around are seen only by a parenthesis that closes one of them.
          by_cases hends : action = .leave ∧ r.groups = []
          · right; left
            obtain ⟨rfl, hgroups⟩ := hends
            rw [step_eq, halone]
            simp only [bind, Except.bind, act, leave, hgroups]
          · left
            rw [act_within [g] fun hleave hgroups => hends ⟨hleave, hgroups⟩] at hact'
            cases hact : r.act action with
            | error e => rw [hact] at hact'; exact absurd hact' error_ne_ok
            | ok r' =>
                rw [hact] at hact'
                have hs' := Except.ok.inj hact'
                exact ⟨r', after, step_eq_ok_iff.mpr ⟨action, halone, hact⟩, hs'.symm, hafter⟩

/-- What is read in a group up to its end is read by itself, unless it closes the group. -/
theorem readAll_of_within {fuel : Nat} {r s : PatternReader} {text text' : List Char}
    {g : OpenGroup} (hjoined : Joined text text') (hfuel : text'.length ≤ fuel)
    (h : readAll fuel (r.within [g]) text' = .ok s) (hs : s.groups = []) :
    (∃ r', readAll fuel r text = .ok r' ∧ r'.groups = []) ∨
      readAll fuel r text = .error .unopenedGroup := by
  have hbetween : ∀ r : PatternReader, (r.within [g]).groups ≠ [] := fun r =>
    List.append_ne_nil_of_right_ne_nil r.groups (List.cons_ne_nil g [])
  -- A reading that loses the closing leaves the group around open, which is not how it ends.
  induction fuel generalizing r text text' with
  | zero =>
      -- The text is empty, and the group around is still open.
      obtain rfl := List.length_eq_zero_iff.mp (Nat.le_zero.mp hfuel)
      rw [readAll_nil (r := r.within [g]) rfl] at h
      exact absurd (Except.ok.inj h ▸ hs) (hbetween r)
  | succ fuel ih =>
      have hleft := hjoined.blanks r.extended
      have hshort := (blanks_suffix r.extended text').length_le
      cases hblanks : blanks r.extended text with
      | nil =>
          rw [hblanks] at hleft
          rcases hleft with hclosing | ⟨_, hnil⟩
          · exact Or.inl ⟨r, readAll_nil hblanks _, groups_eq_nil_of_closing hclosing h hs⟩
          · rw [readAll_nil (r := r.within [g]) hnil] at h
            exact absurd (Except.ok.inj h ▸ hs) (hbetween r)
      | cons c rest =>
          rw [hblanks] at hleft
          have hblanks' := hleft.of_cons
          rw [readAll_cons (r := r.within [g]) hblanks'] at h
          rcases bind_eq_ok.mp h with ⟨⟨s', after'⟩, hstep', hlater⟩
          rw [readAll_cons hblanks]
          rcases step_of_within hstep' with ⟨r', after, hstep, rfl, hafter⟩ | hstep | hopen
          · have hfuel' : after'.length ≤ fuel := by
              have hlength := (step_suffix hstep').length_le
              rw [hblanks', List.length_cons] at hshort
              omega
            rw [hstep]
            exact ih hafter hfuel' hlater
          · rw [hstep]
            exact Or.inr rfl
          · exact absurd hs (hopen fuel s hlater)

end PatternReader

end CloneScan
