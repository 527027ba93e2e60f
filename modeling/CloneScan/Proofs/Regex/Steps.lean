import CloneScan.Proofs.Regex.Pieces

/-!
# Piece after Piece

A pattern is read one piece at a time until the text ends. What a piece does to what was read
before is told apart from how it is read (`step_eq_ok_iff`), so that what holds of the whole pattern
can be shown for the few things that a piece can do. `readAll_preserves` is the induction over the
pieces; it keeps track of the text as well, since some of what is shown depends on the characters
that a pattern has.

## Theorems

* `step_eq_ok_iff`: What one piece does.
* `readAll_fuel`: The fuel makes no difference where it is enough.
* `readAll_preserves`: What every piece keeps, the pattern keeps.
* `Pattern.ofChars_eq_ok_iff`: When a text is a pattern.
-/

namespace CloneScan

namespace PatternReader

theorem readAll_nil {r : PatternReader} {text : List Char} (h : blanks r.extended text = [])
    (fuel : Nat) : readAll fuel r text = .ok r := by
  rw [readAll, h]

theorem readAll_cons {r : PatternReader} {text : List Char} {c : Char} {rest : List Char}
    (h : blanks r.extended text = c :: rest) (fuel : Nat) :
    readAll (fuel + 1) r text = (r.step c rest >>= fun p => readAll fuel p.1 p.2) := by
  rw [readAll, h]

theorem step_eq_ok_iff {r r' : PatternReader} {c : Char} {rest left : List Char} :
    r.step c rest = .ok (r', left) ↔
      ∃ action, readAction r.extended c rest = .ok (action, left) ∧ r.act action = .ok r' := by
  rw [step_eq, bind_eq_ok]
  constructor
  · rintro ⟨⟨action, after⟩, hread, h⟩
    rcases bind_eq_ok.mp h with ⟨s, hact, hpair⟩
    obtain ⟨rfl, rfl⟩ := Prod.mk.inj (Except.ok.inj hpair)
    exact ⟨action, hread, hact⟩
  · rintro ⟨action, hread, hact⟩
    exact ⟨(action, left), hread, bind_eq_ok.mpr ⟨r', hact, rfl⟩⟩

theorem step_suffix {r r' : PatternReader} {c : Char} {rest left : List Char}
    (h : r.step c rest = .ok (r', left)) : left <:+ rest := by
  rcases step_eq_ok_iff.mp h with ⟨action, haction, _⟩
  exact (readAction_stable r.extended c).suffix haction

/-- Every piece has a character, so the fuel makes no difference where it is enough. -/
theorem readAll_fuel {fuel fuel' : Nat} {r : PatternReader} {text : List Char}
    (h : text.length ≤ fuel) (h' : text.length ≤ fuel') :
    readAll fuel r text = readAll fuel' r text := by
  induction fuel generalizing fuel' r text with
  | zero =>
      obtain rfl := List.length_eq_zero_iff.mp (Nat.le_zero.mp h)
      rw [readAll_nil rfl, readAll_nil rfl]
  | succ fuel ih =>
      have hblanks := (blanks_suffix r.extended text).length_le
      cases hleft : blanks r.extended text with
      | nil => rw [readAll_nil hleft, readAll_nil hleft]
      | cons c rest =>
          rw [hleft, List.length_cons] at hblanks
          obtain ⟨fuel', rfl⟩ : ∃ n, fuel' = n + 1 := ⟨fuel' - 1, by omega⟩
          rw [readAll_cons hleft, readAll_cons hleft]
          cases hstep : r.step c rest with
          | error e => rfl
          | ok p =>
              have hrest := (step_suffix hstep).length_le
              exact ih (by omega) (by omega)

/-- What every piece keeps, the pattern keeps. -/
theorem readAll_preserves {kept : PatternReader → Prop} {fuel : Nat} {r s : PatternReader}
    {text : List Char}
    (hpiece : ∀ {r r' : PatternReader} {action : Action} {c : Char} {rest left : List Char},
      c ∈ text → readAction r.extended c rest = .ok (action, left) → r.act action = .ok r' →
      kept r → kept r')
    (h : readAll fuel r text = .ok s) (hstart : kept r) : kept s := by
  induction fuel generalizing r text with
  | zero =>
      rw [readAll] at h
      cases hleft : blanks r.extended text with
      | nil => rw [hleft] at h; exact Except.ok.inj h ▸ hstart
      | cons c rest => rw [hleft] at h; exact absurd h error_ne_ok
  | succ fuel ih =>
      cases hleft : blanks r.extended text with
      | nil =>
          rw [readAll_nil hleft] at h
          exact Except.ok.inj h ▸ hstart
      | cons c rest =>
          -- What is left after blanks, and after the piece, is still part of the text.
          have hmem : ∀ d ∈ c :: rest, d ∈ text := fun d hd =>
            (blanks_suffix r.extended text).subset (hleft ▸ hd)
          rw [readAll_cons hleft] at h
          rcases bind_eq_ok.mp h with ⟨⟨r', left⟩, hstep, hlater⟩
          rcases step_eq_ok_iff.mp hstep with ⟨action, haction, hact⟩
          refine ih (fun hd => hpiece (hmem _ (List.mem_cons_of_mem c ?_))) hlater
            (hpiece (hmem c List.mem_cons_self) haction hact hstart)
          exact (step_suffix hstep).subset hd

end PatternReader

open PatternReader in
/-- A text is a pattern if its pieces can be read, no group is open after them, and it is not
    nested too deep. -/
theorem Pattern.ofChars_eq_ok_iff {text : List Char} {p : Pattern} :
    Pattern.ofChars text = .ok p ↔
      ∃ r, readAll text.length .start text = .ok r ∧ r.groups = [] ∧ r.level.toPattern = p ∧
        p.depth ≤ nestingLimit := by
  unfold Pattern.ofChars
  simp only [bind_eq_ok]
  constructor
  · rintro ⟨r, hread, whole, hfinish, hdepth⟩
    unfold finish at hfinish
    by_cases hgroups : r.groups.isEmpty = true
    · rw [if_pos hgroups] at hfinish
      by_cases hlimit : whole.depth ≤ nestingLimit
      · rw [if_pos hlimit] at hdepth
        obtain rfl := Except.ok.inj hdepth
        exact ⟨r, hread, List.isEmpty_iff.mp hgroups, Except.ok.inj hfinish, hlimit⟩
      · rw [if_neg hlimit] at hdepth
        exact absurd hdepth error_ne_ok
    · rw [if_neg hgroups] at hfinish
      exact absurd hfinish error_ne_ok
  · rintro ⟨r, hread, hgroups, rfl, hlimit⟩
    refine ⟨r, hread, r.level.toPattern, ?_, if_pos hlimit⟩
    rw [finish, hgroups]
    rfl

end CloneScan
