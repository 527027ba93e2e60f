import CloneScan.Proofs.Comment.WholeText
import CloneScan.Proofs.Regex.Dot

/-!
# Accepting Patterns

A rule is made of a pattern if the whole of the pattern is an expression, which is not quite the
question whether the pattern is one. The whole gives a dot another meaning, and that alone cannot
make an expression invalid (`Pattern.toRegex_alike`). What can is a remark at the end of the
pattern, which takes in the closing, and the two levels of nesting that the group adds. The other
way round, a text that is no expression by itself is refused unless it closes the group that is
opened around it, and so makes the group part of something else. `make_accepts` says all of this.
Both ways of going wrong occur: see `acceptance_is_not_validity`.

## Theorems

* `exists_toRegex_wholePattern_iff`: When the whole of a pattern is an expression.
* `make_of_invalid`: A text that is no expression.
* `make_of_valid_iff`: An expression.
* `make_accepts`: Which patterns a rule can be made of.
-/

namespace CloneScan

namespace CommentRule

open PatternReader

theorem initial_alike_dotAll : Flags.initial.Alike dotAll :=
  ⟨rfl, rfl, rfl, rfl⟩

/-- The whole of a pattern is an expression if it is a pattern: its expression is the only one in
    question, and it is one under either meaning of a dot. -/
theorem exists_toRegex_wholePattern_iff {p : Pattern} :
    (∃ e after, (wholePattern p).toRegex .initial = .ok (e, after)) ↔
      ∃ r after, p.toRegex .initial = .ok (r, after) := by
  rw [toRegex_wholePattern]
  constructor
  · rintro ⟨e, after, he⟩
    cases hregex : p.toRegex dotAll with
    | error fault => rw [hregex] at he; exact absurd he error_ne_ok
    | ok q =>
        rcases p.toRegex_alike initial_alike_dotAll.symm hregex with ⟨r, after', hr, _⟩
        exact ⟨r, after', hr⟩
  · rintro ⟨r, after, hr⟩
    rcases Pattern.toRegex_alike initial_alike_dotAll hr with ⟨s, after', hs, _⟩
    rw [hs]
    exact ⟨wholeRegex s, dotAll, rfl⟩

/-- A refusal carries the pattern, and the cause why the pattern between the ends of a text is no
    expression. -/
theorem make_eq_error {pattern message : String} {fault : Fault}
    (h : make pattern message = .error fault) :
    ∃ cause, Regex.ofChars (wholeText pattern) = .error cause ∧
      fault = .badPattern pattern cause := by
  unfold make at h
  split at h
  · exact nomatch h
  · split at h
    · exact nomatch h
    · exact ⟨_, ‹_›, (Except.error.inj h).symm⟩

/-- A text that is no expression is refused, unless it closes the group around. -/
theorem make_of_invalid {pattern : String} {e : PatternError} (message : String)
    (h : Regex.ofChars pattern.toList = .error e) (hclosed : e ≠ .unopenedGroup) :
    ∃ cause, Regex.ofChars (wholeText pattern) = .error cause ∧
      make pattern message = .error (.badPattern pattern cause) := by
  have hne : pattern ≠ "" := by
    rintro rfl
    exact error_ne_ok (h.symm.trans rfl)
  cases hmake : make pattern message with
  | error fault =>
      rcases make_eq_error hmake with ⟨cause, hcause, rfl⟩
      exact ⟨cause, hcause, rfl⟩
  | ok rule =>
      -- A rule would come from an expression, and then the text is one by itself.
      rcases (make_eq_ok_iff hne).mp hmake with ⟨expression, hwhole, _⟩
      rcases Regex.ofCharsWith_eq_ok_iff.mp hwhole with ⟨q, after, hq, hregex⟩
      rcases ofChars_of_wholeText hq with hopen | ⟨p, hp⟩
      · have hfault : Regex.ofChars pattern.toList = .error .unopenedGroup := by
          rw [Regex.ofChars, Regex.ofCharsWith, hopen]
          rfl
        exact absurd (Except.error.inj (h.symm.trans hfault)) hclosed
      · obtain ⟨_, _, rfl⟩ := (ofChars_wholeText_iff hp).mp hq
        rcases exists_toRegex_wholePattern_iff.mp ⟨_, _, hregex⟩ with ⟨r, last, hr⟩
        have hvalid : Regex.ofChars pattern.toList = .ok r :=
          Regex.ofCharsWith_eq_ok_iff.mpr ⟨p, last, hp, hr⟩
        exact absurd (h.symm.trans hvalid) error_ne_ok

/-- An expression is refused only because of a remark at its end, or of its nesting. -/
theorem make_of_valid_iff {pattern : String} {r : Regex} {p : Pattern} (message : String)
    (h : Regex.ofChars pattern.toList = .ok r) (hp : Pattern.ofChars pattern.toList = .ok p) :
    (∃ rule, make pattern message = .ok rule) ↔
      ¬ EndsInRemark pattern ∧ p.depth + 2 ≤ nestingLimit := by
  by_cases hne : pattern = ""
  · -- Without a pattern there is always a rule.
    subst hne
    obtain rfl : Pattern.empty = p := Except.ok.inj (Eq.trans rfl hp)
    refine iff_of_true ⟨_, rfl⟩ ⟨fun hremark => ?_, by decide⟩
    have hclosing : Pattern.ofChars closing = .error .unopenedGroup := rfl
    exact error_ne_ok (hclosing.symm.trans (hremark.trans hp))
  constructor
  · rintro ⟨rule, hrule⟩
    rcases (make_eq_ok_iff hne).mp hrule with ⟨e, hwhole, _⟩
    rcases Regex.ofCharsWith_eq_ok_iff.mp hwhole with ⟨q, _, hq, _⟩
    obtain ⟨hremark, hdepth, _⟩ := (ofChars_wholeText_iff hp).mp hq
    exact ⟨hremark, hdepth⟩
  · rintro ⟨hremark, hdepth⟩
    have hq := (ofChars_wholeText_iff hp).mpr ⟨hremark, hdepth, rfl⟩
    rcases Regex.ofCharsWith_eq_ok_iff.mp h with ⟨p', after, hp', hr⟩
    obtain rfl := Except.ok.inj (hp.symm.trans hp')
    rcases exists_toRegex_wholePattern_iff.mpr ⟨r, after, hr⟩ with ⟨e, last, he⟩
    have hwhole : Regex.ofChars (wholeText pattern) = .ok e :=
      Regex.ofCharsWith_eq_ok_iff.mpr ⟨_, last, hq, he⟩
    exact ⟨_, (make_eq_ok_iff hne).mpr ⟨e, hwhole, rfl⟩⟩

/-- Which patterns a rule can be made of: an expression, if it does not end in a remark and the
    group around can still be nested; no other text, unless it closes that group. A refusal carries
    the pattern, and the cause why the pattern between the ends of a text is no expression. -/
theorem make_accepts (pattern message : String) :
    (∀ r p, Regex.ofChars pattern.toList = .ok r → Pattern.ofChars pattern.toList = .ok p →
      ((∃ rule, make pattern message = .ok rule) ↔
        ¬ EndsInRemark pattern ∧ p.depth + 2 ≤ nestingLimit)) ∧
    (∀ e, Regex.ofChars pattern.toList = .error e → e ≠ .unopenedGroup →
      ∃ cause, Regex.ofChars (wholeText pattern) = .error cause ∧
        make pattern message = .error (.badPattern pattern cause)) ∧
    ∀ fault, make pattern message = .error fault →
      ∃ cause, Regex.ofChars (wholeText pattern) = .error cause ∧
        fault = .badPattern pattern cause :=
  ⟨fun _ _ => make_of_valid_iff message, fun _ => make_of_invalid message,
    fun _ => make_eq_error⟩

-- Blanks may end a pattern where remarks are allowed, as long as there is no remark.
theorem make_accepts_blank_end :
    (∃ rule, make "(?x)a " "no" = .ok rule) ∧
      make "(?x)(a # c" "no" = .error (.badPattern "(?x)(a # c" .unclosedGroup) := by
  have hremark : ¬ EndsInRemark "(?x)a " := by
    intro hremark
    have hclosing : Pattern.ofChars ("(?x)a ".toList ++ closing) = .error .unopenedGroup := rfl
    rw [EndsInRemark, hclosing] at hremark
    exact error_ne_ok hremark
  have hcause : Regex.ofChars (wholeText "(?x)(a # c") = .error .unclosedGroup := rfl
  rcases (make_accepts "(?x)(a # c" "no").2.1 _ rfl (by decide) with ⟨cause, hwhole, hmake⟩
  obtain rfl := Except.error.inj (hwhole.symm.trans hcause)
  exact ⟨((make_accepts "(?x)a " "no").1 _ _ rfl rfl).mpr ⟨hremark, by decide⟩, hmake⟩

/-- Parentheses that do not balance make a rule that reports comments which match in part, and an
    expression that ends in a remark makes none. -/
theorem acceptance_is_not_validity :
    (Regex.ofChars "x)|(?:y".toList = .error .unopenedGroup ∧
      ∃ rule, make "x)|(?:y" "no" = .ok rule ∧ rule.reports ⟨"x and more", 1, 1⟩ = true) ∧
    (∃ r, Regex.ofChars "(?x)a # c".toList = .ok r) ∧
      make "(?x)a # c" "no" = .error (.badPattern "(?x)a # c" .unclosedGroup) :=
  ⟨⟨rfl, _, rfl, by decide⟩, ⟨_, rfl⟩, rfl⟩

end CommentRule

end CloneScan
