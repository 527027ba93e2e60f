import CloneScan.Proofs.Comment.Findings
import CloneScan.Proofs.Comment.WholeText

/-!
# Matching Whole Comments

What a rule reports is decided by the pattern between the ends of a text, and what it should report
by the pattern itself. For a pattern that is one by itself, the two agree on every comment: whatever
the pattern is made of, it cannot reach out of its group, since the whole is read as that group. The
flags that it changes end with the group, and its branches stay inside. What is left is that the
sweep finds the expression in a text exactly where it matches all of it.

## Theorems

* `make_eq_whole`: The rule of a pattern that is one by itself.
* `reports_iff_matchesAll`: Such a rule reports the comments that match from end to end.
* `findings_of_whole_matches`: What a walk of the rule finds.
-/

namespace CloneScan

namespace CommentRule

theorem make_eq_whole {pattern message : String} {rule : CommentRule} {alone : Regex}
    (hne : pattern ≠ "") (hvalid : Regex.ofChars pattern.toList = .ok alone)
    (hrule : make pattern message = .ok rule) :
    ∃ r, Regex.ofCharsWith dotAll pattern.toList = .ok r ∧
      rule = ⟨pattern, message, some (wholeRegex r)⟩ := by
  rcases (make_eq_ok_iff hne).mp hrule with ⟨e, hwhole, rfl⟩
  rcases Regex.ofCharsWith_eq_ok_iff.mp hwhole with ⟨q, _, hq, he⟩
  rcases Regex.ofCharsWith_eq_ok_iff.mp hvalid with ⟨p, _, hp, _⟩
  obtain ⟨_, _, rfl⟩ := (ofChars_wholeText_iff hp).mp hq
  rw [toRegex_wholePattern] at he
  cases hregex : p.toRegex dotAll with
  | error fault => rw [hregex] at he; exact absurd he PatternReader.error_ne_ok
  | ok r =>
      rw [hregex] at he
      obtain rfl : wholeRegex r.1 = e := (Prod.mk.inj (Except.ok.inj he)).1
      exact ⟨r.1, Regex.ofCharsWith_eq_ok_iff.mpr ⟨p, r.2, hp, hregex⟩, rfl⟩

/-- A sweep finds the whole in a text where the expression matches from end to end. -/
theorem reports_iff_matchesAll {pattern message : String} {r : Regex}
    (hr : Regex.ofCharsWith dotAll pattern.toList = .ok r) (c : Comment) :
    reports ⟨pattern, message, some (wholeRegex r)⟩ c = true ↔ r.MatchesAll c.text.toList := by
  rcases Regex.ofCharsWith_eq_ok_iff.mp hr with ⟨p, after, hp, hregex⟩
  have hbounds : r.HasOrderedBounds :=
    Pattern.ordered_of_toRegex (Pattern.ordered_of_ofChars hp) hregex
  have hwhole : (wholeRegex r).HasOrderedBounds :=
    ⟨trivial, trivial, hbounds, trivial, trivial⟩
  exact (Regex.occursIn_iff hwhole c.text.toList).trans occurs_wholeRegex_iff

/-- A walk of the rule finds the comments that match from end to end, in order, and nothing else. -/
theorem findings_of_whole_matches {pattern message : String} {rule : CommentRule} {alone : Regex}
    (hne : pattern ≠ "") (hvalid : Regex.ofChars pattern.toList = .ok alone)
    (hrule : make pattern message = .ok rule) :
    ∃ r, Regex.ofCharsWith dotAll pattern.toList = .ok r ∧
      (∀ c, rule.reports c = true ↔ r.MatchesAll c.text.toList) ∧
      ∀ unit context, (walk rule.visitor unit context ()).value
        = ⟨(), context.report ((unit.comments.filter rule.reports).map
            fun c => ⟨ruleName, c.line, message⟩), none⟩ := by
  rcases make_eq_whole hne hvalid hrule with ⟨r, hr, rfl⟩
  exact ⟨r, hr, reports_iff_matchesAll hr, walk_value _⟩

-- The second branch does not match the rest of a comment that the first one matches the start of.
theorem findings_of_whole_matches_branches :
    ∃ rule r, make "// a|// b*?" "no" = .ok rule ∧
      Regex.ofCharsWith dotAll "// a|// b*?".toList = .ok r ∧
      r.MatchesAll "// bb".toList ∧ ¬ r.MatchesAll "// a b".toList ∧
      ∀ path context,
        (walk rule.visitor ⟨path, [.comment ⟨"// a b", 1, 1⟩, .comment ⟨"// bb", 2, 1⟩], false⟩
          context ()).value = ⟨(), context.report [⟨ruleName, 2, "no"⟩], none⟩ := by
  have hvalid : Regex.ofChars "// a|// b*?".toList = .ok _ := rfl
  have hrule : make "// a|// b*?" "no" = .ok _ := rfl
  rcases findings_of_whole_matches (by decide) hvalid hrule with ⟨r, hr, hmatch, hwalk⟩
  refine ⟨_, r, hrule, hr, (hmatch ⟨"// bb", 2, 1⟩).mp (by decide), ?_, fun path context => ?_⟩
  · intro hall
    have hreports := (hmatch ⟨"// a b", 1, 1⟩).mpr hall
    exact absurd hreports (by decide)
  · exact hwalk ⟨path, _, false⟩ context

end CommentRule

end CloneScan
