import CloneScan.SourceFile

/-!
# When a Token Has a Span

A span is built in three steps, each of which can refuse: a place is looked up, two places are
put in order, and a token is given its two places. Read from the other end, each step succeeds
under a condition on the file alone, and the condition determines what it gives.

`SourceFile.Holds` is the condition for tokens. Everything that is said about where the clone
tokens of a file stand goes through it, so that the three steps are opened only here.

## Main definitions

* `SourceFile.Holds`: A token lies on its line from an offset on.

## Theorems

* `SourceFile.position_eq_ok_iff`: When there is such a place.
* `SourceFile.span_eq_ok_iff`: When two places are the ends of a span.
* `SourceFile.tokenSpan_eq_ok_iff`: When a token has a span, and which.
* `SourceFile.before_of_tokenSpan`: Such a span is not empty.
* `SourceFile.lineLength_ofText`: The lengths of the lines of a text that was measured.
-/

namespace CloneScan

namespace SourceFile

/-- There is such a place exactly if the line is there and reaches that far. -/
theorem position_eq_ok_iff {f : SourceFile} {line offset : Nat} {p : Position} :
    f.position line offset = .ok p ↔
      (∃ length, f.lineLength line = some length ∧ offset ≤ length) ∧ p = ⟨line, offset⟩ := by
  unfold position
  cases hline : f.lineLength line with
  | none =>
      refine ⟨fun h => Except.noConfusion rfl rfl (heq_of_eq h), ?_⟩
      rintro ⟨⟨length, hlength, _⟩, _⟩
      exact absurd hlength (by simp only [reduceCtorEq, not_false_eq_true])
  | some length =>
      by_cases hbeyond : offset > length
      · simp only [if_pos hbeyond, reduceCtorEq, false_iff]
        rintro ⟨⟨other, hother, hle⟩, _⟩
        rw [Option.some.injEq] at hother
        omega
      · simp only [if_neg hbeyond, Except.ok.injEq]
        constructor
        · intro h
          exact ⟨⟨length, rfl, Nat.le_of_not_gt hbeyond⟩, h.symm⟩
        · rintro ⟨_, hp⟩
          exact hp.symm

/-- Two places are the ends of a span exactly if both are there and the first precedes the
    second. -/
theorem span_eq_ok_iff {f : SourceFile} {start stop : Position} {s : Span} :
    f.span start stop = .ok s ↔
      f.position start.line start.offset = .ok start ∧
      f.position stop.line stop.offset = .ok stop ∧ start.Before stop ∧ s = ⟨start, stop⟩ := by
  unfold span
  cases hfirst : f.position start.line start.offset with
  | error cause => simp only [bind, Except.bind, reduceCtorEq, false_and]
  | ok first =>
      -- A place that was found is the place that was asked for.
      have hstart : first = start := (position_eq_ok_iff.mp hfirst).2
      subst hstart
      cases hlast : f.position stop.line stop.offset with
      | error cause => simp only [bind, Except.bind, reduceCtorEq, false_and, and_false]
      | ok last =>
          have hstop : last = stop := (position_eq_ok_iff.mp hlast).2
          subst hstop
          by_cases hbefore : first.Before last
          · simp only [bind, Except.bind, pure, Except.pure, hbefore, if_true, Except.ok.injEq,
              true_and]
            exact eq_comm
          · simp only [bind, Except.bind, throw, throwThe, MonadExceptOf.throw, hbefore, if_false,
              reduceCtorEq, false_and, and_false]

/-- The characters of a token lie on its line from an offset on, and their end has a number. -/
structure Holds (f : SourceFile) (t : Token) (offset : Nat) : Prop where
  /-- The token starts at the offset. -/
  starts : t.column = offset + 1
  /-- There is something of it. -/
  covers : 0 < t.charLength
  /-- Its line is there and reaches as far as it does. -/
  fits : ∃ length, f.lineLength t.line = some length ∧ offset + t.charLength ≤ length
  /-- A word holds the place where it ends. -/
  numbered : offset + t.charLength < wordLimit

/-- A token has a span exactly if its line holds it, and the span is where it is held. -/
theorem tokenSpan_eq_ok_iff {f : SourceFile} {t : Token} {s : Span} :
    f.tokenSpan t = .ok s ↔
      ∃ offset, f.Holds t offset ∧
        s = ⟨⟨t.line, offset⟩, ⟨t.line, offset + t.charLength⟩⟩ := by
  unfold tokenSpan
  cases hcolumn : t.column with
  | zero =>
      simp only [reduceCtorEq, false_iff]
      rintro ⟨offset, hholds, _⟩
      have hstarts := hholds.starts
      omega
  | succ offset =>
      by_cases hword : offset + t.charLength < wordLimit
      · simp only [if_pos hword, span_eq_ok_iff, position_eq_ok_iff]
        constructor
        · -- The line holds the start if it holds the end, and the two are in order if the
          -- token has characters.
          rintro ⟨_, ⟨hlast, _⟩, hbefore, hs⟩
          have hcovers : 0 < t.charLength := by
            simp only [Position.Before] at hbefore
            omega
          exact ⟨offset, ⟨hcolumn, hcovers, hlast, hword⟩, hs⟩
        · rintro ⟨other, hholds, hs⟩
          have hoffset : other = offset := by
            have hstarts := hholds.starts
            omega
          subst hoffset
          rcases hholds.fits with ⟨length, hlength, hle⟩
          have hcovers := hholds.covers
          have hbefore : Position.Before ⟨t.line, other⟩ ⟨t.line, other + t.charLength⟩ :=
            Or.inr ⟨rfl, Nat.lt_add_of_pos_right hcovers⟩
          exact ⟨⟨⟨length, hlength, by omega⟩, trivial⟩, ⟨⟨length, hlength, hle⟩, trivial⟩,
            hbefore, hs⟩
      · simp only [if_neg hword, reduceCtorEq, false_iff]
        rintro ⟨other, hholds, _⟩
        have hstarts := hholds.starts
        have hnumbered := hholds.numbered
        have hoffset : other = offset := by omega
        exact hword (hoffset ▸ hnumbered)

/-- A span that a token has is not empty. -/
theorem before_of_tokenSpan {f : SourceFile} {t : Token} {s : Span} (h : f.tokenSpan t = .ok s) :
    s.start.Before s.stop := by
  rcases tokenSpan_eq_ok_iff.mp h with ⟨offset, hholds, rfl⟩
  exact Or.inr ⟨rfl, Nat.lt_add_of_pos_right hholds.covers⟩

theorem lineLength_ofText (path : Path) (text : String) (n : Nat) :
    (ofText path text).lineLength (n + 1)
      = (Text.lines text.toList)[n]?.map fun line => (Text.withoutReturn line).length := by
  simp only [ofText, lineLength, List.getElem?_toArray, List.getElem?_map]

end SourceFile

end CloneScan
