import CloneScan.SourceFile

/-!
# Spans by Exact Arithmetic

A token says where it starts, and where it ends has to be counted. The count is held in a word,
so a token far to the right can end at a place that no word holds. Numbers as such have no
limit, and with them the span of a token is a plain matter: there is a list of things that can
be wrong with it, and the first that is wrong is the reason it is refused. `exactSpan` is that
list.

The file asks for the count before it asks for anything else about the line. As long as a word
holds the count, this changes nothing. When no word does, the token is refused as lying beyond
its line, and the offset named is the one where it starts. That is the right reason if the line
is there and ends before the token starts, which is what such a token nearly always does. It is
the wrong one if there is no such line. The refusal then speaks of a line of length zero, while
a shorter token at the same place is told that the line is missing.

`Overruns` is the condition for that, and it is exact: the two agree everywhere else
(`tokenSpan_eq_exactSpan_iff`). Nothing is accepted for it that should have been refused.

## Main definitions

* `SourceFile.exactSpan`: The span of a token, counted without a limit.
* `SourceFile.Overruns`: The end of a token has no number, and its line does not tell.

## Theorems

* `SourceFile.span_of_column`: Without a limit the span is that of the two places.
* `SourceFile.tokenSpan_of_numbered`, `SourceFile.tokenSpan_of_not_numbered`: What the file
  answers, by whether a word holds the end.
* `SourceFile.tokenSpan_eq_exactSpan_iff`: When the two agree, and what they say when not.
* `SourceFile.missing_line_is_not_named`: A line that is not there is given a length.
-/

namespace CloneScan

namespace SourceFile

/-- The span of a token on its own line, counted without a limit. What can be wrong is looked for
    in this order: the column, the line, the start, the end, and that there is something of the
    token. -/
def exactSpan (f : SourceFile) (t : Token) : Except SpanError Span :=
  match t.column, f.lineLength t.line with
  | 0, _ => .error (.zeroColumn t.line)
  | _ + 1, none => .error (.noSuchLine t.line f.lineCount)
  | offset + 1, some length =>
    let stop := offset + t.charLength
    if offset > length then .error (.beyondLine t.line offset length)
    else if stop > length then .error (.beyondLine t.line stop length)
    else if t.charLength = 0 then .error (.empty ⟨t.line, offset⟩ ⟨t.line, stop⟩)
    else .ok ⟨⟨t.line, offset⟩, ⟨t.line, stop⟩⟩

/-- A token starts at an offset, no word holds the place where it ends, and its line does not end
    before it starts: there is no such line, or the line is as long as words are. -/
structure Overruns (f : SourceFile) (t : Token) (offset : Nat) : Prop where
  /-- The token starts at the offset. -/
  starts : t.column = offset + 1
  /-- No word holds the place where it ends. -/
  notNumbered : wordLimit ≤ offset + t.charLength
  /-- The line does not end before the offset. -/
  notBeyond : ∀ length, f.lineLength t.line = some length → offset ≤ length

/-- Without a limit the span of a token is the span of its two places. -/
theorem span_of_column {f : SourceFile} {t : Token} {offset : Nat}
    (hcolumn : t.column = offset + 1) :
    f.span ⟨t.line, offset⟩ ⟨t.line, offset + t.charLength⟩ = f.exactSpan t := by
  unfold span exactSpan
  simp only [hcolumn, position]
  cases hline : f.lineLength t.line with
  | none => rfl
  | some length =>
      by_cases hstart : offset > length
      · simp only [if_pos hstart]
        rfl
      · by_cases hstop : offset + t.charLength > length
        · simp only [if_neg hstart, if_pos hstop]
          rfl
        · -- Both places are there, and they are in order if the token has characters.
          have hordered : Position.Before ⟨t.line, offset⟩ ⟨t.line, offset + t.charLength⟩ ↔
              ¬ t.charLength = 0 := by
            simp only [Position.Before, Nat.lt_irrefl, true_and, false_or]
            omega
          simp only [if_neg hstart, if_neg hstop, bind, Except.bind, pure, Except.pure]
          by_cases hempty : t.charLength = 0
          · rw [if_neg (fun h => hordered.mp h hempty), if_pos hempty]
            rfl
          · rw [if_pos (hordered.mpr hempty), if_neg hempty]

/-- The file counts exactly as long as a word holds the end. -/
theorem tokenSpan_of_numbered {f : SourceFile} {t : Token} {offset : Nat}
    (hcolumn : t.column = offset + 1) (hnumbered : offset + t.charLength < wordLimit) :
    f.tokenSpan t = f.exactSpan t := by
  rw [← span_of_column hcolumn]
  simp only [tokenSpan, hcolumn, if_pos hnumbered]

/-- When no word holds the end, the token is refused as lying beyond its line, whether or not
    there is one. -/
theorem tokenSpan_of_not_numbered {f : SourceFile} {t : Token} {offset : Nat}
    (hcolumn : t.column = offset + 1) (hnumbered : wordLimit ≤ offset + t.charLength) :
    f.tokenSpan t = .error (.beyondLine t.line offset ((f.lineLength t.line).getD 0)) := by
  simp only [tokenSpan, hcolumn, if_neg (Nat.not_lt.mpr hnumbered)]

/-- Without a limit a token is refused as lying beyond its line from its start on, if the line ends
    before it starts. -/
theorem exactSpan_of_beyond {f : SourceFile} {t : Token} {offset length : Nat}
    (hcolumn : t.column = offset + 1) (hline : f.lineLength t.line = some length)
    (hbeyond : length < offset) :
    f.exactSpan t = .error (.beyondLine t.line offset length) := by
  simp only [exactSpan, hcolumn, hline, if_pos (show offset > length from hbeyond)]

/-- A token that overruns its line is not refused for where it starts. -/
theorem Overruns.exactSpan_ne {f : SourceFile} {t : Token} {offset : Nat}
    (h : f.Overruns t offset) :
    f.exactSpan t ≠ .error (.beyondLine t.line offset ((f.lineLength t.line).getD 0)) := by
  unfold exactSpan
  cases hline : f.lineLength t.line with
  | none => simp only [h.starts, ne_eq, Except.error.injEq, reduceCtorEq, not_false_eq_true]
  | some length =>
      have hstart : ¬ offset > length := Nat.not_lt.mpr (h.notBeyond length hline)
      simp only [h.starts, if_neg hstart, Option.getD_some]
      split
      · -- It is refused for where it ends, and a token that ends elsewhere has characters.
        rename_i hstop
        simp only [ne_eq, Except.error.injEq, SpanError.beyondLine.injEq, true_and, and_true]
        omega
      · split
        · simp only [ne_eq, Except.error.injEq, reduceCtorEq, not_false_eq_true]
        · simp only [ne_eq, reduceCtorEq, not_false_eq_true]

/-- The file gives a token the span or the refusal of exact arithmetic, with the same cause and
    the same numbers in it, exactly if the token does not overrun its line. If it does, the
    refusal says that its start lies beyond a line of the length that is known, zero if there is
    no such line. The true reason is then that there is no such line, or else the line and the
    token have more characters together than a word can count. -/
theorem tokenSpan_eq_exactSpan_iff (f : SourceFile) (t : Token) :
    (f.tokenSpan t = f.exactSpan t ↔ ¬ ∃ offset, f.Overruns t offset) ∧
    ∀ offset, f.Overruns t offset →
      f.tokenSpan t = .error (.beyondLine t.line offset ((f.lineLength t.line).getD 0)) ∧
      (f.exactSpan t = .error (.noSuchLine t.line f.lineCount) ∨
        ∃ length, f.lineLength t.line = some length ∧ wordLimit ≤ length + t.charLength) := by
  refine ⟨⟨?_, ?_⟩, ?_⟩
  · rintro hsame ⟨offset, hover⟩
    rw [tokenSpan_of_not_numbered hover.starts hover.notNumbered] at hsame
    exact hover.exactSpan_ne hsame.symm
  · intro hnone
    cases hcolumn : t.column with
    | zero => simp only [tokenSpan, exactSpan, hcolumn]
    | succ offset =>
        by_cases hnumbered : offset + t.charLength < wordLimit
        · exact tokenSpan_of_numbered hcolumn hnumbered
        · -- The line has to end before the token starts, which is reason enough for both.
          have hword : wordLimit ≤ offset + t.charLength := Nat.not_lt.mp hnumbered
          have hbeyond : ∃ length, f.lineLength t.line = some length ∧ length < offset :=
            Classical.byContradiction fun hno => hnone ⟨offset, hcolumn, hword,
              fun length hline => Nat.not_lt.mp fun hlt => hno ⟨length, hline, hlt⟩⟩
          rcases hbeyond with ⟨length, hline, hlt⟩
          rw [tokenSpan_of_not_numbered hcolumn hword, exactSpan_of_beyond hcolumn hline hlt, hline,
            Option.getD_some]
  · intro offset hover
    refine ⟨tokenSpan_of_not_numbered hover.starts hover.notNumbered, ?_⟩
    cases hline : f.lineLength t.line with
    | none =>
        refine Or.inl ?_
        simp only [exactSpan, hover.starts, hline]
    | some length =>
        have hle := hover.notBeyond length hline
        have hword := hover.notNumbered
        exact Or.inr ⟨length, rfl, by omega⟩

/-- In a file of three lines, a name on line nine at the greatest column a word holds is refused for
    an offset beyond a line of length zero. Exact arithmetic says that there is no line nine, as
    the file does of a name at the first column there. -/
theorem missing_line_is_not_named :
    let f := ofText ⟨"a.cpp"⟩ "int f() \x7b\n\x7d\n"
    f.tokenSpan ⟨.identifier, "foo", 9, 18446744073709551615, false⟩
      = .error (.beyondLine 9 18446744073709551614 0) ∧
    f.exactSpan ⟨.identifier, "foo", 9, 18446744073709551615, false⟩
      = .error (.noSuchLine 9 3) ∧
    f.tokenSpan ⟨.identifier, "foo", 9, 1, false⟩ = .error (.noSuchLine 9 3) ∧
    ¬ ∀ (g : SourceFile) (t : Token), g.tokenSpan t = g.exactSpan t := by
  intro f
  have hmissing : f.lineLength 9 = none := by
    decide +kernel
  have hwrong : f.tokenSpan ⟨.identifier, "foo", 9, 18446744073709551615, false⟩
      = .error (.beyondLine 9 18446744073709551614 0) := by
    rw [tokenSpan_of_not_numbered rfl (by decide), hmissing, Option.getD_none]
  have hright (column : Nat) :
      f.exactSpan ⟨.identifier, "foo", 9, column + 1, false⟩ = .error (.noSuchLine 9 3) := by
    have hlines : f.lineCount = 3 := by
      decide +kernel
    simp only [exactSpan, hmissing, hlines]
  have hfirst : f.tokenSpan ⟨.identifier, "foo", 9, 1, false⟩ = .error (.noSuchLine 9 3) := by
    rw [tokenSpan_of_numbered rfl (by decide), hright 0]
  refine ⟨hwrong, hright 18446744073709551614, hfirst, fun hall => ?_⟩
  have hsame := hall f ⟨.identifier, "foo", 9, 18446744073709551615, false⟩
  rw [hwrong, hright 18446744073709551614, Except.error.injEq] at hsame
  exact absurd hsame (by decide)

end SourceFile

end CloneScan
