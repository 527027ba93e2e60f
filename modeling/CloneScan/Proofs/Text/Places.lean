import CloneScan.Proofs.Text.Offsets
import CloneScan.Span
import Mathlib.Data.List.TakeWhile

/-!
# Places of a Text

A first part of a text leads to a place: the line that it ends on and the number of characters
it has of that line. `placeAfter` is that place, and a longer first part leads to a place that
is no earlier. The places of a text are therefore ordered as its byte offsets are, which is
what makes an order of nodes an order of spans.

A span does not end at such a place by itself. It counts the characters of a piece from where
the piece starts and never looks at them, so for a piece with a line feed in it the count runs
on along the first line. `spanAfter` is the span so made. It ends no later than the piece
does, on an earlier line at the worst, and it ends where the piece does if there is no line
feed.

The last part is about the line that the file knows, which is one carriage return shorter than
the line of the text where that ends in one. `StaysInLine` says of a piece that it ends before
what ends its line, and `fits_iff` that this is what the count is compared with.

## Main definitions

* `Position.NotAfter`: A place precedes another one or is the same.
* `Text.placeAfter`: The place a first part of a text leads to.
* `Text.spanAfter`: The span that counts the characters of a piece.
* `Text.StaysInLine`: A piece ends before what ends its line.

## Theorems

* `Text.afterLastFeed_append_of_not_mem`: The last line of a first part goes on.
* `Text.prefix_of_size_le`: Of two first parts the one with fewer bytes is part of the other.
* `Text.cut_unique`: A text is cut in two at an offset in one way only.
* `Text.placeAfter_before`: A part that goes on after another one leads to a later place.
* `Text.placeAfter_notAfter`: A longer first part leads to a place that is no earlier.
* `Text.placeAfter_before_iff`: The places of a text are ordered as its offsets are.
* `Text.stop_spanAfter_notAfter`: A span ends no later than its piece.
* `Text.fits_iff`: When the characters of a piece fit on the line the file knows.
-/

namespace CloneScan

namespace Position

/-- A place precedes another one, or is the same. -/
def NotAfter (p q : Position) : Prop :=
  p.line < q.line ∨ p.line = q.line ∧ p.offset ≤ q.offset

instance (p q : Position) : Decidable (p.NotAfter q) :=
  inferInstanceAs (Decidable (_ ∨ _))

theorem NotAfter.trans {p q r : Position} (hpq : p.NotAfter q) (hqr : q.NotAfter r) :
    p.NotAfter r := by
  unfold NotAfter at *
  omega

theorem Before.trans_notAfter {p q r : Position} (hpq : p.Before q) (hqr : q.NotAfter r) :
    p.Before r := by
  unfold Before NotAfter at *
  omega

theorem Before.notAfter {p q : Position} (h : p.Before q) : p.NotAfter q := by
  unfold Before at h
  unfold NotAfter
  omega

/-- Nothing lies both before a place and not before it. -/
theorem not_before_of_notAfter {p q : Position} (h : p.NotAfter q) : ¬ q.Before p := by
  unfold Before NotAfter at *
  omega

end Position

namespace Text

/-- The last line of a first part goes on if no line feed follows. -/
theorem afterLastFeed_append_of_not_mem (first : List Char) {second : List Char}
    (h : '\n' ∉ second) :
    afterLastFeed (first ++ second) = afterLastFeed first ++ second := by
  induction first with
  | nil => exact afterLastFeed_of_not_mem h
  | cons c rest ih =>
      by_cases hfeed : '\n' ∈ c :: rest
      · have hmem : '\n' ∈ c :: (rest ++ second) := List.mem_append_left second hfeed
        rw [List.cons_append, afterLastFeed, if_pos hmem, ih, afterLastFeed, if_pos hfeed]
      · have hmem : '\n' ∉ (c :: rest) ++ second := by
          rw [List.mem_append, not_or]
          exact ⟨hfeed, h⟩
        rw [afterLastFeed_of_not_mem hmem, afterLastFeed_of_not_mem hfeed]

theorem eq_nil_of_size {text : List Char} (h : size text = 0) : text = [] := by
  cases text with
  | nil => rfl
  | cons c rest =>
      have hpos := c.utf8Size_pos
      rw [size] at h
      omega

/-- Of two first parts of a text, the one with no more bytes is a first part of the other. -/
theorem prefix_of_size_le {text first second : List Char} (hfirst : first <+: text)
    (hsecond : second <+: text) (h : size first ≤ size second) : first <+: second := by
  rcases List.prefix_or_prefix_of_prefix hfirst hsecond with hle | ⟨rest, rfl⟩
  · exact hle
  · -- The first part would be the longer one, so there is nothing it has more.
    rw [size_append] at h
    have hnil : rest = [] := eq_nil_of_size (by omega)
    exact ⟨[], by rw [hnil, List.append_nil, List.append_nil]⟩

/-- A text is cut in two at an offset in one way only. -/
theorem cut_unique {first rest other later : List Char} (h : first ++ rest = other ++ later)
    (hsize : size first = size other) : first = other ∧ rest = later := by
  have htake := takeBytes_size first rest
  rw [h, hsize, takeBytes_size, Option.some.injEq] at htake
  subst htake
  exact ⟨rfl, List.append_cancel_left h⟩

/-- The place that a first part of a text leads to: the line it ends on, and the number of
    characters it has of that line. -/
def placeAfter (before : List Char) : Position :=
  ⟨before.count '\n' + 1, (afterLastFeed before).length⟩

/-- A part that goes on after another one leads to a later place. -/
theorem placeAfter_before (first : List Char) {piece : List Char} (h : piece ≠ []) :
    (placeAfter first).Before (placeAfter (first ++ piece)) := by
  simp only [Position.Before, placeAfter, List.count_append]
  by_cases hfeed : '\n' ∈ piece
  · have hpos := List.count_pos_iff.mpr hfeed
    omega
  · have hpos := List.length_pos_of_ne_nil h
    rw [afterLastFeed_append_of_not_mem first hfeed, List.length_append,
      List.count_eq_zero.mpr hfeed]
    omega

/-- A longer first part leads to a place that is no earlier. -/
theorem placeAfter_notAfter {first second : List Char} (h : first <+: second) :
    (placeAfter first).NotAfter (placeAfter second) := by
  rcases h with ⟨piece, rfl⟩
  by_cases hpiece : piece = []
  · rw [hpiece, List.append_nil]
    exact Or.inr ⟨rfl, Nat.le_refl _⟩
  · exact (placeAfter_before first hpiece).notAfter

/-- The places of a text are ordered as the offsets are that lead to them. -/
theorem placeAfter_before_iff {text first second : List Char} (hfirst : first <+: text)
    (hsecond : second <+: text) :
    (placeAfter first).Before (placeAfter second) ↔ size first < size second := by
  constructor
  · intro hbefore
    by_contra hle
    have hpart := prefix_of_size_le hsecond hfirst (Nat.le_of_not_lt hle)
    exact Position.not_before_of_notAfter (placeAfter_notAfter hpart) hbefore
  · intro hlt
    rcases prefix_of_size_le hfirst hsecond (Nat.le_of_lt hlt) with ⟨piece, rfl⟩
    -- Nothing has no bytes, so there is something the second part has more.
    refine placeAfter_before first ?_
    rintro rfl
    rw [List.append_nil] at hlt
    exact Nat.lt_irrefl _ hlt

/-- The span that a piece has by its number of characters: they are all counted on the line that
    the piece starts on. -/
def spanAfter (before piece : List Char) : Span :=
  ⟨placeAfter before, ⟨(placeAfter before).line, (placeAfter before).offset + piece.length⟩⟩

/-- The span of a piece ends no later than the piece does. -/
theorem stop_spanAfter_notAfter (before piece : List Char) :
    (spanAfter before piece).stop.NotAfter (placeAfter (before ++ piece)) := by
  simp only [Position.NotAfter, spanAfter, placeAfter, List.count_append]
  by_cases hfeed : '\n' ∈ piece
  · -- The piece ends on a later line, however far the count has come.
    have hpos := List.count_pos_iff.mpr hfeed
    omega
  · rw [afterLastFeed_append_of_not_mem before hfeed, List.length_append]
    omega

/-- A piece of text ends before what ends the line it starts on: there is no line feed in it, and
    its last character is not the carriage return of a line ending, or of the last line. -/
def StaysInLine (piece rest : List Char) : Prop :=
  '\n' ∉ piece ∧
    ¬ (piece.getLast? = some '\r' ∧ (rest.head? = none ∨ rest.head? = some '\n'))

instance (piece rest : List Char) : Decidable (StaysInLine piece rest) :=
  inferInstanceAs (Decidable (_ ∧ _))

/-- Nothing is left of a line exactly if the text ends or a line feed follows. -/
theorem takeWhile_eq_nil_iff (rest : List Char) :
    rest.takeWhile (· ≠ '\n') = [] ↔ rest.head? = none ∨ rest.head? = some '\n' := by
  cases rest with
  | nil => simp only [List.takeWhile_nil, List.head?_nil, true_or]
  | cons c later =>
      by_cases hc : c = '\n'
      · simp only [hc, ne_eq, not_true_eq_false, decide_false, Bool.false_eq_true,
          not_false_eq_true, List.takeWhile_cons_of_neg, List.head?_cons, or_true]
      · simp only [ne_eq, hc, not_false_eq_true, decide_true, List.takeWhile_cons_of_pos,
          reduceCtorEq, List.head?_cons, Option.some.injEq, or_self]

/-- A line that is longer than a part of it is no shorter than the part without its carriage
    return, and a line that is not longer is shorter if it ends in one. -/
theorem le_length_withoutReturn_iff (part more : List Char) (h : part ≠ []) :
    part.length ≤ (withoutReturn (part ++ more)).length ↔
      ¬ (part.getLast? = some '\r' ∧ more = []) := by
  cases more with
  | nil =>
      rw [List.append_nil, withoutReturn]
      by_cases hlast : part.getLast? = some '\r'
      · have hpos := List.length_pos_of_ne_nil h
        rw [if_pos hlast, List.length_dropLast]
        simp only [hlast, and_self, not_true_eq_false, iff_false]
        omega
      · rw [if_neg hlast]
        exact ⟨fun _ hboth => hlast hboth.1, fun _ => Nat.le_refl _⟩
  | cons c later =>
      have hlength : part.length ≤ (withoutReturn (part ++ c :: later)).length := by
        unfold withoutReturn
        split
        · simp only [List.length_dropLast, List.length_append, List.length_cons]
          omega
        · simp only [List.length_append]
          omega
      exact ⟨fun _ hboth => List.cons_ne_nil c later hboth.2, fun _ => hlength⟩

/-- The characters of a piece, counted from where it starts, fit on the line without its carriage
    return exactly if the piece ends before what ends the line. -/
theorem fits_iff (before rest : List Char) {piece : List Char} (h : piece ≠ []) :
    (afterLastFeed before).length + piece.length
        ≤ (withoutReturn
            (afterLastFeed before ++ (piece ++ rest).takeWhile (· ≠ '\n'))).length ↔
      StaysInLine piece rest := by
  by_cases hfeed : '\n' ∈ piece
  · -- The line ends inside the piece, so the piece is longer than what is left of the line.
    have hshort : ((piece ++ rest).takeWhile (· ≠ '\n')).length < piece.length := by
      by_contra hlong
      have hpiece : piece <+: (piece ++ rest).takeWhile (· ≠ '\n') :=
        List.prefix_of_prefix_length_le (List.prefix_append piece rest)
          (List.takeWhile_prefix _) (Nat.le_of_not_lt hlong)
      have hkept := List.mem_takeWhile_imp (hpiece.subset hfeed)
      exact of_decide_eq_true hkept rfl
    have hcut := length_withoutReturn_le
      (afterLastFeed before ++ (piece ++ rest).takeWhile (· ≠ '\n'))
    rw [List.length_append] at hcut
    refine ⟨fun hle => ?_, fun hstays => absurd hfeed hstays.1⟩
    omega
  · have hall : (piece ++ rest).takeWhile (· ≠ '\n') = piece ++ rest.takeWhile (· ≠ '\n') :=
      List.takeWhile_append_of_pos fun c hc => decide_eq_true fun heq => hfeed (heq ▸ hc)
    have hpart : afterLastFeed before ++ piece ≠ [] := List.append_ne_nil_of_right_ne_nil _ h
    have hlast : (afterLastFeed before ++ piece).getLast? = piece.getLast? :=
      List.getLast?_append_of_ne_nil _ h
    rw [hall, ← List.append_assoc, ← List.length_append, le_length_withoutReturn_iff _ _ hpart,
      hlast, takeWhile_eq_nil_iff, StaysInLine]
    exact ⟨fun hends => ⟨hfeed, hends⟩, fun hstays => hstays.2⟩

end Text

end CloneScan
