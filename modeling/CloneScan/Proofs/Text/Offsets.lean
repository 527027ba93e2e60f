import CloneScan.Text.Bytes
import CloneScan.Text.Lines
import Mathlib.Data.List.Basic

/-!
# Offsets and Lines

A text cut in two at some place, seen from both sides of the library: by the byte offset of the
cut, and by the line it falls in.

The first half says that cutting by bytes undoes putting together. An offset that is the size
of some first part is a place in the text, so `dropBytes`, `takeBytes` and `slice` give back the
parts and never fail there.

The second half looks at the line around the cut. `throughLastFeed` is all of the first part up
to its last line feed, and `afterLastFeed` is what it has of the line that the cut is in; the
rest of that line is in the second part. `getElem_lines` puts the line together: its number is
the number of line feeds before the cut.

## Main definitions

* `throughLastFeed`, `afterLastFeed`: A text up to its last line feed, and what follows.

## Theorems

* `size_append`: Sizes add up.
* `slice_middle`: A slice between two cuts is what lies between them.
* `slice_eq_some_iff`: Every slice is one between two cuts.
* `throughLastFeed_append`: A text is what its last line feed divides it into.
* `getLast?_throughLastFeed`, `feed_not_mem_afterLastFeed`: Where the last line feed is.
* `getElem_lines`: The line that a cut falls in.
* `length_lines`, `getLast?_lines`: How many lines there are, and which is the last.
* `cut_line`: A piece of a line, cut out by characters.
-/

namespace CloneScan

namespace Text

theorem size_append (first second : List Char) :
    size (first ++ second) = size first + size second := by
  induction first with
  | nil => rw [List.nil_append, size, Nat.zero_add]
  | cons c rest ih => rw [List.cons_append, size, ih, size, Nat.add_assoc]

/-- A character has bytes, so an offset behind it is no longer zero. -/
theorem utf8Size_add (c : Char) (n : Nat) :
    ∃ m, c.utf8Size + n = m + 1 ∧ m + 1 - c.utf8Size = n := by
  have hpos := c.utf8Size_pos
  exact ⟨c.utf8Size + n - 1, by omega, by omega⟩

theorem dropBytes_cons (c : Char) (rest : List Char) (n : Nat) :
    dropBytes (c.utf8Size + n) (c :: rest) = dropBytes n rest := by
  rcases utf8Size_add c n with ⟨m, hm, hrest⟩
  rw [hm, dropBytes, if_pos (by omega), hrest]

theorem takeBytes_cons (c : Char) (rest : List Char) (n : Nat) :
    takeBytes (c.utf8Size + n) (c :: rest) = (takeBytes n rest).map (c :: ·) := by
  rcases utf8Size_add c n with ⟨m, hm, hrest⟩
  rw [hm, takeBytes, if_pos (by omega), hrest]

theorem dropBytes_size (first second : List Char) :
    dropBytes (size first) (first ++ second) = some second := by
  induction first with
  | nil => rw [size, List.nil_append, dropBytes]
  | cons c rest ih => rw [size, List.cons_append, dropBytes_cons, ih]

theorem takeBytes_size (first second : List Char) :
    takeBytes (size first) (first ++ second) = some first := by
  induction first with
  | nil => rw [size, takeBytes]
  | cons c rest ih => rw [size, List.cons_append, takeBytes_cons, ih, Option.map_some]

/-- A slice between two cuts is what lies between them. -/
theorem slice_middle (first middle last : List Char) :
    slice (first ++ middle ++ last) (size first) (size (first ++ middle)) = some middle := by
  have hle : size first ≤ size (first ++ middle) := by
    rw [size_append]
    omega
  have hlength : size (first ++ middle) - size first = size middle := by
    rw [size_append]
    omega
  rw [slice, if_pos hle, hlength, List.append_assoc, dropBytes_size, Option.bind_some,
    takeBytes_size]

/-- An offset is the size of a first part, or it is not a place in the text. -/
theorem cut_cases (n : Nat) (text : List Char) :
    (takeBytes n text = none ∧ dropBytes n text = none) ∨
      ∃ first rest, text = first ++ rest ∧ size first = n := by
  induction text generalizing n with
  | nil =>
      cases n with
      | zero => exact Or.inr ⟨[], [], rfl, rfl⟩
      | succ n => exact Or.inl ⟨by rw [takeBytes], by rw [dropBytes]⟩
  | cons c later ih =>
      cases n with
      | zero => exact Or.inr ⟨[], c :: later, rfl, rfl⟩
      | succ n =>
          by_cases hfits : c.utf8Size ≤ n + 1
          · rcases ih (n + 1 - c.utf8Size) with ⟨htake, hdrop⟩ | ⟨first, rest, rfl, hsize⟩
            · refine Or.inl ⟨?_, ?_⟩
              · rw [takeBytes, if_pos hfits, htake, Option.map_none]
              · rw [dropBytes, if_pos hfits, hdrop]
            · refine Or.inr ⟨c :: first, rest, rfl, ?_⟩
              rw [size, hsize]
              omega
          · -- The offset falls inside the first character.
            exact Or.inl ⟨by rw [takeBytes, if_neg hfits], by rw [dropBytes, if_neg hfits]⟩

/-- What precedes an offset is a first part of that size. -/
theorem takeBytes_eq_some_iff {n : Nat} {text first : List Char} :
    takeBytes n text = some first ↔ ∃ rest, text = first ++ rest ∧ size first = n := by
  constructor
  · intro h
    -- If the offset is a place in the text, taking has only one answer there.
    rcases cut_cases n text with ⟨hnone, _⟩ | ⟨before, rest, rfl, rfl⟩
    · rw [hnone] at h
      exact absurd h (by simp only [reduceCtorEq, not_false_eq_true])
    · rw [takeBytes_size, Option.some.injEq] at h
      exact ⟨rest, h ▸ rfl, h ▸ rfl⟩
  · rintro ⟨rest, rfl, rfl⟩
    exact takeBytes_size first rest

/-- What follows an offset is what follows a first part of that size. -/
theorem dropBytes_eq_some_iff {n : Nat} {text rest : List Char} :
    dropBytes n text = some rest ↔ ∃ first, text = first ++ rest ∧ size first = n := by
  constructor
  · intro h
    rcases cut_cases n text with ⟨_, hnone⟩ | ⟨first, after, rfl, rfl⟩
    · rw [hnone] at h
      exact absurd h (by simp only [reduceCtorEq, not_false_eq_true])
    · rw [dropBytes_size, Option.some.injEq] at h
      exact ⟨first, h ▸ rfl, rfl⟩
  · rintro ⟨first, rfl, rfl⟩
    exact dropBytes_size first rest

/-- A slice is what lies between two cuts. -/
theorem slice_eq_some_iff {start stop : Nat} {text middle : List Char} :
    slice text start stop = some middle ↔
      ∃ first last, text = first ++ middle ++ last ∧ start = size first ∧
        stop = size (first ++ middle) := by
  constructor
  · intro h
    unfold slice at h
    by_cases hle : start ≤ stop
    · rw [if_pos hle, Option.bind_eq_some_iff] at h
      rcases h with ⟨after, hdrop, htake⟩
      rcases dropBytes_eq_some_iff.mp hdrop with ⟨first, rfl, rfl⟩
      rcases takeBytes_eq_some_iff.mp htake with ⟨last, rfl, hsize⟩
      refine ⟨first, last, (List.append_assoc _ _ _).symm, rfl, ?_⟩
      rw [size_append, hsize]
      omega
    · rw [if_neg hle] at h
      exact absurd h (by simp only [reduceCtorEq, not_false_eq_true])
  · rintro ⟨first, last, rfl, rfl, rfl⟩
    exact slice_middle first middle last

/-- A text up to its last line feed, which is part of it; nothing if there is none. -/
def throughLastFeed : List Char → List Char
  | [] => []
  | c :: rest => if '\n' ∈ c :: rest then c :: throughLastFeed rest else []

/-- A text after its last line feed; all of it if there is none. -/
def afterLastFeed : List Char → List Char
  | [] => []
  | c :: rest => if '\n' ∈ c :: rest then afterLastFeed rest else c :: rest

theorem afterLastFeed_of_not_mem {text : List Char} (h : '\n' ∉ text) :
    afterLastFeed text = text := by
  cases text with
  | nil => rfl
  | cons c rest => rw [afterLastFeed, if_neg h]

theorem throughLastFeed_append (text : List Char) :
    throughLastFeed text ++ afterLastFeed text = text := by
  induction text with
  | nil => rfl
  | cons c rest ih =>
      by_cases h : '\n' ∈ c :: rest
      · rw [throughLastFeed, afterLastFeed, if_pos h, if_pos h, List.cons_append, ih]
      · rw [throughLastFeed, afterLastFeed, if_neg h, if_neg h, List.nil_append]

theorem size_throughLastFeed_le (text : List Char) : size (throughLastFeed text) ≤ size text := by
  have hsize := congrArg size (throughLastFeed_append text)
  rw [size_append] at hsize
  omega

/-- A text up to its last line feed ends in one, if there is one. -/
theorem getLast?_throughLastFeed {text : List Char} (h : '\n' ∈ text) :
    (throughLastFeed text).getLast? = some '\n' := by
  induction text with
  | nil => exact absurd h List.not_mem_nil
  | cons c rest ih =>
      rw [throughLastFeed, if_pos h]
      by_cases hrest : '\n' ∈ rest
      · rw [List.getLast?_cons, ih hrest, Option.getD_some]
      · -- The first character is the last line feed.
        have hnil : throughLastFeed rest = [] := by
          cases rest with
          | nil => rfl
          | cons d later => rw [throughLastFeed, if_neg hrest]
        rcases List.mem_cons.mp h with rfl | hlater
        · rw [hnil]
          rfl
        · exact absurd hlater hrest

theorem feed_not_mem_afterLastFeed (text : List Char) : '\n' ∉ afterLastFeed text := by
  induction text with
  | nil => exact List.not_mem_nil
  | cons c rest ih =>
      by_cases h : '\n' ∈ c :: rest
      · rw [afterLastFeed, if_pos h]
        exact ih
      · rw [afterLastFeed, if_neg h]
        exact h

/-- The first line of a text is what stands before its first line feed. -/
theorem head?_lines (text : List Char) :
    (lines text).head? = some (text.takeWhile (· ≠ '\n')) := by
  induction text with
  | nil => rfl
  | cons c rest ih =>
      by_cases hc : c = '\n'
      · rw [lines, if_pos hc, List.takeWhile_cons_of_neg (by simpa using hc)]
        rfl
      · rw [lines, if_neg hc, List.takeWhile_cons_of_pos (by simpa using hc)]
        cases hlines : lines rest with
        | nil =>
            rw [hlines] at ih
            exact absurd ih (by simp only [List.head?_nil, reduceCtorEq, not_false_eq_true])
        | cons line later =>
            rw [hlines, List.head?_cons, Option.some.injEq] at ih
            rw [← ih]
            rfl

/-- A character that is no line feed goes to the first line and leaves the others alone. -/
theorem lines_cons_of_ne {c : Char} (hc : c ≠ '\n') (rest : List Char) :
    ∃ line later, lines rest = line :: later ∧ lines (c :: rest) = (c :: line) :: later := by
  cases hlines : lines rest with
  | nil =>
      have hhead := head?_lines rest
      rw [hlines] at hhead
      exact absurd hhead (by simp only [List.head?_nil, reduceCtorEq, not_false_eq_true])
  | cons line later =>
      refine ⟨line, later, rfl, ?_⟩
      rw [lines, if_neg hc, hlines]

/-- The line that a cut falls in. Its number is the number of line feeds before the cut, it begins
    with what the first part has after its last line feed, and it ends with what the second
    part has before its first. -/
theorem getElem_lines (before after : List Char) :
    (lines (before ++ after))[before.count '\n']?
      = some (afterLastFeed before ++ after.takeWhile (· ≠ '\n')) := by
  induction before with
  | nil =>
      rw [List.nil_append, List.count_nil, ← List.head?_eq_getElem?, head?_lines]
      rfl
  | cons c rest ih =>
      by_cases hc : c = '\n'
      · subst hc
        rw [List.cons_append, lines, if_pos rfl, List.count_cons_self, List.getElem?_cons_succ, ih,
          afterLastFeed, if_pos List.mem_cons_self]
      · rcases lines_cons_of_ne hc (rest ++ after) with ⟨line, later, hrest, hall⟩
        rw [List.cons_append, hall, List.count_cons_of_ne hc]
        rw [hrest] at ih
        by_cases hfeed : '\n' ∈ rest
        · -- The cut falls in a later line, which the character is not on.
          have hpos := List.count_pos_iff.mpr hfeed
          rcases Nat.exists_eq_succ_of_ne_zero (Nat.ne_of_gt hpos) with ⟨k, hk⟩
          rw [hk, List.getElem?_cons_succ] at ih ⊢
          rw [ih, afterLastFeed, if_pos (List.mem_cons_of_mem c hfeed)]
        · -- The cut falls in the line that the character begins.
          have hnone : '\n' ∉ c :: rest := by
            rw [List.mem_cons, not_or]
            exact ⟨fun h => hc h.symm, hfeed⟩
          rw [List.count_eq_zero.mpr hfeed, List.getElem?_cons_zero, Option.some.injEq] at ih ⊢
          rw [ih, afterLastFeed_of_not_mem hfeed, afterLastFeed_of_not_mem hnone,
            List.cons_append]

/-- There is one line more than there are line feeds. -/
theorem length_lines (text : List Char) : (lines text).length = text.count '\n' + 1 := by
  induction text with
  | nil => rfl
  | cons c rest ih =>
      by_cases hc : c = '\n'
      · rw [lines, if_pos hc, List.length_cons, ih, hc, List.count_cons_self]
      · rcases lines_cons_of_ne hc rest with ⟨line, later, hrest, hall⟩
        rw [hrest, List.length_cons] at ih
        rw [hall, List.length_cons, ih, List.count_cons_of_ne hc]

/-- The last line of a text is what follows its last line feed. -/
theorem getLast?_lines (text : List Char) :
    (lines text).getLast? = some (afterLastFeed text) := by
  -- It is the line that the end of the text falls in, where nothing is left of it.
  have hline := getElem_lines text []
  rw [List.append_nil, List.takeWhile_nil, List.append_nil] at hline
  rw [List.getLast?_eq_getElem?, length_lines, Nat.add_sub_cancel, hline]

theorem length_withoutReturn_le (line : List Char) :
    (withoutReturn line).length ≤ line.length := by
  unfold withoutReturn
  split
  · rw [List.length_dropLast]
    omega
  · exact Nat.le_refl _

/-- A piece of text that starts in a line and is not longer than what is left of the line lies
    in it, and its place there is counted in characters. -/
theorem cut_line (before piece rest : List Char)
    (h : (afterLastFeed before).length + piece.length
      ≤ (afterLastFeed before ++ (piece ++ rest).takeWhile (· ≠ '\n')).length) :
    ((afterLastFeed before ++ (piece ++ rest).takeWhile (· ≠ '\n')).take
        ((afterLastFeed before).length + piece.length)).drop (afterLastFeed before).length
      = piece := by
  rw [List.length_append] at h
  -- Both are first parts of what follows the cut, and the piece is the shorter one.
  have hprefix : piece <+: (piece ++ rest).takeWhile (· ≠ '\n') :=
    List.prefix_of_prefix_length_le (List.prefix_append piece rest) (List.takeWhile_prefix _)
      (by omega)
  rw [List.take_length_add_append, List.drop_left]
  exact (List.prefix_iff_eq_take.mp hprefix).symm

end Text

end CloneScan
