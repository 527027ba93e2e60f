import CloneScan.Proofs.Text.Places

/-!
# Carriage Returns before Line Feeds

The same text with other line endings: some of its line feeds are made into two characters, with
a carriage return before each of them. Which ones is arbitrary, as a text that went through
several hands has endings of both sorts.

A carriage return is put in at the end of a line only, and nothing but the end of a line is
changed. So a cut of the text is a cut of the changed text (`withReturns_append`), on the same
line and after as many characters of it (`afterLastFeed_withReturns`); a piece without a line
feed stays what it is. The offset of the cut moves by the carriage returns before it
(`movedOffset_size`).

The lines themselves are one character longer or not. That character is the one a file does not
count, so a text whose lines do not end in carriage returns of their own has all its lines as
long as before (`withoutReturn_lines_withReturns`).

## Main definitions

* `Text.withReturns`: A text with carriage returns before some of its line feeds.
* `Text.returnsIn`: How many were put into a text.
* `Text.movedOffset`: Where an offset of the text is found in the changed one.

## Theorems

* `Text.withReturns_append`: A cut of the text is a cut of the changed one.
* `Text.size_withReturns`, `Text.movedOffset_size`: How far a cut moves.
* `Text.afterLastFeed_withReturns`: It stays at the same character of the same line.
* `Text.withoutReturn_lines_withReturns`: The lines are the same but for carriage returns.
-/

namespace CloneScan

namespace Text

/-- A text with a carriage return before some of its line feeds. The line feeds are numbered, from
    `n` on, and `pick` says which of them get one. -/
def withReturns (pick : Nat → Bool) : Nat → List Char → List Char
  | _, [] => []
  | n, c :: rest =>
    if c = '\n' then
      if pick n then '\r' :: '\n' :: withReturns pick (n + 1) rest
      else '\n' :: withReturns pick (n + 1) rest
    else c :: withReturns pick n rest

/-- The number of carriage returns that are put into a text whose line feeds are numbered from `n`
    on. -/
def returnsIn (pick : Nat → Bool) (n : Nat) (text : List Char) : Nat :=
  (List.range' n (text.count '\n')).countP pick

/-- The offset in the changed text that an offset of the text becomes: it moves by the carriage
    returns of the line feeds before it. -/
def movedOffset (pick : Nat → Bool) (text : List Char) (offset : Nat) : Nat :=
  offset + returnsIn pick 0 ((takeBytes offset text).getD [])

variable (pick : Nat → Bool)

theorem withReturns_cons_of_ne {c : Char} (hc : c ≠ '\n') (n : Nat) (rest : List Char) :
    withReturns pick n (c :: rest) = c :: withReturns pick n rest := by
  rw [withReturns, if_neg hc]

/-- A line feed becomes an ending of one character or of two. -/
theorem withReturns_feed (n : Nat) (rest : List Char) :
    (pick n = true ∧
        withReturns pick n ('\n' :: rest) = '\r' :: '\n' :: withReturns pick (n + 1) rest) ∨
      (pick n = false ∧
        withReturns pick n ('\n' :: rest) = '\n' :: withReturns pick (n + 1) rest) := by
  rw [withReturns, if_pos rfl]
  cases pick n with
  | true => exact Or.inl ⟨rfl, rfl⟩
  | false => exact Or.inr ⟨rfl, rfl⟩

/-- A cut of the text is a cut of the changed one. In the second part the numbering goes on. -/
theorem withReturns_append (n : Nat) (first second : List Char) :
    withReturns pick n (first ++ second)
      = withReturns pick n first ++ withReturns pick (n + first.count '\n') second := by
  induction first generalizing n with
  | nil => rfl
  | cons c rest ih =>
      by_cases hc : c = '\n'
      · subst hc
        have hcount : n + ('\n' :: rest).count '\n' = n + 1 + rest.count '\n' := by
          rw [List.count_cons_self]
          omega
        rw [hcount, List.cons_append]
        rcases withReturns_feed pick n rest with ⟨hpick, hrest⟩ | ⟨hpick, hrest⟩
        · rw [hrest, withReturns, if_pos rfl, if_pos hpick, ih, List.cons_append, List.cons_append]
        · have hnot : ¬ pick n = true := Bool.not_eq_true _ ▸ hpick
          rw [hrest, withReturns, if_pos rfl, if_neg hnot, ih, List.cons_append]
      · rw [List.cons_append, withReturns_cons_of_ne pick hc, withReturns_cons_of_ne pick hc, ih,
          List.count_cons_of_ne hc, List.cons_append]

/-- A piece without a line feed stays what it is. -/
theorem withReturns_of_not_mem (n : Nat) {text : List Char} (h : '\n' ∉ text) :
    withReturns pick n text = text := by
  induction text with
  | nil => rfl
  | cons c rest ih =>
      rw [List.mem_cons, not_or] at h
      rw [withReturns_cons_of_ne pick (Ne.symm h.1), ih h.2]

/-- No line feed is added, and none is lost. -/
theorem count_withReturns (n : Nat) (text : List Char) :
    (withReturns pick n text).count '\n' = text.count '\n' := by
  have hreturn : '\r' ≠ '\n' := by decide
  induction text generalizing n with
  | nil => rfl
  | cons c rest ih =>
      by_cases hc : c = '\n'
      · subst hc
        rcases withReturns_feed pick n rest with ⟨_, hrest⟩ | ⟨_, hrest⟩
        · rw [hrest, List.count_cons_of_ne hreturn, List.count_cons_self, List.count_cons_self, ih]
        · rw [hrest, List.count_cons_self, List.count_cons_self, ih]
      · rw [withReturns_cons_of_ne pick hc, List.count_cons_of_ne hc, List.count_cons_of_ne hc, ih]

theorem feed_mem_withReturns_iff (n : Nat) (text : List Char) :
    '\n' ∈ withReturns pick n text ↔ '\n' ∈ text := by
  rw [← List.count_pos_iff, count_withReturns, List.count_pos_iff]

/-- Each carriage return is one byte more. -/
theorem size_withReturns (n : Nat) (text : List Char) :
    size (withReturns pick n text) = size text + returnsIn pick n text := by
  induction text generalizing n with
  | nil => rfl
  | cons c rest ih =>
      by_cases hc : c = '\n'
      · subst hc
        -- The first number is that of the line feed, and the others are those of the rest.
        have hreturns : returnsIn pick n ('\n' :: rest)
            = (if pick n = true then 1 else 0) + returnsIn pick (n + 1) rest := by
          rw [returnsIn, List.count_cons_self, List.range'_succ, List.countP_cons, returnsIn,
            Nat.add_comm]
        have hone : Char.utf8Size '\r' = 1 := rfl
        rcases withReturns_feed pick n rest with ⟨hpick, hrest⟩ | ⟨hpick, hrest⟩
        · rw [hrest, hreturns, if_pos hpick, size, size, size, ih, hone]
          omega
        · have hnot : ¬ pick n = true := Bool.not_eq_true _ ▸ hpick
          rw [hrest, hreturns, if_neg hnot, size, size, ih]
          omega
      · have hreturns : returnsIn pick n (c :: rest) = returnsIn pick n rest := by
          rw [returnsIn, List.count_cons_of_ne hc, returnsIn]
        rw [withReturns_cons_of_ne pick hc, hreturns, size, size, ih, Nat.add_assoc]

/-- The offset of a cut becomes the offset of the same cut in the changed text. -/
theorem movedOffset_size (before after : List Char) :
    movedOffset pick (before ++ after) (size before) = size (withReturns pick 0 before) := by
  rw [movedOffset, takeBytes_size, Option.getD_some, size_withReturns]

/-- A cut stays after the same characters of its line. -/
theorem afterLastFeed_withReturns (n : Nat) (text : List Char) :
    afterLastFeed (withReturns pick n text) = afterLastFeed text := by
  induction text generalizing n with
  | nil => rfl
  | cons c rest ih =>
      by_cases hc : c = '\n'
      · subst hc
        have hfeed (more : List Char) : afterLastFeed ('\n' :: more) = afterLastFeed more := by
          rw [afterLastFeed, if_pos List.mem_cons_self]
        rcases withReturns_feed pick n rest with ⟨_, hrest⟩ | ⟨_, hrest⟩
        · have hmem (more : List Char) : '\n' ∈ '\r' :: '\n' :: more :=
            List.mem_cons_of_mem _ List.mem_cons_self
          rw [hrest, afterLastFeed, if_pos (hmem _), hfeed, hfeed, ih]
        · rw [hrest, hfeed, hfeed, ih]
      · rw [withReturns_cons_of_ne pick hc]
        by_cases hfeed : '\n' ∈ rest
        · -- The character is on an earlier line than the cut, in both texts.
          have hfeed' := (feed_mem_withReturns_iff pick n rest).mpr hfeed
          rw [afterLastFeed, if_pos (List.mem_cons_of_mem c hfeed'), ih, afterLastFeed,
            if_pos (List.mem_cons_of_mem c hfeed)]
        · rw [withReturns_of_not_mem pick n hfeed]

/-- A character put before a line goes before what the line is without its carriage return, unless
    it is itself a carriage return and all there is of the line. -/
theorem withoutReturn_cons (c : Char) (line : List Char) (h : line = [] → c ≠ '\r') :
    withoutReturn (c :: line) = c :: withoutReturn line := by
  unfold withoutReturn
  cases line with
  | nil =>
      have hlast : ¬ [c].getLast? = some '\r' := fun heq => h rfl (Option.some.inj heq)
      rw [if_neg hlast]
      rfl
  | cons d more =>
      rw [List.getLast?_cons_cons]
      split
      · rfl
      · rfl

/-- The lines of the changed text, without the carriage returns that end them, are the lines of
    the text, if none of those ends in one. -/
theorem withoutReturn_lines_withReturns (n : Nat) (text : List Char)
    (h : ∀ line ∈ lines text, line.getLast? ≠ some '\r') :
    (lines (withReturns pick n text)).map withoutReturn = lines text := by
  induction text generalizing n with
  | nil => rfl
  | cons c rest ih =>
      by_cases hc : c = '\n'
      · -- The line that ends here is empty, or is a carriage return that does not count.
        subst hc
        have hlines (more : List Char) : lines ('\n' :: more) = [] :: lines more := by
          rw [lines, if_pos rfl]
        have hthen := ih (n + 1) fun line hline => h line (by
          rw [hlines]
          exact List.mem_cons_of_mem _ hline)
        rcases withReturns_feed pick n rest with ⟨_, hrest⟩ | ⟨_, hrest⟩
        · have hreturn : '\r' ≠ '\n' := by decide
          rcases lines_cons_of_ne hreturn ('\n' :: withReturns pick (n + 1) rest) with
            ⟨line, later, hinner, houter⟩
          rw [hlines, List.cons.injEq] at hinner
          rw [hrest, houter, ← hinner.1, ← hinner.2, List.map_cons, hthen, hlines]
          rfl
        · rw [hrest, hlines, List.map_cons, hthen, hlines]
          rfl
      · -- The character goes to the first line of both texts, which is empty in both or in neither.
        rcases lines_cons_of_ne hc rest with ⟨line, later, hrest, hall⟩
        rcases lines_cons_of_ne hc (withReturns pick n rest) with ⟨line', later', hrest', hall'⟩
        rw [hall] at h
        have hfirst : (c :: line).getLast? ≠ some '\r' := h _ List.mem_cons_self
        rw [List.getLast?_cons] at hfirst
        have hthen := ih n fun other hother => by
          rw [hrest] at hother
          rcases List.mem_cons.mp hother with rfl | hlater
          · exact fun heq => hfirst (by rw [heq, Option.getD_some])
          · exact h other (List.mem_cons_of_mem _ hlater)
        rw [hrest, hrest', List.map_cons, List.cons.injEq] at hthen
        have hreturn : line' = [] → c ≠ '\r' := by
          rintro rfl rfl
          rw [← hthen.1] at hfirst
          exact hfirst rfl
        rw [withReturns_cons_of_ne pick hc, hall', hall, List.map_cons,
          withoutReturn_cons c line' hreturn, hthen.1, hthen.2]

end Text

end CloneScan
