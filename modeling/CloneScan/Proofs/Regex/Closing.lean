import CloneScan.Regex.Reader
import Mathlib.Data.List.Basic

/-!
# Reading up to a Closing

A pattern is read in two ways: by itself, and as part of a longer text that goes on behind it with
a parenthesis and the mark for the end of the text. Both readings run side by side, one with the
text, one with the text and the closing joined to it, and the question is what they have to do
with each other.

As long as the first reading succeeds, both read the same. What is left differs by the closing,
unless a remark ran to the end of the text, in which case the remark takes the closing in and
nothing is left in either reading (`Joined`). When the first reading fails, the second may go on,
but only into the closing, and what it can do there is little: a parenthesis that stands for itself
is gone, and with it the end of the group around. A function that behaves like this is `Stable`. The
predicate it comes with says what the second reading is left with where the first one fails.

`Stable` is closed under the ways in which readers are built, so that each of them is stable because
its parts are. The closing enters only where a text ends in the middle of something
(`Stable.of_first`).

## Main definitions

* `closing`: What is joined to a pattern.
* `Joined`: What is left without and with the closing.
* `Agree`: How the two readings compare.
* `Stable`: The closing makes no difference to what is read.
* `onFirst`: Goes by the first character.

## Theorems

* `spaced_joined`: The closing is neither blank nor part of a word.
* `spaced_through`: The closing is part of a word that only one mark ends.
* `Stable.bind`: One reader after another.
* `Stable.comp`: A reader of what is left after characters that do not count.
* `Stable.of_first`, `Stable.onFirst`: A reader that goes by the first character.
-/

namespace CloneScan

namespace PatternReader

theorem error_ne_ok {α : Type} {e : PatternError} {a : α} :
    (.error e : Except PatternError α) ≠ .ok a :=
  nofun

theorem bind_eq_ok {α β : Type} {x : Except PatternError α} {next : α → Except PatternError β}
    {b : β} : x >>= next = .ok b ↔ ∃ a, x = .ok a ∧ next a = .ok b := by
  cases x with
  | error e => exact iff_of_false error_ne_ok fun ⟨_, h, _⟩ => error_ne_ok h
  | ok a => exact ⟨fun h => ⟨a, rfl, h⟩, fun ⟨_, ha, h⟩ => Except.ok.inj ha ▸ h⟩

/-- What closes the group around a pattern, and the mark for the end of the text after it. -/
def closing : List Char :=
  [')', '\\', 'z']

/-- What is left of a text by itself, and of the text with the closing joined to it. A remark that
    runs to the end of the text takes the closing in. -/
def Joined (rest joined : List Char) : Prop :=
  joined = rest ++ closing ∨ rest = [] ∧ joined = []

theorem Joined.append (text : List Char) : Joined text (text ++ closing) :=
  Or.inl rfl

/-- Where something is left, the closing comes after it. -/
theorem Joined.of_cons {c : Char} {rest joined : List Char} (h : Joined (c :: rest) joined) :
    joined = c :: (rest ++ closing) :=
  h.resolve_right fun hnone => List.cons_ne_nil c rest hnone.1

/-! ## Characters that do not count -/

theorem not_isBlank_parenthesis : Unicode.isBlank ')' = false := by
  decide +kernel

/-- The closing is no remark, and no part of a word whose characters are of another kind. -/
theorem spaced_closing (extended : Bool) {kind : Char → Bool} (hkind : kind ')' = false) :
    spaced extended kind false closing = ([], closing) := by
  rw [closing, spaced]
  simp only [Bool.false_eq_true, if_false, not_isBlank_parenthesis, Bool.and_false, hkind]
  cases extended with
  | true => rfl
  | false => rfl

/-- A remark that is still open takes the closing in. -/
theorem spaced_closing_in_remark (extended : Bool) (kind : Char → Bool) :
    spaced extended kind true closing = ([], []) := by
  simp only [closing, spaced, if_true]
  rfl

/-- The closing does not change what is read before it. -/
theorem spaced_joined (extended : Bool) {kind : Char → Bool} (hkind : kind ')' = false)
    (inRemark : Bool) (text : List Char) :
    (spaced extended kind inRemark (text ++ closing)).1 = (spaced extended kind inRemark text).1 ∧
      Joined (spaced extended kind inRemark text).2
        (spaced extended kind inRemark (text ++ closing)).2 := by
  -- The cases are those of the definition: the text ends, or its first character does.
  induction text generalizing inRemark with
  | nil =>
      cases inRemark with
      | true =>
          rw [List.nil_append, spaced_closing_in_remark]
          exact ⟨rfl, Or.inr ⟨rfl, rfl⟩⟩
      | false =>
          rw [List.nil_append, spaced_closing extended hkind]
          exact ⟨rfl, Or.inl rfl⟩
  | cons c rest ih =>
      rw [List.cons_append, spaced, spaced]
      by_cases hremark : inRemark = true
      · rw [if_pos hremark, if_pos hremark]
        exact ih _
      rw [if_neg hremark, if_neg hremark]
      by_cases hblank : (extended && Unicode.isBlank c) = true
      · rw [if_pos hblank, if_pos hblank]
        exact ih _
      rw [if_neg hblank, if_neg hblank]
      by_cases hmark : (extended && c == '#') = true
      · rw [if_pos hmark, if_pos hmark]
        exact ih _
      rw [if_neg hmark, if_neg hmark]
      by_cases hread : kind c = true
      · rw [if_pos hread, if_pos hread]
        exact ⟨congrArg (c :: ·) (ih false).1, (ih false).2⟩
      · rw [if_neg hread, if_neg hread]
        exact ⟨rfl, Or.inl rfl⟩

/-- Characters that count and are of the kind are read to the end. -/
theorem spaced_of_kind (extended : Bool) {kind : Char → Bool} {text : List Char}
    (h : ∀ c ∈ text, kind c = true ∧ Unicode.isBlank c = false ∧ (c == '#') = false) :
    spaced extended kind false text = (text, []) := by
  induction text with
  | nil => rfl
  | cons c rest ih =>
      obtain ⟨hread, hblank, hmark⟩ := h c List.mem_cons_self
      have hrest := ih fun d hd => h d (List.mem_cons_of_mem c hd)
      rw [spaced, if_neg Bool.false_ne_true, hblank, hmark, Bool.and_false,
        if_neg Bool.false_ne_true, if_neg Bool.false_ne_true, if_pos hread, hrest]

/-- Where the closing is of the kind that is read, nothing stops the reading in it. -/
theorem spaced_closing_of_kind (extended inRemark : Bool) {kind : Char → Bool}
    (hkind : closing.all kind = true) : (spaced extended kind inRemark closing).2 = [] := by
  cases inRemark with
  | true => rw [spaced_closing_in_remark]
  | false =>
      have hcounts : (closing.all fun c => !Unicode.isBlank c && !(c == '#')) = true := by
        decide +kernel
      rw [spaced_of_kind extended fun c hc => ?_]
      have h := List.all_eq_true.mp hcounts c hc
      rw [Bool.and_eq_true, Bool.not_eq_true', Bool.not_eq_true'] at h
      exact ⟨List.all_eq_true.mp hkind c hc, h⟩

/-- Where the closing is of the kind that is read, a reading that stops before it stops at the same
    place with it, and one that does not runs through it. -/
theorem spaced_through (extended inRemark : Bool) {kind : Char → Bool}
    (hkind : closing.all kind = true) (text : List Char) :
    (∃ word c rest, spaced extended kind inRemark text = (word, c :: rest) ∧
        spaced extended kind inRemark (text ++ closing) = (word, c :: rest ++ closing)) ∨
      ∃ word more, spaced extended kind inRemark text = (word, []) ∧
        spaced extended kind inRemark (text ++ closing) = (more, []) := by
  induction text generalizing inRemark with
  | nil =>
      have hnone := spaced_closing_of_kind extended inRemark hkind
      exact Or.inr ⟨[], _, rfl, Prod.ext rfl hnone⟩
  | cons c rest ih =>
      rw [List.cons_append, spaced, spaced]
      by_cases hremark : inRemark = true
      · rw [if_pos hremark, if_pos hremark]
        exact ih _
      rw [if_neg hremark, if_neg hremark]
      by_cases hblank : (extended && Unicode.isBlank c) = true
      · rw [if_pos hblank, if_pos hblank]
        exact ih _
      rw [if_neg hblank, if_neg hblank]
      by_cases hmark : (extended && c == '#') = true
      · rw [if_pos hmark, if_pos hmark]
        exact ih _
      rw [if_neg hmark, if_neg hmark]
      by_cases hread : kind c = true
      · rw [if_pos hread, if_pos hread]
        rcases ih false with ⟨word, d, left, halone, hboth⟩ | ⟨word, more, halone, hboth⟩
        · exact Or.inl ⟨c :: word, d, left, by rw [halone], by rw [hboth]⟩
        · exact Or.inr ⟨c :: word, c :: more, by rw [halone], by rw [hboth]⟩
      · rw [if_neg hread, if_neg hread]
        exact Or.inl ⟨[], c, rest, rfl, rfl⟩

theorem spaced_suffix (extended : Bool) (kind : Char → Bool) (inRemark : Bool) (text : List Char) :
    (spaced extended kind inRemark text).2 <:+ text := by
  induction text generalizing inRemark with
  | nil => exact List.suffix_refl []
  | cons c rest ih =>
      have hrest : ∀ inRemark, (spaced extended kind inRemark rest).2 <:+ c :: rest :=
        fun inRemark => (ih inRemark).trans (List.suffix_cons c rest)
      rw [spaced]
      by_cases hremark : inRemark = true
      · rw [if_pos hremark]
        exact hrest _
      rw [if_neg hremark]
      by_cases hblank : (extended && Unicode.isBlank c) = true
      · rw [if_pos hblank]
        exact hrest _
      rw [if_neg hblank]
      by_cases hmark : (extended && c == '#') = true
      · rw [if_pos hmark]
        exact hrest _
      rw [if_neg hmark]
      by_cases hread : kind c = true
      · rw [if_pos hread]
        exact hrest _
      · simp only [if_neg hread]
        exact List.suffix_refl _

theorem blanks_joined (extended : Bool) (text : List Char) :
    Joined (blanks extended text) (blanks extended (text ++ closing)) :=
  (spaced_joined extended rfl false text).2

theorem blanks_suffix (extended : Bool) (text : List Char) : blanks extended text <:+ text :=
  spaced_suffix extended _ false text

/-- The closing is not among the blanks that never count. -/
theorem dropWhile_append_closing (text : List Char) :
    (text ++ closing).dropWhile Unicode.isBlank = text.dropWhile Unicode.isBlank ++ closing := by
  induction text with
  | nil =>
      rw [List.nil_append, closing, List.dropWhile_cons_of_neg]
      · rfl
      · rw [not_isBlank_parenthesis]
        exact Bool.false_ne_true
  | cons c rest ih =>
      by_cases hblank : Unicode.isBlank c = true
      · rw [List.cons_append, List.dropWhile_cons_of_pos hblank, List.dropWhile_cons_of_pos hblank,
          ih]
      · rw [List.cons_append, List.dropWhile_cons_of_neg hblank, List.dropWhile_cons_of_neg hblank,
          List.cons_append]

theorem passLazyMark_of_ne {c : Char} (h : c ≠ '?') (rest : List Char) :
    passLazyMark (c :: rest) = c :: rest := by
  unfold passLazyMark
  split
  · next heq => exact absurd (List.cons.inj heq).1 h
  · rfl

theorem passLazyMark_append_closing (text : List Char) :
    passLazyMark (text ++ closing) = passLazyMark text ++ closing := by
  cases text with
  | nil => rfl
  | cons c rest =>
      by_cases hmark : c = '?'
      · subst hmark
        rfl
      · rw [List.cons_append, passLazyMark_of_ne hmark, passLazyMark_of_ne hmark, List.cons_append]

theorem passLazyMark_suffix (text : List Char) : passLazyMark text <:+ text := by
  unfold passLazyMark
  split
  · exact List.suffix_cons _ _
  · exact List.suffix_refl _

/-! ## Stable readers -/

/-- A function that reads something at the start of a text. -/
abbrev Reads (α : Type) :=
  List Char → Except PatternError (α × List Char)

/-- How a reading of a text and one of the text with the closing compare. -/
inductive Agree {α : Type} (lost : α → List Char → Prop) (text : List Char) :
    Except PatternError (α × List Char) → Except PatternError (α × List Char) → Prop where
  /-- Both read the same. -/
  | same {a : α} {rest joined : List Char} (suffix : rest <:+ text) (left : Joined rest joined) :
      Agree lost text (.ok (a, rest)) (.ok (a, joined))
  /-- Neither reads anything. -/
  | refused {e e' : PatternError} : Agree lost text (.error e) (.error e')
  /-- Something is read into the closing alone. -/
  | lost {e : PatternError} {a : α} {joined : List Char} (is_lost : lost a joined) :
      Agree lost text (.error e) (.ok (a, joined))

/-- The closing makes no difference to what is read. Where nothing can be read without it, what is
    read into it is `lost`. -/
def Stable {α : Type} (lost : α → List Char → Prop) (read : Reads α) : Prop :=
  ∀ text, Agree lost text (read text) (read (text ++ closing))

/-- Nothing is read into the closing. -/
def never {α : Type} (_ : α) (_ : List Char) : Prop :=
  False

namespace Agree

variable {α : Type} {lost lost₂ : α → List Char → Prop} {text text₂ : List Char}
  {alone both : Except PatternError (α × List Char)}

theorem mono (h : Agree lost text alone both) (hlost : ∀ a joined, lost a joined → lost₂ a joined)
    (hsuffix : text <:+ text₂) : Agree lost₂ text₂ alone both := by
  cases h with
  | same suffix left => exact .same (suffix.trans hsuffix) left
  | refused => exact .refused
  | lost is_lost => exact .lost (hlost _ _ is_lost)

/-- Where the first reading fails, the other one is all there is to know. -/
theorem of_error {e : PatternError} (h : ∀ a joined, both = .ok (a, joined) → lost a joined) :
    Agree lost text (.error e) both := by
  cases both with
  | error e' => exact .refused
  | ok p => exact .lost (h p.1 p.2 rfl)

end Agree

namespace Stable

variable {α β γ : Type} {lost lost₂ : α → List Char → Prop} {lost' : β → List Char → Prop}
  {read : Reads α}

theorem suffix (h : Stable lost read) {text : List Char} {a : α} {rest : List Char}
    (hread : read text = .ok (a, rest)) : rest <:+ text := by
  have hagree := h text
  rw [hread] at hagree
  generalize read (text ++ closing) = both at hagree
  cases hagree with
  | same suffix left => exact suffix

/-- What holds with the closing behind the text also holds where a remark took it in. -/
theorem joined (h : Stable lost read) {text text' : List Char} (hjoined : Joined text text') :
    Agree lost text (read text) (read text') := by
  rcases hjoined with rfl | ⟨rfl, rfl⟩
  · exact h text
  · cases hread : read [] with
    | error e => exact .refused
    | ok p =>
        have hrest := h.suffix hread
        exact .same hrest (Or.inr ⟨List.suffix_nil.mp hrest, List.suffix_nil.mp hrest⟩)

/-- What is read of the closing alone is lost, where there is nothing to read without it. -/
theorem lost_of_closing (h : Stable lost read) {e : PatternError} {a : α} {joined : List Char}
    (hread : read [] = .error e) (hclosing : read closing = .ok (a, joined)) : lost a joined := by
  have hagree := h []
  rw [hread, List.nil_append, hclosing] at hagree
  cases hagree with
  | lost is_lost => exact is_lost

theorem mono (h : Stable lost read) (hlost : ∀ a joined, lost a joined → lost₂ a joined) :
    Stable lost₂ read :=
  fun text => (h text).mono hlost (List.suffix_refl text)

theorem of_never (h : Stable never read) : Stable lost read :=
  h.mono fun _ _ hfalse => hfalse.elim

/-- A reader that reads nothing is stable. -/
theorem lift (lost : α → List Char → Prop) (value : Except PatternError γ) (f : γ → α) :
    Stable lost fun text => do
      let c ← value
      return (f c, text) := by
  intro text
  cases value with
  | error e => exact .refused
  | ok c => exact .same (List.suffix_refl text) (Joined.append text)

theorem ok (lost : α → List Char → Prop) (a : α) : Stable lost fun text => .ok (a, text) :=
  lift lost (.ok ()) fun _ => a

theorem error (lost : α → List Char → Prop) (e : PatternError) : Stable lost fun _ => .error e :=
  lift lost (.error e) Empty.elim

/-- A stable reader after characters that do not count. -/
theorem comp (h : Stable lost read) {pass : List Char → List Char}
    (hsuffix : ∀ text, pass text <:+ text)
    (hjoined : ∀ text, Joined (pass text) (pass (text ++ closing))) :
    Stable lost fun text => read (pass text) :=
  fun text => (h.joined (hjoined text)).mono (fun _ _ hlost => hlost) (hsuffix text)

theorem after_blanks (h : Stable lost read) (extended : Bool) :
    Stable lost fun text => read (blanks extended text) :=
  h.comp (blanks_suffix extended) (blanks_joined extended)

/-- After a word, a reader that is stable for each word. -/
theorem after_spaced {next : List Char → Reads α} (h : ∀ word, Stable lost (next word))
    (extended : Bool) {kind : Char → Bool} (hkind : kind ')' = false) :
    Stable lost fun text =>
      next (spaced extended kind false text).1 (spaced extended kind false text).2 := by
  intro text
  have hword := spaced_joined extended hkind false text
  simp only [hword.1]
  have hsuffix := spaced_suffix extended kind false text
  exact ((h _).joined hword.2).mono (fun _ _ hlost => hlost) hsuffix

/-- One stable reader after another. What is lost to the first one must be lost after the second. -/
theorem bind {next : α → Reads β} (h : Stable lost read) (hnext : ∀ a, Stable lost' (next a))
    (hlost : ∀ a text b joined, lost a text → next a text = .ok (b, joined) → lost' b joined) :
    Stable lost' fun text => read text >>= fun p => next p.1 p.2 := by
  intro text
  have hfirst := h text
  simp only []
  generalize read text = alone at hfirst ⊢
  generalize read (text ++ closing) = both at hfirst ⊢
  cases hfirst with
  | same suffix left => exact ((hnext _).joined left).mono (fun _ _ hlost => hlost) suffix
  | refused => exact .refused
  | lost is_lost => exact .of_error fun b joined hb => hlost _ _ b joined is_lost hb

/-- What is read, checked and put in another form. -/
theorem bind_lift (h : Stable lost read) (check : α → Except PatternError γ) (f : α → γ → β)
    (hlost : ∀ a c joined, lost a joined → check a = .ok c → lost' (f a c) joined) :
    Stable lost' fun text => do
      let p ← read text
      let c ← check p.1
      return (f p.1 c, p.2) := by
  refine h.bind (fun a => lift lost' (check a) (f a)) fun a text b joined hlosta hb => ?_
  rcases bind_eq_ok.mp hb with ⟨c, hcheck, hpair⟩
  obtain ⟨rfl, rfl⟩ := Prod.mk.inj (Except.ok.inj hpair)
  exact hlost a c text hlosta hcheck

/-- What is read, put in another form. -/
theorem map (h : Stable lost read) (f : α → β)
    (hlost : ∀ a joined, lost a joined → lost' (f a) joined) :
    Stable lost' fun text => do
      let p ← read text
      return (f p.1, p.2) :=
  h.bind_lift (fun a => .ok a) (fun _ a => f a) fun a _ joined hlosta hc =>
    Except.ok.inj hc ▸ hlost a joined hlosta

end Stable

/-- A reader that reads nothing from an empty text is stable if both readings agree after each first
    character. What it makes of the closing is lost. -/
theorem Stable.of_first {α : Type} {lost : α → List Char → Prop} {read : Reads α}
    {e : PatternError} (hnil : read [] = .error e)
    (h : ∀ c rest, Agree lost (c :: rest) (read (c :: rest)) (read (c :: (rest ++ closing))))
    (hclosing : ∀ a joined, read closing = .ok (a, joined) → lost a joined) :
    Stable lost read := by
  intro text
  cases text with
  | nil =>
      rw [hnil]
      exact .of_error hclosing
  | cons c rest => exact h c rest

/-- Goes by the first character. Nothing is read from an empty text. -/
def onFirst {α : Type} (none : PatternError) (some : Char → Reads α) : Reads α
  | [] => .error none
  | c :: rest => some c rest

theorem Stable.onFirst {α : Type} {lost : α → List Char → Prop} (none : PatternError)
    {some : Char → Reads α}
    (h : ∀ c rest, Agree lost (c :: rest) (some c rest) (some c (rest ++ closing)))
    (hclosing : ∀ a joined, some ')' ['\\', 'z'] = .ok (a, joined) → lost a joined) :
    Stable lost (onFirst none some) :=
  .of_first rfl h hclosing

/-- After the first character, a stable reader goes on with the rest. -/
theorem Stable.after_first {α : Type} {lost : α → List Char → Prop} {read : Reads α}
    (h : Stable lost read) (c : Char) (rest : List Char) :
    Agree lost (c :: rest) (read rest) (read (rest ++ closing)) :=
  (h rest).mono (fun _ _ hlost => hlost) (List.suffix_cons c rest)

end PatternReader

end CloneScan
