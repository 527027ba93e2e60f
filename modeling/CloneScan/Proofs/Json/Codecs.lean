import CloneScan.Proofs.Json.Reading
import CloneScan.Proofs.Json.Writing

/-!
# Reading Back What a Codec Writes

A codec reads a value back if it reads every spelling of what it writes for that value, whatever
stands before and after: blanks before, and after it anything that may follow a value. That is
stated for one value at a time, `Codec.ReadsBack`, since some values are not read back: a number
beyond a word is refused, and so is a name that stands for nothing.

Each way to make a codec keeps the property, so a codec that is put together from others has it
without a proof of its own. A list is read one element in each round, and each round is one
constructor of `Json.Later`.

## Main definitions

* `Codec.Reads`: A text is read as a value.
* `Codec.Spells`: A text is what a codec writes for a value.
* `Codec.ReadsBack`: A value is read back.
* `Codec.Opens`: What an element of a list may start with.

## Theorems

* `Json.Written.starts`: The first character of a value.
* `Codec.truth_readsBack`, `Codec.text_readsBack`, `Codec.whole_readsBack`: Plain values.
* `Codec.optional_readsBack`, `Codec.variant_readsBack`, `Codec.wrap_readsBack`: Values made from
  others.
* `Codec.readElements_later`: The elements after the first one.
* `Codec.list_readsBack`: Lists.
* `Codec.decode_of_spells`: A whole document.
-/

namespace CloneScan

open Json

/-! ## Plain values -/

/-- A value does not start with a blank or a closing bracket, and only `null` with an `n`. -/
theorem Json.Written.starts {v : Json} {text : List Char} (h : Written v text) :
    ∃ c rest, text = c :: rest ∧ ¬ IsBlank c ∧ c ≠ ']' ∧ (c = 'n' → v = .null) := by
  cases h with
  | null => exact ⟨'n', _, rfl, by decide, by decide, fun _ => rfl⟩
  | truth b =>
      cases b with
      | true => exact ⟨'t', _, rfl, by decide, by decide, fun h => absurd h (by decide)⟩
      | false => exact ⟨'f', _, rfl, by decide, by decide, fun h => absurd h (by decide)⟩
  | number n =>
      cases hdigits : Nat.toDigits 10 n with
      | nil => exact absurd hdigits Nat.toDigits_ne_nil
      | cons d ds =>
          have hd : d.isDigit = true :=
            Nat.isDigit_of_mem_toDigits (by omega) (by omega) (hdigits ▸ List.mem_cons_self)
          refine ⟨d, ds, rfl, ?_, ?_, ?_⟩
          · rintro (rfl | rfl | rfl | rfl) <;> exact absurd hd (by decide)
          · rintro rfl
            exact absurd hd (by decide)
          · rintro rfl
            exact absurd hd (by decide)
  | string _ => exact ⟨'"', _, rfl, by decide, by decide, fun h => absurd h (by decide)⟩
  | array _ _ => exact ⟨'[', _, rfl, by decide, by decide, fun h => absurd h (by decide)⟩
  | object _ _ _ => exact ⟨'\x7b', _, rfl, by decide, by decide, fun h => absurd h (by decide)⟩

namespace Codec

/-- A text is read as a value, with blanks before it, and with anything after it that may follow a
    value. -/
def Reads {α : Type} (c : Codec α) (text : List Char) (a : α) : Prop :=
  ∀ {blanks rest : List Char}, Blanks blanks → Ends rest →
    c.read (blanks ++ (text ++ rest)) = .ok (a, rest)

/-- A text is a spelling of what the codec writes for a value, if all of that has a JSON form. -/
def Spells {α : Type} (c : Codec α) (a : α) (text : List Char) : Prop :=
  ∃ v, c.write a = .ok v ∧ Written v text

/-- A value is read back: every spelling of what the codec writes for it is read as the value, with
    blanks before it, and with anything after it that may follow a value. -/
def ReadsBack {α : Type} (c : Codec α) (a : α) : Prop :=
  ∀ {text blanks rest : List Char}, c.Spells a text → Blanks blanks → Ends rest →
    c.read (blanks ++ (text ++ rest)) = .ok (a, rest)

theorem ReadsBack.reads {α : Type} {c : Codec α} {a : α} (h : c.ReadsBack a) {text : List Char}
    (hspells : c.Spells a text) : c.Reads text a :=
  fun hblanks hends => h hspells hblanks hends

theorem truth_readsBack (b : Bool) : truth.ReadsBack b := by
  rintro text blanks rest ⟨_, hwrite, hwritten⟩ hblanks _
  obtain rfl : Json.truth b = _ := Except.ok.inj hwrite
  cases hwritten
  simp only [truth, passBlanks_append hblanks]
  cases b with
  | true => rfl
  | false => rfl

theorem text_readsBack (wanted s : String) : (text wanted).ReadsBack s := by
  rintro text blanks rest ⟨_, hwrite, hwritten⟩ hblanks _
  obtain rfl : Json.string s = _ := Except.ok.inj hwrite
  cases hwritten with
  | string hletters =>
      have hquote : ¬ IsBlank '"' := by decide
      simp only [Codec.text, passBlanks_append hblanks, List.cons_append, passBlanks_cons hquote,
        List.append_assoc, List.nil_append]
      exact readString_spelled hletters rest

/-- A number is read back if a word can hold it. -/
theorem whole_readsBack (wanted : String) {n : Nat} (h : n ≤ wordMax) :
    (whole wanted).ReadsBack n := by
  rintro text blanks rest ⟨_, hwrite, hnumber⟩ hblanks hends
  obtain rfl : Json.number n = _ := Except.ok.inj hwrite
  obtain rfl : text = Nat.toDigits 10 n := by
    cases hnumber
    rfl
  have hread := readNumber_toDigits h hends
  rcases hnumber.starts with ⟨d, ds, hdigits, hblank, -, -⟩
  have hdigit : d = '-' ∨ d.isDigit = true :=
    Or.inr (Nat.isDigit_of_mem_toDigits (by omega) (by omega) (hdigits ▸ List.mem_cons_self))
  rw [hdigits, List.cons_append] at hread ⊢
  simp only [whole, passBlanks_append hblanks, passBlanks_cons hblank, if_pos hdigit, hread]
  rfl

/-! ## Values made from plain ones -/

/-- An absent value is read back. A value that is there is so if it is read back itself, and is not
    written as an absent one is. -/
theorem optional_readsBack {α : Type} {c : Codec α} {o : Option α}
    (h : ∀ a, o = some a → c.ReadsBack a ∧ c.write a ≠ .ok .null) : c.optional.ReadsBack o := by
  rintro text blanks rest ⟨v, hwrite, hwritten⟩ hblanks hends
  cases o with
  | none =>
      obtain rfl : Json.null = v := Except.ok.inj hwrite
      cases hwritten
      simp only [optional, passBlanks_append hblanks]
      rfl
  | some a =>
      -- The reader decides by the first letter, so no other value may start as `null` does.
      rcases h a rfl with ⟨hback, hnull⟩
      have hsome : c.write a = .ok v := hwrite
      have hread := hback ⟨v, hsome, hwritten⟩ hblanks hends
      rcases hwritten.starts with ⟨first, more, rfl, hblank, -, hn⟩
      have hfirst : first ≠ 'n' := fun hfirst => hnull (hn hfirst ▸ hsome)
      rw [List.cons_append] at hread ⊢
      simp only [optional, passBlanks_append hblanks, passBlanks_cons hblank, hread]
      split
      · exact absurd (List.cons.inj ‹_›).1 hfirst
      · rfl

/-- A value that is told by its name is read back if it is the first of that name. -/
theorem variant_readsBack {α : Type} {label : α → String} {all : List α} {a : α}
    (h : (all.find? fun b => label b == label a) = some a) :
    (variant label all).ReadsBack a := by
  rintro text blanks rest ⟨_, hwrite, hwritten⟩ hblanks _
  obtain rfl : Json.string (label a) = _ := Except.ok.inj hwrite
  cases hwritten with
  | string hletters =>
      have hquote : ¬ IsBlank '"' := by decide
      simp only [variant, passBlanks_append hblanks, List.cons_append, passBlanks_cons hquote,
        List.append_assoc, List.nil_append, readString_spelled hletters rest, findVariant]
      simp only [bind, Except.bind, h]
      rfl

/-- A value that stands for one of another type is read back if that one is. -/
theorem wrap_readsBack {α β : Type} {c : Codec α} {make : α → β} {part? : β → Option α} {b : β}
    (h : ∀ a, part? b = some a → make a = b ∧ c.ReadsBack a) :
    (c.wrap make part?).ReadsBack b := by
  rintro text blanks rest ⟨v, hwrite, hwritten⟩ hblanks hends
  cases hpart : part? b with
  | none =>
      simp only [wrap, hpart, Option.elim_none, reduceCtorEq] at hwrite
  | some a =>
      simp only [wrap, hpart, Option.elim_some] at hwrite
      rcases h a hpart with ⟨hmake, hback⟩
      simp only [wrap, hback ⟨v, hwrite, hwritten⟩ hblanks hends, bind, Except.bind, pure,
        Except.pure, hmake]

/-! ## Lists -/

/-- A text that an element of a list may start with: no blank, and not the end of the list. -/
def Opens (text : List Char) : Prop :=
  ∃ c rest, text = c :: rest ∧ ¬ IsBlank c ∧ c ≠ ']'

theorem nextElement_first {blanks text : List Char} (hblanks : Blanks blanks) (h : Opens text)
    (rest : List Char) :
    nextElement true (blanks ++ (text ++ rest)) = .ok (some (text ++ rest)) := by
  rcases h with ⟨c, later, rfl, hblank, hclose⟩
  rw [nextElement, passBlanks_append hblanks, List.cons_append, passBlanks_cons hblank]
  split
  · exact nomatch ‹_ :: _ = []›
  · exact absurd (List.cons.inj ‹_›).1 hclose
  · rename_i heq
    rw [if_pos rfl, heq]

theorem nextElement_later {before after text : List Char} (hbefore : Blanks before)
    (hafter : Blanks after) (h : Opens text) (rest : List Char) :
    nextElement false (before ++ ',' :: (after ++ (text ++ rest))) = .ok (some (text ++ rest)) := by
  rcases h with ⟨c, later, rfl, hblank, hclose⟩
  have hcomma : ¬ IsBlank ',' := by decide
  rw [nextElement, passBlanks_append hbefore, passBlanks_cons hcomma]
  split
  · exact nomatch ‹_ :: _ = []›
  · exact absurd (List.cons.inj ‹_›).1 (by decide)
  · rename_i heq
    obtain ⟨rfl, rfl⟩ := List.cons.inj heq
    simp only [Bool.false_eq_true, if_false, if_true, passBlanks_append hafter, List.cons_append,
      passBlanks_cons hblank]
    split
    · exact nomatch ‹_ :: _ = []›
    · exact absurd (List.cons.inj ‹_›).1 hclose
    · rfl

theorem nextElement_end (first : Bool) {blanks : List Char} (hblanks : Blanks blanks)
    (rest : List Char) : nextElement first (blanks ++ ']' :: rest) = .ok none := by
  have hclose : ¬ IsBlank ']' := by decide
  rw [nextElement, passBlanks_append hblanks, passBlanks_cons hclose]
  rfl

theorem passListEnd_eq {blanks : List Char} (hblanks : Blanks blanks) (rest : List Char) :
    passListEnd (blanks ++ ']' :: rest) = .ok rest := by
  have hclose : ¬ IsBlank ']' := by decide
  rw [passListEnd, passBlanks_append hblanks, passBlanks_cons hclose]
  rfl

variable {α : Type} {c : Codec α}

theorem Spells.opens {a : α} {text : List Char} (h : c.Spells a text) : Opens text := by
  rcases h with ⟨v, -, hwritten⟩
  rcases hwritten.starts with ⟨c, rest, htext, hblank, hclose, -⟩
  exact ⟨c, rest, htext, hblank, hclose⟩

theorem spells_of_written {as : List α} {vs : List Json} {texts : List (List Char)}
    (hwrite : List.Forall₂ (fun a v => c.write a = .ok v) as vs)
    (hwritten : List.Forall₂ Written vs texts) : List.Forall₂ c.Spells as texts := by
  induction hwrite generalizing texts with
  | nil =>
      cases hwritten
      exact .nil
  | cons hfirst _ ih =>
      cases hwritten with
      | cons htext hrest => exact .cons ⟨_, hfirst, htext⟩ (ih hrest)

/-- After an element the reader goes on to the end of the list, one element in each round. -/
theorem readElements_later {as : List α} (hback : ∀ a ∈ as, c.ReadsBack a)
    {texts : List (List Char)} (hwritten : List.Forall₂ c.Spells as texts)
    {text : List Char} (h : Later texts text) (fuel : List Char)
    (hfuel : texts.length < fuel.length) (rest : List Char) :
    ∃ blanks, Blanks blanks ∧
      readElements c fuel false (text ++ ']' :: rest) = .ok (as, blanks ++ ']' :: rest) := by
  induction hwritten generalizing text fuel with
  | nil =>
      cases h with
      | nil hblanks =>
          cases fuel with
          | nil => exact absurd hfuel (Nat.not_lt_zero _)
          | cons x fuel =>
              refine ⟨_, hblanks, ?_⟩
              simp only [readElements, nextElement_end false hblanks]
              rfl
  | @cons a t as texts hfirst hrest ih =>
      rcases List.forall_mem_cons.mp hback with ⟨hbackfirst, hbackrest⟩
      cases h with
      | @cons before after _ more _ hbefore hafter hlater =>
          cases fuel with
          | nil => exact absurd hfuel (Nat.not_lt_zero _)
          | cons x fuel =>
              rcases ih hbackrest hlater fuel (Nat.lt_of_succ_lt_succ hfuel) with
                ⟨blanks, hblanks, hread⟩
              refine ⟨blanks, hblanks, ?_⟩
              -- An element ends at the comma after it, at the bracket, or at blanks before these.
              have hends : Ends (more ++ ']' :: rest) := ends_later hlater (ends_cons (by decide) _)
              have helement := hbackfirst hfirst blanks_nil hends
              rw [List.nil_append] at helement
              have hshape : (before ++ ',' :: (after ++ (t ++ more))) ++ ']' :: rest
                  = before ++ ',' :: (after ++ (t ++ (more ++ ']' :: rest))) := by
                simp only [List.append_assoc, List.cons_append]
              simp only [readElements, hshape,
                nextElement_later hbefore hafter hfirst.opens, bind, Except.bind,
                helement, hread]
              rfl

/-- The elements of a list are read up to its end. The rounds are counted by the opening bracket
    and all that follows it. -/
theorem readElements_separated {as : List α} (hback : ∀ a ∈ as, c.ReadsBack a)
    {texts : List (List Char)} (hwritten : List.Forall₂ c.Spells as texts)
    {text : List Char} (h : Separated texts text) (rest : List Char) :
    ∃ blanks, Blanks blanks ∧
      readElements c ('[' :: (text ++ ']' :: rest)) true (text ++ ']' :: rest)
        = .ok (as, blanks ++ ']' :: rest) := by
  cases h with
  | nil htext =>
      cases hwritten
      refine ⟨_, htext, ?_⟩
      simp only [readElements, nextElement_end true htext]
      rfl
  | @cons before t more texts hbefore hlater =>
      cases hwritten with
      | cons hfirst hrest =>
          rcases List.forall_mem_cons.mp hback with ⟨hbackfirst, hbackrest⟩
          have hfuel : texts.length < ((before ++ (t ++ more)) ++ ']' :: rest).length := by
            have hlength := hlater.length_le
            simp only [List.length_append, List.length_cons]
            omega
          rcases readElements_later hbackrest hrest hlater _ hfuel rest with
            ⟨blanks, hblanks, hread⟩
          have hends : Ends (more ++ ']' :: rest) := ends_later hlater (ends_cons (by decide) _)
          have helement := hbackfirst hfirst blanks_nil hends
          rw [List.nil_append] at helement
          have hshape : (before ++ (t ++ more)) ++ ']' :: rest
              = before ++ (t ++ (more ++ ']' :: rest)) := by
            simp only [List.append_assoc]
          refine ⟨blanks, hblanks, ?_⟩
          rw [hshape] at hread ⊢
          simp only [readElements, nextElement_first hbefore hfirst.opens, bind,
            Except.bind, helement, hread]
          rfl

/-- A list is read back if its elements are. -/
theorem list_readsBack {as : List α} (hback : ∀ a ∈ as, c.ReadsBack a) : c.list.ReadsBack as := by
  rintro text blanks rest ⟨v, hwrite, hwritten⟩ hblanks _
  rcases write_list_eq_ok_iff.mp hwrite with ⟨vs, hvs, rfl⟩
  cases hwritten with
  | @array _ texts inner hitems hinner =>
      have hspelled := spells_of_written hvs hitems
      have hopen : ¬ IsBlank '[' := by decide
      rcases readElements_separated hback hspelled hinner rest with ⟨left, hleft, hread⟩
      simp only [list, passBlanks_append hblanks, List.cons_append, passBlanks_cons hopen,
        List.append_assoc, List.nil_append, bind, Except.bind, hread, passListEnd_eq hleft]
      rfl

/-! ## Documents -/

/-- A text that is read as a value is a document of it, with blanks around it. -/
theorem decode_of_reads {a : α} {blanks text after : List Char} (h : c.Reads text a)
    (hblanks : Blanks blanks) (hafter : Blanks after) :
    c.decode (String.ofList (blanks ++ (text ++ after))) = .ok a := by
  have hends : Ends after := by
    have hends := ends_append hafter ends_nil
    rwa [List.append_nil] at hends
  have hread := h hblanks hends
  rw [decode, String.toList_ofList, hread]
  simp only [bind, Except.bind, passBlanks_of_blanks hafter]
  rfl

/-- A document is read back: a spelling of what the codec writes, with blanks around it. -/
theorem decode_of_spells {a : α} (h : c.ReadsBack a) {blanks text after : List Char}
    (hblanks : Blanks blanks) (hspells : c.Spells a text) (hafter : Blanks after) :
    c.decode (String.ofList (blanks ++ (text ++ after))) = .ok a :=
  decode_of_reads (h.reads hspells) hblanks hafter

/-- The compact text of a value is read back, if the value is written at all. -/
theorem decode_encode {a : α} (h : c.ReadsBack a) (hwritable : c.Writable a) :
    ∃ text, c.encode a = .ok text ∧ c.decode text = .ok a := by
  rcases hwritable with ⟨v, hwrite⟩
  have hdecode := decode_of_spells h blanks_nil ⟨v, hwrite, written_compact v⟩ blanks_nil
  rw [List.nil_append, List.append_nil] at hdecode
  exact ⟨_, by rw [encode, hwrite]; rfl, hdecode⟩

end Codec

end CloneScan
