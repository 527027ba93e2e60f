import CloneScan.Json.Codec
import CloneScan.Proofs.Json.Spelling
import Mathlib.Data.Nat.Digits.Defs
import Mathlib.Tactic.Common

/-!
# Reading Strings and Numbers

What the readers of strings and numbers make of a spelled text with anything after it. Both read as
far as they can. A string ends at its quote, whatever follows. A number ends where no digit follows,
so the rest has a say in it, and `Ends` is what is asked of the rest: blanks, commas and closing
brackets all qualify, and nothing else ever follows a value.

The reader counts its rounds by the characters of the text. Each character of a string takes at
least one of the text, which is why the rounds are enough.

## Main definitions

* `Json.Ends`: What may follow a number.

## Theorems

* `Json.readChars_spelling`: One round of the reader of strings.
* `Json.readString_spelled`: A spelled string is read.
* `Json.takeDigits_eq`: Digits that make a word are all taken.
* `Json.readNumber_toDigits`: A written number is read, if a word can hold it.
-/

namespace CloneScan

namespace Json

/-! ## Strings -/

theorem readUnit_eq {a b c d : Char} {p q r s n : Nat} (ha : hexValue? a = some p)
    (hb : hexValue? b = some q) (hc : hexValue? c = some r) (hd : hexValue? d = some s)
    (hn : n = ((16 * p + q) * 16 + r) * 16 + s) (rest : List Char) :
    readUnit (a :: b :: c :: d :: rest) = .ok (n, rest) := by
  rw [readUnit]
  simp only [ha, hb, hc, hd, hn]

/-- What a string may write after a backslash is read as the character it stands for. -/
theorem readEscape_spelling {c : Char} {letters : List Char} (h : Spelling c ('\\' :: letters))
    (rest : List Char) : readEscape (letters ++ rest) = .ok (c, rest) := by
  cases h with
  | plain _ hslash _ => exact absurd rfl hslash
  | @letter l c hl =>
      have hu : l ≠ 'u' := by
        rintro rfl
        exact nomatch hl.symm.trans (show letterEscapes.lookup 'u' = none from rfl)
      simp only [List.cons_append, List.nil_append, readEscape, if_neg hu, hl]
  | @number _ _ _ _ _ _ _ _ n ha hb hc hd hn hwhole =>
      have hlow : ¬ (0xDC00 ≤ n ∧ n ≤ 0xDFFF) := by omega
      have hhigh : n < 0xD800 ∨ 0xDBFF < n := by omega
      simp only [List.cons_append, List.nil_append, readEscape, if_true, readCodePoint,
        readUnit_eq ha hb hc hd hn rest, bind, Except.bind, pure, Except.pure, if_neg hlow,
        if_pos hhigh]
  | @halves _ _ _ _ _ _ _ _ _ _ _ _ _ _ _ _ n m ha hb hc hd hn hfirst he hf hg hh hm hsecond =>
      have hlow : ¬ (0xDC00 ≤ n ∧ n ≤ 0xDFFF) := by omega
      have hhigh : ¬ (n < 0xD800 ∨ 0xDBFF < n) := by omega
      have hother : ¬ (m < 0xDC00 ∨ 0xDFFF < m) := by omega
      simp only [List.cons_append, List.nil_append, readEscape, if_true, readCodePoint,
        readUnit_eq ha hb hc hd hn, readUnit_eq he hf hg hh hm, bind, Except.bind, pure,
        Except.pure, if_neg hlow, if_neg hhigh, if_neg hother]

/-- One round of the reader of strings reads one character, however it is spelled. -/
theorem readChars_spelling {c : Char} {first : List Char} (h : Spelling c first) (x : Char)
    (fuel rest : List Char) :
    readChars (x :: fuel) (first ++ rest)
      = (readChars fuel rest).map fun (later, left) => (c :: later, left) := by
  have hescape : ∀ letters, Spelling c ('\\' :: letters) →
      readChars (x :: fuel) (('\\' :: letters) ++ rest)
        = (readChars fuel rest).map fun (later, left) => (c :: later, left) := by
    intro letters hletters
    have hquote : ¬ '\\' = '"' := by decide
    rw [List.cons_append, readChars]
    simp only [if_neg hquote, if_true, readEscape_spelling hletters, bind, Except.bind, pure,
      Except.pure]
    cases readChars fuel rest with
    | error e => rfl
    | ok read => rfl
  cases h with
  | plain hquote hslash hcontrol =>
      -- The only spelling without a backslash.
      have hvisible : ¬ c.toNat < 32 := by omega
      rw [List.cons_append, List.nil_append, readChars]
      simp only [if_neg hquote, if_neg hslash, if_neg hvisible, bind, Except.bind, pure,
        Except.pure]
      cases readChars fuel rest with
      | error e => rfl
      | ok read => rfl
  | letter hl => exact hescape _ (.letter hl)
  | number ha hb hc hd hn hwhole => exact hescape _ (.number ha hb hc hd hn hwhole)
  | halves ha hb hc hd hn hfirst he hf hg hh hm hsecond =>
      exact hescape _ (.halves ha hb hc hd hn hfirst he hf hg hh hm hsecond)

theorem Spelled.length_le {chars letters : List Char} (h : Spelled chars letters) :
    chars.length ≤ letters.length := by
  induction h with
  | nil => exact Nat.le_refl _
  | @cons c chars first rest hfirst hrest ih =>
      have hsome : 1 ≤ first.length := by
        cases hfirst <;> exact Nat.succ_le_succ (Nat.zero_le _)
      rw [List.length_cons, List.length_append]
      omega

/-- The reader of strings goes on to the closing quote, if it may go around often enough. -/
theorem readChars_spelled {chars letters : List Char} (h : Spelled chars letters)
    (fuel : List Char) (hfuel : chars.length ≤ fuel.length) (rest : List Char) :
    readChars fuel (letters ++ '"' :: rest) = .ok (chars, rest) := by
  induction h generalizing fuel with
  | nil =>
      rw [List.nil_append, readChars.eq_def]
      exact if_pos rfl
  | cons hfirst hrest ih =>
      cases fuel with
      | nil => exact absurd hfuel (by simp only [List.length_cons, List.length_nil]; omega)
      | cons x fuel =>
          rw [List.append_assoc, readChars_spelling hfirst, ih fuel (Nat.le_of_succ_le_succ hfuel)]
          rfl

/-- A string is read, however it is spelled. -/
theorem readString_spelled {s : String} {letters : List Char} (h : Spelled s.toList letters)
    (rest : List Char) : readString (letters ++ '"' :: rest) = .ok (s, rest) := by
  have hfuel : s.toList.length ≤ (letters ++ '"' :: rest).length :=
    h.length_le.trans (List.length_append ▸ Nat.le_add_right _ _)
  rw [readString, readChars_spelled h _ hfuel]
  exact congrArg (fun s => Except.ok (s, rest)) (String.ofList_toList)

/-- Between the name of a member and its value there is a colon. -/
theorem passColon_eq {blanks : List Char} (hblanks : Blanks blanks) (rest : List Char) :
    passColon (blanks ++ ':' :: rest) = .ok rest := by
  have hcolon : ¬ IsBlank ':' := by decide
  rw [passColon, passBlanks_append hblanks, passBlanks_cons hcolon]
  rfl

/-! ## Numbers -/

/-- What may follow a number: no further digit, and neither a fraction nor an exponent. -/
def Ends (rest : List Char) : Prop :=
  ∀ c ∈ rest.head?, c.isDigit = false ∧ c ≠ '.' ∧ c ≠ 'e' ∧ c ≠ 'E'

theorem ends_nil : Ends [] :=
  nofun

theorem ends_cons {c : Char} (h : c.isDigit = false ∧ c ≠ '.' ∧ c ≠ 'e' ∧ c ≠ 'E')
    (rest : List Char) : Ends (c :: rest) := by
  intro d hd
  obtain rfl : c = d := Option.some.inj hd
  exact h

/-- Blanks may follow a number, whatever comes after them. -/
theorem ends_append {blanks rest : List Char} (hblanks : Blanks blanks) (h : Ends rest) :
    Ends (blanks ++ rest) := by
  cases blanks with
  | nil => exact h
  | cons c later =>
      refine ends_cons ?_ _
      rcases hblanks c List.mem_cons_self with rfl | rfl | rfl | rfl <;> decide

/-- What follows a text of a row may follow a number, if what ends the row may. -/
theorem ends_later {texts : List (List Char)} {text rest : List Char} (h : Later texts text)
    (hrest : Ends rest) : Ends (text ++ rest) := by
  cases h with
  | nil hblanks => exact ends_append hblanks hrest
  | cons hbefore hafter _ =>
      rw [List.append_assoc]
      exact ends_append hbefore (ends_cons (by decide) _)

theorem le_ofDigitChars (digits : List Char) (n : Nat) : n ≤ Nat.ofDigitChars 10 digits n := by
  induction digits generalizing n with
  | nil => exact Nat.le_refl _
  | cons d rest ih =>
      rw [Nat.ofDigitChars_cons]
      exact Nat.le_trans (by omega) (ih _)

/-- Digits that come to a word are all taken: what they come to only grows on the way. -/
theorem takeDigits_eq (digits : List Char) (n taken : Nat)
    (h : Nat.ofDigitChars 10 digits n ≤ wordMax) :
    takeDigits n taken digits = (Nat.ofDigitChars 10 digits n, taken + digits.length) := by
  induction digits generalizing n taken with
  | nil => rfl
  | cons d rest ih =>
      rw [Nat.ofDigitChars_cons] at h ⊢
      have hnext : ¬ wordMax < 10 * n + (d.toNat - 48) :=
        Nat.not_lt.mpr (Nat.le_trans (le_ofDigitChars rest _) h)
      rw [takeDigits, List.length_cons, Nat.add_comm rest.length 1, ← Nat.add_assoc]
      exact (if_neg hnext).trans (ih _ _ h)

/-- A written number does not start with a zero, unless that is all of it. -/
theorem toDigits_ne_zero_cons (n : Nat) (d : Char) (rest : List Char) :
    Nat.toDigits 10 n ≠ '0' :: d :: rest := by
  suffices hhead : ∀ n, 0 < n → (Nat.toDigits 10 n).head? ≠ some '0' by
    intro h
    rcases Nat.eq_zero_or_pos n with rfl | hpos
    · rw [Nat.toDigits_zero] at h
      exact absurd (List.cons.inj h).2.symm (List.cons_ne_nil d rest)
    · exact hhead n hpos (by rw [h, List.head?_cons])
  -- The first digit is that of the number without its last one.
  intro n
  induction n using Nat.strong_induction_on with
  | _ n ih =>
      intro hpos
      by_cases hsmall : n < 10
      · have hdigit : ∀ n < 10, 0 < n → n.digitChar ≠ '0' := by decide
        rw [Nat.toDigits_of_lt_base hsmall, List.head?_cons, ne_eq, Option.some.injEq]
        exact hdigit n hsmall hpos
      · have hdiv : 0 < n / 10 := Nat.div_pos (by omega) (by omega)
        rw [Nat.toDigits_of_base_le (by omega) (by omega), List.head?_append_of_ne_nil]
        · exact ih (n / 10) (by omega) hdiv
        · exact Nat.toDigits_ne_nil

/-- Digits end where no further digit follows. -/
theorem span_of_head {digits rest : List Char} (hdigits : ∀ c ∈ digits, c.isDigit = true)
    (h : ∀ c ∈ rest.head?, c.isDigit = false) :
    (digits ++ rest).takeWhile Char.isDigit = digits ∧
      (digits ++ rest).dropWhile Char.isDigit = rest := by
  have hrest : rest.takeWhile Char.isDigit = [] ∧ rest.dropWhile Char.isDigit = rest := by
    cases rest with
    | nil => exact ⟨rfl, rfl⟩
    | cons c later =>
        have hc : ¬ c.isDigit = true := by
          rw [h c rfl]
          exact Bool.false_ne_true
        exact ⟨List.takeWhile_cons_of_neg hc, List.dropWhile_cons_of_neg hc⟩
  rw [List.takeWhile_append_of_pos hdigits, List.dropWhile_append_of_pos hdigits, hrest.1, hrest.2,
    List.append_nil]
  exact ⟨rfl, rfl⟩

/-- The digits of a number end where the rest begins. -/
theorem span_digits {digits rest : List Char} (hdigits : ∀ c ∈ digits, c.isDigit = true)
    (h : Ends rest) :
    (digits ++ rest).takeWhile Char.isDigit = digits ∧
      (digits ++ rest).dropWhile Char.isDigit = rest :=
  span_of_head hdigits fun c hc => (h c hc).1

/-- A written number is read back, if a word can hold it. -/
theorem readNumber_toDigits {n : Nat} (hn : n ≤ wordMax) {rest : List Char} (h : Ends rest) :
    readNumber (Nat.toDigits 10 n ++ rest) = .ok (.integer n, rest) := by
  have hdigits : ∀ c ∈ Nat.toDigits 10 n, c.isDigit = true := fun c hc =>
    Nat.isDigit_of_mem_toDigits (by omega) (by omega) hc
  have hvalue : Nat.ofDigitChars 10 (Nat.toDigits 10 n) 0 = n := Nat.ofDigitChars_ten_toDigits
  have htaken := takeDigits_eq (Nat.toDigits 10 n) 0 0 (hvalue.symm ▸ hn)
  have hspan := span_digits hdigits h
  have hzero := toDigits_ne_zero_cons n
  rw [hvalue, Nat.zero_add] at htaken
  cases hwritten : Nat.toDigits 10 n with
  | nil => exact absurd hwritten Nat.toDigits_ne_nil
  | cons d ds =>
      rw [hwritten] at hdigits htaken hspan hzero
      have hsign : d ≠ '-' := by
        rintro rfl
        exact absurd (hdigits '-' List.mem_cons_self) (by decide)
      rw [List.cons_append] at hspan ⊢
      have hunsigned : readNumber (d :: (ds ++ rest)) = readUnsigned false (d :: (ds ++ rest)) := by
        unfold readNumber
        split
        · exact absurd (List.cons.inj ‹_›).1 hsign
        · rfl
      rw [hunsigned, readUnsigned.eq_def]
      simp only [hspan.1, hspan.2]
      -- What follows the digits is neither a fraction nor an exponent.
      split
      · exact absurd rfl (h '.' rfl).2.1
      · exact absurd rfl (h 'e' rfl).2.2.1
      · exact absurd rfl (h 'E' rfl).2.2.2
      · simp only [htaken, Nat.sub_self]
        rfl

end Json

end CloneScan
