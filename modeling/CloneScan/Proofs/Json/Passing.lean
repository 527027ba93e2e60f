import CloneScan.Proofs.Json.Codecs

/-!
# Passing Over Values

A member whose name is unknown is passed over. Nobody wants its value, so only the form of it
matters: a number may be of any size, digits after a backslash need not be a character, and lists
and objects may be nested to any depth. A text of that form is passed over to its very end, and
what comes after it is read as if it had not been there.

The form is said without the reader, `WellFormed`, one constructor for each sort of value. What is
asked of the reader is `Passes`, and a value has it since its parts have it. The reader is given a
fuel. Between two characters it makes two calls at most, one for the elements of a list and one for
the first of them, so `Passes` asks for a fuel of twice the length of the text.

## Main definitions

* `Json.Lettered`: What may stand between the quotes of a string.
* `Json.NumberText`: A number of any size.
* `Json.WellFormed`: A text is a value of any sort.
* `Json.Passes`: A text is passed over as a value.

## Theorems

* `Json.passString_lettered`: Strings are passed over.
* `Json.passNumber_text`: Numbers are passed over.
* `Json.passElements_later`, `Json.passMembers_later`: The rounds of lists and of objects.
* `Json.WellFormed.passes`: Every value is passed over.
* `Json.WellFormed.passValue`: So it is with the fuel of the reader.
-/

namespace CloneScan

namespace Json

/-! ## Strings -/

/-- How a string may write a character, if only the form matters: digits after a backslash need not
    be the number of a character. -/
inductive Letter : List Char → Prop where
  | plain {c : Char} (hquote : c ≠ '"') (hslash : c ≠ '\\') (hcontrol : 32 ≤ c.toNat) : Letter [c]
  | letter {l c : Char} (h : letterEscapes.lookup l = some c) : Letter ['\\', l]
  | number {a b c d : Char} {p q r s : Nat} (ha : hexValue? a = some p)
      (hb : hexValue? b = some q) (hc : hexValue? c = some r) (hd : hexValue? d = some s) :
      Letter ['\\', 'u', a, b, c, d]

/-- What may stand between the quotes of a string. -/
inductive Lettered : List Char → Prop where
  | nil : Lettered []
  | cons {first rest : List Char} (hfirst : Letter first) (hrest : Lettered rest) :
      Lettered (first ++ rest)

/-- One round of passing over a string passes over one character. -/
theorem passChars_letter {first : List Char} (h : Letter first) (x : Char)
    (fuel rest : List Char) : passChars (x :: fuel) (first ++ rest) = passChars fuel rest := by
  have hquote : ¬ '\\' = '"' := by decide
  cases h with
  | plain hquote hslash hcontrol =>
      have hvisible : ¬ (_ : Char).toNat < 32 := Nat.not_lt.mpr hcontrol
      rw [List.cons_append, List.nil_append, passChars]
      simp only [if_neg hquote, if_neg hslash, if_neg hvisible]
  | @letter l c hl =>
      -- The one letter that digits follow stands for no character by itself.
      have hu : l ≠ 'u' := by
        rintro rfl
        have hnone : letterEscapes.lookup 'u' = Option.none := rfl
        rw [hnone] at hl
        cases hl
      rw [List.cons_append, passChars]
      simp only [List.cons_append, List.nil_append, if_neg hquote, if_true, passEscape, if_neg hu,
        hl, Option.isSome_some, bind, Except.bind]
  | number ha hb hc hd =>
      rw [List.cons_append, passChars]
      simp only [List.cons_append, List.nil_append, if_neg hquote, if_true, passEscape,
        readUnit_eq ha hb hc hd rfl, bind, Except.bind, pure, Except.pure]

/-- A string is passed over up to its closing quote, if the fuel is no shorter than it. -/
theorem passChars_lettered {letters : List Char} (h : Lettered letters) (fuel : List Char)
    (hfuel : letters.length ≤ fuel.length) (rest : List Char) :
    passChars fuel (letters ++ '"' :: rest) = .ok rest := by
  induction h generalizing fuel with
  | nil =>
      rw [List.nil_append, passChars.eq_def]
      exact if_pos rfl
  | @cons first later hfirst _ ih =>
      -- A round takes one character of the fuel and at least one of the text.
      have hsome : 1 ≤ first.length := by
        cases hfirst <;> exact Nat.succ_le_succ (Nat.zero_le _)
      rw [List.length_append] at hfuel
      cases fuel with
      | nil => simp only [List.length_nil] at hfuel; omega
      | cons x fuel =>
          rw [List.length_cons] at hfuel
          rw [List.append_assoc, passChars_letter hfirst]
          exact ih fuel (by omega)

theorem passString_lettered {letters : List Char} (h : Lettered letters) (rest : List Char) :
    passString (letters ++ '"' :: rest) = .ok rest :=
  passChars_lettered h _ (List.length_append ▸ Nat.le_add_right _ _) rest

/-! ## Numbers -/

/-- Some digits. -/
def Digits (text : List Char) : Prop :=
  text ≠ [] ∧ ∀ c ∈ text, c.isDigit = true

/-- The fraction of a number, if it has one. -/
inductive FractionText : List Char → Prop where
  | none : FractionText []
  | some {digits : List Char} (h : Digits digits) : FractionText ('.' :: digits)

/-- The exponent of a number, if it has one. -/
inductive ExponentText : List Char → Prop where
  | none : ExponentText []
  | some {mark : Char} {sign digits : List Char} (hmark : mark = 'e' ∨ mark = 'E')
      (hsign : sign = [] ∨ sign = ['+'] ∨ sign = ['-']) (h : Digits digits) :
      ExponentText (mark :: (sign ++ digits))

/-- A number of any size, in any of the forms it may have. A zero in front stands alone. -/
inductive NumberText : List Char → Prop where
  | mk {sign whole fraction exponent : List Char} (hsign : sign = [] ∨ sign = ['-'])
      (hwhole : Digits whole) (hzero : whole.head? = Option.some '0' → whole = ['0'])
      (hfraction : FractionText fraction) (hexponent : ExponentText exponent) :
      NumberText (sign ++ (whole ++ (fraction ++ exponent)))

theorem Digits.cases {text : List Char} (h : Digits text) :
    ∃ d ds, text = d :: ds ∧ d.isDigit = true := by
  cases text with
  | nil => exact absurd rfl h.1
  | cons d ds => exact ⟨d, ds, rfl, h.2 d List.mem_cons_self⟩

/-- A number starts with a sign or a digit. -/
theorem NumberText.starts {text : List Char} (h : NumberText text) :
    ∃ c rest, text = c :: rest ∧ (c = '-' ∨ c.isDigit = true) := by
  cases h with
  | mk hsign hwhole _ _ _ =>
      rcases hsign with rfl | rfl
      · rcases hwhole.cases with ⟨d, ds, rfl, hd⟩
        exact ⟨d, _, rfl, Or.inr hd⟩
      · exact ⟨'-', _, rfl, Or.inl rfl⟩

theorem not_isBlank_of_sign_or_digit {c : Char} (h : c = '-' ∨ c.isDigit = true) :
    ¬ IsBlank c := by
  rintro (rfl | rfl | rfl | rfl) <;> exact absurd h (by decide)

/-- Digits that nothing continues are passed over. -/
theorem Digits.drop {digits rest : List Char} (h : Digits digits)
    (hrest : ∀ c ∈ rest.head?, c.isDigit = false) :
    (((digits ++ rest).head?.map Char.isDigit).getD false) = true ∧
      (digits ++ rest).dropWhile Char.isDigit = rest := by
  refine ⟨?_, (span_of_head h.2 hrest).2⟩
  rcases h.cases with ⟨d, ds, rfl, hd⟩
  exact hd

theorem passExponent_digits {sign digits rest : List Char}
    (hsign : sign = [] ∨ sign = ['+'] ∨ sign = ['-']) (h : Digits digits) (hends : Ends rest) :
    passExponent (sign ++ digits ++ rest) = .ok rest := by
  rcases h.drop (fun c hc => (hends c hc).1) with ⟨hhead, hdrop⟩
  rcases hsign with rfl | rfl | rfl
  · -- The first digit is no sign.
    rcases h.cases with ⟨d, ds, rfl, hd⟩
    rw [List.nil_append] at *
    unfold passExponent
    split
    · rename_i heq
      rw [List.cons_append] at heq
      obtain ⟨rfl, -⟩ := List.cons.inj heq
      exact absurd hd (by decide)
    · rename_i heq
      rw [List.cons_append] at heq
      obtain ⟨rfl, -⟩ := List.cons.inj heq
      exact absurd hd (by decide)
    · dsimp only
      rw [if_pos hhead, hdrop]
  · exact (if_pos hhead).trans (congrArg _ hdrop)
  · exact (if_pos hhead).trans (congrArg _ hdrop)

theorem ExponentText.head {exponent rest : List Char} (h : ExponentText exponent)
    (hends : Ends rest) : ∀ c ∈ (exponent ++ rest).head?, c.isDigit = false ∧ c ≠ '.' := by
  cases h with
  | none => exact fun c hc => ⟨(hends c hc).1, (hends c hc).2.1⟩
  | some hmark _ _ =>
      intro c hc
      obtain rfl := Option.some.inj hc
      rcases hmark with rfl | rfl <;> decide

/-- What is left after an exponent, if there is one. -/
def passOptionalExponent (text : List Char) : Except JsonError (List Char) :=
  match text with
  | 'e' :: rest | 'E' :: rest => passExponent rest
  | rest => .ok rest

/-- What is left after a fraction and an exponent, if there are any. -/
def passOptionalFraction (text : List Char) : Except JsonError (List Char) :=
  match text with
  | '.' :: rest =>
    if (rest.head?.map Char.isDigit).getD false then
      passOptionalExponent (rest.dropWhile Char.isDigit)
    else .error .badNumber
  | rest => passOptionalExponent rest

theorem passOptionalExponent_text {exponent rest : List Char} (h : ExponentText exponent)
    (hends : Ends rest) : passOptionalExponent (exponent ++ rest) = .ok rest := by
  cases h with
  | none =>
      rw [List.nil_append]
      unfold passOptionalExponent
      split
      · exact absurd rfl (hends 'e' rfl).2.2.1
      · exact absurd rfl (hends 'E' rfl).2.2.2
      · rfl
  | some hmark hsign hdigits =>
      rcases hmark with rfl | rfl
      · exact passExponent_digits hsign hdigits hends
      · exact passExponent_digits hsign hdigits hends

theorem passOptionalFraction_text {fraction exponent rest : List Char}
    (hfraction : FractionText fraction) (hexponent : ExponentText exponent) (hends : Ends rest) :
    passOptionalFraction (fraction ++ (exponent ++ rest)) = .ok rest := by
  have hhead := hexponent.head hends
  have hpass := passOptionalExponent_text hexponent hends
  cases hfraction with
  | none =>
      rw [List.nil_append]
      unfold passOptionalFraction
      split
      · exact absurd rfl (hhead '.' (congrArg List.head? ‹_ = '.' :: _›)).2
      · exact hpass
  | some hdigits =>
      rcases hdigits.drop fun c hc => (hhead c hc).1 with ⟨hfirst, hdrop⟩
      rw [List.cons_append, passOptionalFraction, if_pos hfirst, hdrop]
      exact hpass

/-- A sign is passed over, and where there is none the first digit is not taken for one. -/
theorem passNumber_sign {sign : List Char} (hsign : sign = [] ∨ sign = ['-']) {d : Char}
    (hd : d.isDigit = true) (rest : List Char) :
    passNumber (sign ++ d :: rest) = passNumber ('-' :: d :: rest) := by
  rcases hsign with rfl | rfl
  · have hdigit : d ≠ '-' := by
      rintro rfl
      exact absurd hd (by decide)
    unfold passNumber
    simp [hdigit]
  · rfl

/-- The digits in front of a number are passed over, and what comes after them decides. -/
theorem passNumber_whole {whole tail : List Char} (h : Digits whole)
    (hzero : whole.head? = some '0' → whole = ['0'])
    (htail : ∀ c ∈ tail.head?, c.isDigit = false) :
    passNumber ('-' :: (whole ++ tail)) = passOptionalFraction tail := by
  have hspan := span_of_head h.2 htail
  rw [passNumber]
  simp only [hspan.1, hspan.2]
  split
  · exact absurd rfl h.1
  · cases hzero rfl
  · rfl
  · rfl
  · rfl
  · rename_i hpoint hsmall hlarge
    unfold passOptionalFraction
    split
    · exact absurd rfl (hpoint _)
    · unfold passOptionalExponent
      split
      · exact absurd rfl (hsmall _)
      · exact absurd rfl (hlarge _)
      · rfl

/-- A number is passed over, whatever its size. -/
theorem passNumber_text {text rest : List Char} (h : NumberText text) (hends : Ends rest) :
    passNumber (text ++ rest) = .ok rest := by
  cases h with
  | @mk sign whole fraction exponent hsign hwhole hzero hfraction hexponent =>
      have htail : ∀ c ∈ (fraction ++ (exponent ++ rest)).head?, c.isDigit = false := by
        cases hfraction with
        | none => exact fun c hc => (hexponent.head hends c hc).1
        | some _ =>
            intro c hc
            obtain rfl := Option.some.inj hc
            decide
      have hpass := passNumber_whole hwhole hzero htail
      rcases hwhole.cases with ⟨d, ds, rfl, hd⟩
      rw [List.cons_append] at hpass
      simp only [List.append_assoc, List.cons_append]
      rw [passNumber_sign hsign hd, hpass]
      exact passOptionalFraction_text hfraction hexponent hends

/-! ## Values -/

/-- How an object may write a member, given a text of its value, if only the form matters. -/
inductive MemberForm : List Char → List Char → Prop where
  | mk {letters before after value : List Char} (hname : Lettered letters)
      (hbefore : Blanks before) (hafter : Blanks after) :
      MemberForm value ('"' :: (letters ++ '"' :: (before ++ ':' :: (after ++ value))))

/-- A text is a value of any sort, nested to any depth. -/
inductive WellFormed : List Char → Prop where
  | null : WellFormed "null".toList
  | truth (b : Bool) : WellFormed (if b then "true".toList else "false".toList)
  | number {text : List Char} (h : NumberText text) : WellFormed text
  | string {letters : List Char} (h : Lettered letters) : WellFormed ('"' :: (letters ++ ['"']))
  | array {texts : List (List Char)} {inner : List Char} (hitems : ∀ t ∈ texts, WellFormed t)
      (h : Separated texts inner) : WellFormed ('[' :: (inner ++ [']']))
  | object {values texts : List (List Char)} {inner : List Char}
      (hvalues : ∀ v ∈ values, WellFormed v) (htexts : List.Forall₂ MemberForm values texts)
      (h : Separated texts inner) : WellFormed ('\x7b' :: (inner ++ ['\x7d']))

/-- A value does not start with a blank or a closing bracket. -/
theorem WellFormed.starts {text : List Char} (h : WellFormed text) :
    ∃ c rest, text = c :: rest ∧ ¬ IsBlank c ∧ c ≠ ']' := by
  cases h with
  | null => exact ⟨'n', _, rfl, by decide, by decide⟩
  | truth b =>
      cases b with
      | true => exact ⟨'t', _, rfl, by decide, by decide⟩
      | false => exact ⟨'f', _, rfl, by decide, by decide⟩
  | number h =>
      rcases h.starts with ⟨c, rest, rfl, hc⟩
      refine ⟨c, rest, rfl, not_isBlank_of_sign_or_digit hc, ?_⟩
      rintro rfl
      exact absurd hc (by decide)
  | string _ => exact ⟨'"', _, rfl, by decide, by decide⟩
  | array _ _ => exact ⟨'[', _, rfl, by decide, by decide⟩
  | object _ _ _ => exact ⟨'\x7b', _, rfl, by decide, by decide⟩

/-- A text is passed over as a value, with blanks before it and with anything after it that may
    follow a value, if the fuel is twice as long. -/
def Passes (text : List Char) : Prop :=
  ∀ {blanks rest : List Char} {fuel : Nat}, Blanks blanks → Ends rest → 2 * text.length ≤ fuel →
    passValueWith fuel (blanks ++ (text ++ rest)) = .ok rest

/-- The elements of a list are passed over up to its end, one in each round. -/
theorem passElements_later {t : List Char} {texts : List (List Char)}
    (hpasses : ∀ t' ∈ t :: texts, Passes t') {text : List Char} (h : Later texts text)
    {blanks : List Char} (hblanks : Blanks blanks) {fuel : Nat}
    (hfuel : 2 * (t.length + text.length) + 1 ≤ fuel) (rest : List Char) :
    passElements fuel (blanks ++ (t ++ (text ++ ']' :: rest))) = .ok rest := by
  -- What follows an element is the bracket or one more element, and each of them is one round.
  induction h generalizing t blanks fuel with
  | @nil last hlast =>
      rcases List.forall_mem_cons.mp hpasses with ⟨hfirst, -⟩
      cases fuel with
      | zero => omega
      | succ fuel =>
          have hclose : ¬ IsBlank ']' := by decide
          have hends : Ends (last ++ ']' :: rest) := ends_append hlast (ends_cons (by decide) _)
          rw [passElements, hfirst hblanks hends (by omega)]
          simp only [bind, Except.bind, passBlanks_append hlast, passBlanks_cons hclose]
          rfl
  | @cons before after next more texts hbefore hafter hlater ih =>
      rcases List.forall_mem_cons.mp hpasses with ⟨hfirst, hothers⟩
      cases fuel with
      | zero => omega
      | succ fuel =>
          have hcomma : ¬ IsBlank ',' := by decide
          have hends : Ends (before ++ ',' :: (after ++ (next ++ more)) ++ ']' :: rest) :=
            ends_later (.cons hbefore hafter hlater) (ends_cons (by decide) _)
          simp only [List.length_append, List.length_cons] at hfuel
          -- The comma is a character that the element has not, so the fuel lasts for the others.
          rw [passElements, hfirst hblanks hends (by omega)]
          simp only [bind, Except.bind, List.append_assoc, List.cons_append,
            passBlanks_append hbefore, passBlanks_cons hcomma]
          exact ih hothers hafter (by omega)

/-- In each round of passing over members the value of one is passed over, and what follows it
    decides. -/
theorem passMembers_round {value t : List Char} (ht : MemberForm value t) (hvalue : Passes value)
    {blanks rest : List Char} (hblanks : Blanks blanks) (hends : Ends rest) {fuel : Nat}
    (hfuel : 2 * t.length ≤ fuel) :
    passMembers (fuel + 1) (blanks ++ (t ++ rest)) = match passBlanks rest with
      | [] => .error .endInObject
      | ',' :: left => passMembers fuel left
      | '\x7d' :: left => .ok left
      | _ => .error .noObjectEnd := by
  cases ht with
  | @mk letters before after _ hname hbefore hafter =>
      have hquote : ¬ IsBlank '"' := by decide
      simp only [List.length_append, List.length_cons] at hfuel
      have hread : passValueWith fuel (after ++ (value ++ rest)) = .ok rest :=
        hvalue hafter hends (by omega)
      simp only [List.cons_append, List.append_assoc]
      rw [passMembers, passBlanks_append hblanks, passBlanks_cons hquote]
      simp only [passString_lettered hname, bind, Except.bind, passColon_eq hbefore, hread]
      rfl

/-- The members of an object are passed over up to its end. -/
theorem passMembers_later {value t : List Char} {values texts : List (List Char)}
    (ht : MemberForm value t) (hvalue : Passes value) (hvalues : ∀ v ∈ values, Passes v)
    (htexts : List.Forall₂ MemberForm values texts) {text : List Char} (h : Later texts text)
    {blanks : List Char} (hblanks : Blanks blanks) {fuel : Nat}
    (hfuel : 2 * (t.length + text.length) + 1 ≤ fuel) (rest : List Char) :
    passMembers fuel (blanks ++ (t ++ (text ++ '\x7d' :: rest))) = .ok rest := by
  induction h generalizing t value values blanks fuel with
  | @nil last hlast =>
      cases fuel with
      | zero => omega
      | succ fuel =>
          have hclose : ¬ IsBlank '\x7d' := by decide
          have hends : Ends (last ++ '\x7d' :: rest) := ends_append hlast (ends_cons (by decide) _)
          rw [passMembers_round ht hvalue hblanks hends (by omega), passBlanks_append hlast,
            passBlanks_cons hclose]
          rfl
  | @cons before after next more texts hbefore hafter hlater ih =>
      cases fuel with
      | zero => omega
      | succ fuel =>
          have hcomma : ¬ IsBlank ',' := by decide
          have hends : Ends (before ++ ',' :: (after ++ (next ++ more)) ++ '\x7d' :: rest) :=
            ends_later (.cons hbefore hafter hlater) (ends_cons (by decide) _)
          simp only [List.length_append, List.length_cons] at hfuel
          rw [passMembers_round ht hvalue hblanks hends (by omega)]
          simp only [List.append_assoc, List.cons_append, passBlanks_append hbefore,
            passBlanks_cons hcomma]
          cases htexts with
          | cons hnext hothers =>
              rcases List.forall_mem_cons.mp hvalues with ⟨hfirst, hrest⟩
              exact ih hnext hfirst hrest hothers hafter (by omega)

theorem NumberText.passes {text : List Char} (h : NumberText text) : Passes text := by
  intro blanks rest fuel hblanks hends hfuel
  have hread := passNumber_text h hends
  rcases h.starts with ⟨c, later, rfl, hc⟩
  cases fuel with
  | zero => simp only [List.length_cons] at hfuel; omega
  | succ fuel =>
      -- No other value starts like a number.
      have hother : ∀ d : Char, d ≠ '-' → d.isDigit = false → c ≠ d := by
        rintro d hsign hdigit rfl
        rcases hc with rfl | hc
        · exact hsign rfl
        · rw [hdigit] at hc
          cases hc
      have hblank := not_isBlank_of_sign_or_digit hc
      rw [List.cons_append] at hread ⊢
      rw [passValueWith, passBlanks_append hblanks, passBlanks_cons hblank]
      split
      · cases ‹_ :: _ = []›
      · exact absurd (List.cons.inj ‹_›).1 (hother _ (by decide) (by decide))
      · exact absurd (List.cons.inj ‹_›).1 (hother _ (by decide) (by decide))
      · exact absurd (List.cons.inj ‹_›).1 (hother _ (by decide) (by decide))
      · exact absurd (List.cons.inj ‹_›).1 (hother _ (by decide) (by decide))
      · exact absurd (List.cons.inj ‹_›).1 (hother _ (by decide) (by decide))
      · exact absurd (List.cons.inj ‹_›).1 (hother _ (by decide) (by decide))
      · rename_i heq
        rw [← heq]
        obtain ⟨rfl, rfl⟩ := List.cons.inj heq
        exact (if_pos hc).trans hread

theorem passes_string {letters : List Char} (h : Lettered letters) :
    Passes ('"' :: (letters ++ ['"'])) := by
  intro blanks rest fuel hblanks hends hfuel
  cases fuel with
  | zero => cases hfuel
  | succ fuel =>
      have hquote : ¬ IsBlank '"' := by decide
      rw [List.cons_append, passValueWith, passBlanks_append hblanks, passBlanks_cons hquote,
        List.append_assoc]
      exact passString_lettered h rest

theorem passes_array {texts : List (List Char)} {inner : List Char}
    (hitems : ∀ t ∈ texts, WellFormed t) (hpasses : ∀ t ∈ texts, Passes t)
    (h : Separated texts inner) : Passes ('[' :: (inner ++ [']'])) := by
  intro blanks rest fuel hblanks hends hfuel
  cases fuel with
  | zero => cases hfuel
  | succ fuel =>
      have hopen : ¬ IsBlank '[' := by decide
      have hclose : ¬ IsBlank ']' := by decide
      rw [List.cons_append, passValueWith, passBlanks_append hblanks, passBlanks_cons hopen,
        List.append_assoc]
      cases h with
      | nil hinner =>
          simp only [passBlanks_append hinner, List.singleton_append, passBlanks_cons hclose]
      | @cons before t more texts hbefore hlater =>
          rcases (hitems t List.mem_cons_self).starts with ⟨c, later, rfl, hblank, hbracket⟩
          simp only [List.length_cons, List.length_append] at hfuel
          have hread : passElements fuel (c :: (later ++ (more ++ ']' :: rest))) = .ok rest :=
            passElements_later hpasses hlater blanks_nil (by simp only [List.length_cons]; omega)
              rest
          simp only [List.append_assoc, List.cons_append, List.nil_append,
            passBlanks_append hbefore, passBlanks_cons hblank]
          -- The first element does not start with the bracket that would end the list.
          split
          · cases ‹_ :: _ = []›
          · exact absurd (List.cons.inj ‹_›).1 hbracket
          · exact hread

theorem passes_object {values texts : List (List Char)} {inner : List Char}
    (hvalues : ∀ v ∈ values, Passes v) (htexts : List.Forall₂ MemberForm values texts)
    (h : Separated texts inner) : Passes ('\x7b' :: (inner ++ ['\x7d'])) := by
  intro blanks rest fuel hblanks hends hfuel
  cases fuel with
  | zero => cases hfuel
  | succ fuel =>
      have hopen : ¬ IsBlank '\x7b' := by decide
      have hclose : ¬ IsBlank '\x7d' := by decide
      have hquote : ¬ IsBlank '"' := by decide
      rw [List.cons_append, passValueWith, passBlanks_append hblanks, passBlanks_cons hopen,
        List.append_assoc]
      cases h with
      | nil hinner =>
          simp only [passBlanks_append hinner, List.singleton_append, passBlanks_cons hclose]
      | @cons before t more texts hbefore hlater =>
          cases htexts with
          | cons ht hothers =>
              rcases List.forall_mem_cons.mp hvalues with ⟨hfirst, hrest⟩
              simp only [List.length_cons, List.length_append] at hfuel
              have hread : passMembers fuel ([] ++ (t ++ (more ++ '\x7d' :: rest))) = .ok rest :=
                passMembers_later ht hfirst hrest hothers hlater blanks_nil (by omega) rest
              cases ht with
              | mk _ _ _ =>
                  simp only [List.append_assoc, List.cons_append, List.nil_append,
                    passBlanks_append hbefore, passBlanks_cons hquote] at hread ⊢
                  exact hread

/-- Every value is passed over. -/
theorem WellFormed.passes {text : List Char} (h : WellFormed text) : Passes text := by
  induction h with
  | null =>
      intro blanks rest fuel hblanks hends hfuel
      cases fuel with
      | zero => cases hfuel
      | succ fuel =>
          rw [passValueWith, passBlanks_append hblanks]
          rfl
  | truth b =>
      intro blanks rest fuel hblanks hends hfuel
      cases fuel with
      | zero => cases b <;> cases hfuel
      | succ fuel =>
          rw [passValueWith, passBlanks_append hblanks]
          cases b <;> rfl
  | number h => exact h.passes
  | string h => exact passes_string h
  | array hitems h ih => exact passes_array hitems ih h
  | object _ htexts h ih => exact passes_object ih htexts h

/-- The fuel that the reader is given is enough, since it is counted by the whole text. -/
theorem WellFormed.passValue {text blanks rest : List Char} (h : WellFormed text)
    (hblanks : Blanks blanks) (hends : Ends rest) :
    Json.passValue (blanks ++ (text ++ rest)) = .ok rest := by
  refine h.passes hblanks hends ?_
  simp only [List.length_append]
  omega

end Json

end CloneScan
