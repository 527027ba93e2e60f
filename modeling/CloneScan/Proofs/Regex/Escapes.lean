import CloneScan.Proofs.Regex.Closing

/-!
# Escapes before a Closing

What a backslash stands for is read the same before a closing as without it, with two exceptions.
A backslash that ends the text takes the parenthesis of the closing, which then stands for itself,
and so does the mark of a property, for whose name the parenthesis is taken then.
And a word edge that is followed by an open brace waits for the word in the braces; without the
closing it is cut short, with it there is no word, and the brace is left to open the bounds of a
repetition. There are none, but that is found out by the next piece only.

A number of a character is never read into the closing: it has digits, or ends in a brace.

## Main definitions

* `NameLost`, `EdgeLost`, `EscapeLost`: What is read into the closing.
* `readBraceEnd`, `literalOf`, `readEdgeEnd`: Parts of the readers of escapes.

## Theorems

* `readCodePoint_stable`: A character given by its number.
* `readProperty_stable`: A property.
* `readWordEdge_stable`: A word edge.
* `readEscape_stable`: All that a backslash can stand for.
-/

namespace CloneScan

namespace PatternReader

/-! ## Numbers of characters -/

theorem hexValue?_parenthesis : hexValue? ')' = none := by
  decide

theorem readFixedHex_stable (extended : Bool) (count n : Nat) :
    Stable never (readFixedHex extended count n) := by
  induction count generalizing n with
  | zero => exact .ok never n
  | succ count ih =>
      refine .of_first rfl (fun c rest => ?_) fun a joined h => ?_
      · rw [readFixedHex, readFixedHex]
        cases hexValue? c with
        | none => exact .refused
        | some d => exact ((ih _).after_blanks extended).after_first c rest
      · rw [closing, readFixedHex, hexValue?_parenthesis] at h
        exact absurd h error_ne_ok

/-- What ends the number of a character in braces. -/
def readBraceEnd (extended : Bool) (digits : List Char) : Reads Nat :=
  onFirst .unfinishedEscape fun c rest =>
    if digits ≠ [] ∧ c = '\x7d' then .ok (hexNumber digits, blanks extended rest)
    else .error .badCodePoint

theorem readBracedHex_eq (extended : Bool) :
    readBracedHex extended = fun text =>
      readBraceEnd extended (spaced extended (fun c => (hexValue? c).isSome) false text).1
        (spaced extended (fun c => (hexValue? c).isSome) false text).2 := by
  funext text
  unfold readBracedHex
  rcases spaced extended (fun c => (hexValue? c).isSome) false text with ⟨digits, rest⟩
  cases rest with
  | nil => rfl
  | cons c rest =>
      cases digits with
      | nil => simp only [readBraceEnd, onFirst, ne_eq, not_true_eq_false, false_and, if_false]
      | cons d digits =>
          simp only [readBraceEnd, onFirst, ne_eq, reduceCtorEq, not_false_eq_true, true_and]

theorem readBraceEnd_stable (extended : Bool) (digits : List Char) :
    Stable never (readBraceEnd extended digits) := by
  refine .onFirst _ (fun c rest => ?_) fun a joined h => ?_
  · by_cases hend : digits ≠ [] ∧ c = '\x7d'
    · rw [if_pos hend, if_pos hend]
      exact ((Stable.ok never (hexNumber digits)).after_blanks extended).after_first c rest
    · rw [if_neg hend, if_neg hend]
      exact .refused
  · rw [if_neg fun hend => absurd hend.2 (by decide)] at h
    exact absurd h error_ne_ok

theorem readBracedHex_stable (extended : Bool) : Stable never (readBracedHex extended) := by
  have hkind : (hexValue? ')').isSome = false := by decide
  rw [readBracedHex_eq]
  exact .after_spaced (readBraceEnd_stable extended) extended hkind

/-- The character of a number, with what is left after the number. -/
def literalOf (isByte : Bool) (p : Nat × List Char) :
    Except PatternError (Literal × List Char) := do
  return (⟨← charOfCode p.1, isByte⟩, p.2)

theorem readCodePoint_eq (extended : Bool) (width : Nat) (text : List Char) :
    readCodePoint extended width text = onFirst .unfinishedEscape (fun c rest =>
      if c = '\x7b' then readBracedHex extended rest >>= literalOf false
      else readFixedHex extended width 0 (c :: rest) >>= literalOf (width == 2))
        (blanks extended text) := by
  unfold readCodePoint
  cases blanks extended text with
  | nil => rfl
  | cons c rest => rfl

theorem readCodePoint_stable (extended : Bool) {width : Nat} (hwidth : width ≠ 0) :
    Stable never (readCodePoint extended width) := by
  have hliteral : ∀ {read : Reads Nat} (isByte : Bool), Stable never read →
      Stable never fun text => read text >>= literalOf isByte := fun isByte h =>
    h.bind_lift charOfCode (fun _ c => (⟨c, isByte⟩ : Literal)) fun _ _ _ hlost _ => hlost
  have hbraced := hliteral false (readBracedHex_stable extended)
  have hfixed := hliteral (width == 2) (readFixedHex_stable extended width 0)
  rw [funext (readCodePoint_eq extended width)]
  refine Stable.after_blanks (.onFirst _ (fun c rest => ?_) fun a joined h => ?_) extended
  · by_cases hbrace : c = '\x7b'
    · rw [if_pos hbrace, if_pos hbrace]
      exact hbraced.after_first c rest
    · rw [if_neg hbrace, if_neg hbrace]
      exact hfixed (c :: rest)
  · -- A number has a first digit, and a parenthesis is none.
    obtain ⟨count, rfl⟩ := Nat.exists_eq_succ_of_ne_zero hwidth
    rw [if_neg (by decide), readFixedHex, hexValue?_parenthesis] at h
    exact absurd h error_ne_ok

/-! ## Properties -/

theorem readBracedName_stable (extended : Bool) : Stable never (readBracedName extended) := by
  intro text
  have hkind : closing.all (· != '\x7d') = true := by decide
  rw [readBracedName, readBracedName]
  rcases spaced_through extended false hkind text with
    ⟨name, c, rest, halone, hboth⟩ | ⟨name, more, halone, hboth⟩
  · rw [halone, hboth]
    have hsuffix := spaced_suffix extended (· != '\x7d') false text
    rw [halone] at hsuffix
    exact .same ((List.suffix_cons c rest).trans hsuffix) (Or.inl rfl)
  · -- Without a closing brace the name runs to the end of the text, with the closing or without it.
    rw [halone, hboth]
    exact .refused

theorem readProperty_eq (extended : Bool) (text : List Char) :
    readProperty extended text = onFirst .unfinishedEscape (fun c rest =>
      if c = '\x7b' then do
        let p ← readBracedName extended rest
        return (propertyOf p.1, p.2)
      else if c = '\\' then .error .badProperty
      else .ok (.named [c], blanks extended rest)) (blanks extended text) := by
  unfold readProperty
  cases blanks extended text with
  | nil => rfl
  | cons c rest => rfl

/-- The parenthesis of the closing is taken for the name of a property. -/
def NameLost (_ : PropertyQuery) (joined : List Char) : Prop :=
  joined = ['\\', 'z']

theorem readProperty_stable (extended : Bool) : Stable NameLost (readProperty extended) := by
  rw [funext (readProperty_eq extended)]
  refine Stable.after_blanks (.onFirst _ (fun c rest => ?_) fun q joined h => ?_) extended
  · by_cases hbrace : c = '\x7b'
    · rw [if_pos hbrace, if_pos hbrace]
      exact ((readBracedName_stable extended).map propertyOf fun _ _ h => h.elim).after_first c rest
    rw [if_neg hbrace, if_neg hbrace]
    by_cases hmark : c = '\\'
    · rw [if_pos hmark, if_pos hmark]
      exact .refused
    · rw [if_neg hmark, if_neg hmark]
      exact ((Stable.ok _ (PropertyQuery.named [c])).after_blanks extended).after_first c rest
  · rw [if_neg (by decide), if_neg (by decide)] at h
    obtain ⟨_, rfl⟩ := Prod.mk.inj (Except.ok.inj h)
    have hmark : ∀ extended, blanks extended ['\\', 'z'] = ['\\', 'z'] := by decide +kernel
    exact hmark extended

/-! ## Word edges -/

/-- Where a word edge is read into the closing: what follows looks like the bounds of a repetition,
    but there are none. -/
def EdgeLost (extended : Bool) (a : Anchor) (joined : List Char) : Prop :=
  a = .wordEdge ∧ ∃ inside, joined = '\x7b' :: inside ∧ blanks extended inside = closing

/-- The characters of the word between the braces of an edge mark. -/
def isEdgeChar (c : Char) : Bool :=
  c.isAlpha || c == '-'

/-- The anchor of the word between the braces of an edge mark. -/
def readEdgeEnd (name : List Char) : Reads Anchor :=
  onFirst .badWordEdge fun c rest =>
    if c = '\x7d' then
      match [("start", Anchor.wordStart), ("end", .wordEnd), ("start-half", .afterNoWord),
          ("end-half", .beforeNoWord)].lookup (String.ofList name) with
      | some a => .ok (a, rest)
      | none => .error .badWordEdge
    else .error .badWordEdge

theorem readEdgeEnd_stable (name : List Char) : Stable never (readEdgeEnd name) := by
  refine .onFirst _ (fun c rest => ?_) fun a joined h => ?_
  · by_cases hbrace : c = '\x7d'
    · rw [if_pos hbrace, if_pos hbrace]
      cases [("start", Anchor.wordStart), ("end", .wordEnd), ("start-half", .afterNoWord),
          ("end-half", .beforeNoWord)].lookup (String.ofList name) with
      | none => exact .refused
      | some a => exact (Stable.ok never a).after_first c rest
    · rw [if_neg hbrace, if_neg hbrace]
      exact .refused
  · rw [if_neg (by decide)] at h
    exact absurd h error_ne_ok

/-- The word between the braces of an edge mark, with the brace after it. -/
def readEdgeWord (extended : Bool) : Reads Anchor := fun text =>
  readEdgeEnd (spaced extended isEdgeChar false text).1 (spaced extended isEdgeChar false text).2

theorem readEdgeWord_stable (extended : Bool) : Stable never (readEdgeWord extended) :=
  .after_spaced readEdgeEnd_stable extended rfl

theorem readWordEdge_of_ne (extended : Bool) {c : Char} (h : c ≠ '\x7b') (rest : List Char) :
    readWordEdge extended (c :: rest) = .ok (.wordEdge, c :: rest) := by
  unfold readWordEdge
  split
  · next heq => exact absurd (List.cons.inj heq).1 h
  · rfl

theorem readWordEdge_brace (extended : Bool) (inside : List Char) :
    readWordEdge extended ('\x7b' :: inside) =
      match blanks extended inside with
      | [] => .error .badWordEdge
      | c :: rest =>
        if isEdgeChar c then readEdgeWord extended (c :: rest)
        else .ok (.wordEdge, '\x7b' :: inside) := by
  unfold readWordEdge
  cases hinside : blanks extended inside with
  | nil => simp only [hinside]
  | cons c rest =>
      simp only [hinside]
      by_cases hchar : isEdgeChar c = true
      · rw [if_pos hchar]
        have hword : (c.isAlpha || c == '-') = true := hchar
        rw [if_pos hword, readEdgeWord]
        have hkind : isEdgeChar = fun c => c.isAlpha || c == '-' := rfl
        rw [← hkind]
        rcases spaced extended isEdgeChar false (c :: rest) with ⟨name, left⟩
        cases left with
        | nil => rfl
        | cons d after =>
            by_cases hbrace : d = '\x7d'
            · subst hbrace
              rfl
            · simp only [readEdgeEnd, onFirst, if_neg hbrace]
              split
              · next heq => exact absurd (List.cons.inj (Prod.mk.inj heq).2).1 hbrace
              · rfl
      · rw [if_neg hchar]
        have hword : ¬ (c.isAlpha || c == '-') = true := hchar
        rw [if_neg hword]

theorem readWordEdge_stable (extended : Bool) :
    Stable (EdgeLost extended) (readWordEdge extended) := by
  intro text
  cases text with
  | nil => exact .same (List.suffix_refl []) (Or.inl rfl)
  | cons c inside =>
      rw [List.cons_append]
      by_cases hbrace : c = '\x7b'
      · subst hbrace
        rw [readWordEdge_brace, readWordEdge_brace]
        have hblanks := blanks_joined extended inside
        cases hinside : blanks extended inside with
        | nil =>
            -- By itself the mark is cut short; with the closing, no word stands in the braces.
            refine .of_error fun a joined h => ?_
            rw [hinside] at hblanks
            rcases hblanks with hclosing | ⟨_, hnone⟩
            · rw [hclosing] at h
              have hedge : (.ok (.wordEdge, '\x7b' :: (inside ++ closing)) : Except PatternError _)
                  = .ok (a, joined) := h
              obtain ⟨rfl, rfl⟩ := Prod.mk.inj (Except.ok.inj hedge)
              exact ⟨rfl, _, rfl, hclosing⟩
            · rw [hnone] at h
              exact absurd h error_ne_ok
        | cons d tail =>
            rw [hinside] at hblanks
            simp only [hblanks.of_cons]
            by_cases hchar : isEdgeChar d = true
            · rw [if_pos hchar, if_pos hchar]
              have hsuffix := (blanks_suffix extended inside).trans (List.suffix_cons '\x7b' inside)
              rw [hinside] at hsuffix
              exact (readEdgeWord_stable extended (d :: tail)).mono (fun _ _ h => h.elim) hsuffix
            · rw [if_neg hchar, if_neg hchar]
              exact .same (List.suffix_refl _) (Or.inl rfl)
      · rw [readWordEdge_of_ne extended hbrace, readWordEdge_of_ne extended hbrace]
        exact .same (List.suffix_refl _) (Or.inl rfl)

/-! ## All escapes -/

/-- What an escape is read as in the closing: a character that stands for itself or names a
    property, or a word edge. -/
def EscapeLost (extended : Bool) (e : Escaped) (joined : List Char) : Prop :=
  joined = ['\\', 'z'] ∨ ∃ a, e = .anchor a ∧ EdgeLost extended a joined

theorem width_ne_zero {c : Char} {width : Nat} (h : codePointWidths.lookup c = some width) :
    width ≠ 0 := by
  have hall : ∀ entry ∈ codePointWidths, entry.2 ≠ 0 := by decide
  rcases List.lookup_eq_some_iff.mp h with ⟨before, after, hsplit, _⟩
  refine hall (c, width) ?_
  rw [hsplit]
  exact List.mem_append_right before List.mem_cons_self

theorem readEscape_stable (extended : Bool) :
    Stable (EscapeLost extended) (readEscape extended) := by
  refine .of_first rfl (fun c rest => ?_) fun a joined h => ?_
  · rw [readEscape, readEscape]
    by_cases hdigit : c.isDigit = true
    · rw [if_pos hdigit, if_pos hdigit]
      exact .refused
    rw [if_neg hdigit, if_neg hdigit]
    cases hwidth : codePointWidths.lookup c with
    | some width =>
        have hnumber := readCodePoint_stable extended (width_ne_zero hwidth)
        exact (hnumber.map Escaped.char fun _ _ h => h.elim).after_first c rest
    | none =>
    cases letterEscapes.lookup c with
    | some p => exact (Stable.ok _ (Escaped.letter p.1 p.2)).after_first c rest
    | none =>
    by_cases hproperty : c = 'p' ∨ c = 'P'
    · simp only [if_pos hproperty]
      exact ((readProperty_stable extended).map (Escaped.property · (c == 'P'))
        fun _ _ h => Or.inl h).after_first c rest
    simp only [if_neg hproperty]
    by_cases hplain : isPlainEscape c = true
    · simp only [if_pos hplain]
      exact (Stable.ok _ (Escaped.char ⟨c, false⟩)).after_first c rest
    simp only [if_neg hplain]
    cases controlEscapes.lookup c with
    | some d => exact (Stable.ok _ (Escaped.char ⟨d, false⟩)).after_first c rest
    | none =>
    cases anchorEscapes.lookup c with
    | some a => exact (Stable.ok _ (Escaped.anchor a)).after_first c rest
    | none =>
    by_cases hedge : c = 'b'
    · simp only [if_pos hedge]
      exact ((readWordEdge_stable extended).map Escaped.anchor
        fun a joined h => Or.inr ⟨a, rfl, h⟩).after_first c rest
    · simp only [if_neg hedge]
      exact .refused
  · -- The parenthesis of the closing is a character that stands for itself.
    have hplain : ')'.isDigit = false ∧ codePointWidths.lookup ')' = none ∧
        letterEscapes.lookup ')' = none ∧ ¬(')' = 'p' ∨ ')' = 'P') ∧ isPlainEscape ')' = true := by
      decide
    rw [closing, readEscape] at h
    simp only [hplain, Bool.false_eq_true, if_false, if_true] at h
    obtain ⟨_, rfl⟩ := Prod.mk.inj (Except.ok.inj h)
    exact Or.inl rfl

end PatternReader

end CloneScan
