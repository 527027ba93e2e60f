import CloneScan.Json.Reader
import Mathlib.Data.List.Forall2

/-!
# How a JSON Value May Be Spelled

A document writes each value in one way, and there are two documents: the compact one and the
indented one. A reader knows nothing of that. It takes blanks wherever they may stand, and a string
with whatever escapes it comes. So what a reader does with a document is not proved for either
layout, but for every text that spells a value, and the two layouts are only shown to be such texts.

The texts of several elements or members are put together in the same way, `Separated`. The
relation is split where a reader goes around: `Later` is what follows an element, so that one round
of the reader is one constructor of it.

## Main definitions

* `Json.Blanks`: A text of blanks only.
* `Json.Spelling`, `Json.Spelled`: How a string may write a character, and several.
* `Json.Separated`, `Json.Later`: Texts with commas between them.
* `Json.MemberText`: How an object may write a member.
* `Json.Written`: A text spells a value.

## Theorems

* `Json.spelled_escaped`: The escapes of a written string.
* `Json.separated_joined`: Texts put together by either layout.
* `Json.written_compact`: The compact text of a value spells it.
* `Json.written_indentedAt`: So does its indented text, at any depth.
* `Json.Written.starts`: The first character of a value.
-/

namespace CloneScan

namespace Json

/-! ## Blanks -/

/-- A space, a tab or a character of a line ending. -/
def IsBlank (c : Char) : Prop :=
  c = ' ' ∨ c = '\t' ∨ c = '\n' ∨ c = '\r'

instance (c : Char) : Decidable (IsBlank c) :=
  inferInstanceAs (Decidable (_ ∨ _))

/-- A text of blanks only. -/
def Blanks (text : List Char) : Prop :=
  ∀ c ∈ text, IsBlank c

theorem blanks_nil : Blanks [] :=
  fun _ h => absurd h List.not_mem_nil

theorem blanks_singleton {c : Char} (h : IsBlank c) : Blanks [c] :=
  List.forall_mem_singleton.mpr h

theorem passBlanks_append {blanks : List Char} (h : Blanks blanks) (text : List Char) :
    passBlanks (blanks ++ text) = passBlanks text := by
  induction blanks with
  | nil => rfl
  | cons c rest ih =>
      rcases List.forall_mem_cons.mp h with ⟨hfirst, hrest⟩
      rw [List.cons_append, passBlanks]
      exact (if_pos hfirst).trans (ih hrest)

theorem passBlanks_of_blanks {blanks : List Char} (h : Blanks blanks) : passBlanks blanks = [] := by
  have hall := passBlanks_append h []
  rwa [List.append_nil] at hall

theorem passBlanks_cons {c : Char} (h : ¬ IsBlank c) (text : List Char) :
    passBlanks (c :: text) = c :: text := by
  rw [passBlanks]
  exact if_neg h

/-! ## Strings -/

/-- How a string may write a character: as it is, by a letter, or by the number of the character,
    in one half or in two. -/
inductive Spelling : Char → List Char → Prop where
  | plain {c : Char} (hquote : c ≠ '"') (hslash : c ≠ '\\') (hcontrol : 32 ≤ c.toNat) :
      Spelling c [c]
  | letter {l c : Char} (h : letterEscapes.lookup l = some c) : Spelling c ['\\', l]
  | number {a b c d : Char} {p q r s n : Nat} (ha : hexValue? a = some p)
      (hb : hexValue? b = some q) (hc : hexValue? c = some r) (hd : hexValue? d = some s)
      (hn : n = ((16 * p + q) * 16 + r) * 16 + s) (hwhole : n < 0xD800 ∨ 0xDFFF < n) :
      Spelling (Char.ofNat n) ['\\', 'u', a, b, c, d]
  | halves {a b c d e f g h : Char} {p q r s t u v w n m : Nat} (ha : hexValue? a = some p)
      (hb : hexValue? b = some q) (hc : hexValue? c = some r) (hd : hexValue? d = some s)
      (hn : n = ((16 * p + q) * 16 + r) * 16 + s) (hfirst : 0xD800 ≤ n ∧ n ≤ 0xDBFF)
      (he : hexValue? e = some t) (hf : hexValue? f = some u) (hg : hexValue? g = some v)
      (hh : hexValue? h = some w) (hm : m = ((16 * t + u) * 16 + v) * 16 + w)
      (hsecond : 0xDC00 ≤ m ∧ m ≤ 0xDFFF) :
      Spelling (Char.ofNat (0x10000 + (n - 0xD800) * 0x400 + (m - 0xDC00)))
        ['\\', 'u', a, b, c, d, '\\', 'u', e, f, g, h]

/-- How a string may write several characters. -/
inductive Spelled : List Char → List Char → Prop where
  | nil : Spelled [] []
  | cons {c : Char} {chars first rest : List Char} (hfirst : Spelling c first)
      (hrest : Spelled chars rest) : Spelled (c :: chars) (first ++ rest)

theorem hexValue?_hexDigit : ∀ n < 16, hexValue? (hexDigit n) = some n := by
  decide

/-- A character is written as it is, after a backslash, or as a letter or a number after one. -/
theorem spelling_escapeChar (c : Char) : Spelling c (escapeChar c) := by
  fun_cases escapeChar c with
  | case1 h =>
      subst h
      exact .letter rfl
  | case2 _ h =>
      subst h
      exact .letter rfl
  | case3 _ _ h =>
      subst h
      exact .letter rfl
  | case4 _ _ _ h =>
      subst h
      exact .letter rfl
  | case5 _ _ _ _ h =>
      subst h
      exact .letter rfl
  | case6 _ _ _ _ _ h =>
      subst h
      exact .letter rfl
  | case7 _ _ _ _ _ _ h =>
      subst h
      exact .letter rfl
  | case8 _ _ _ _ _ _ _ hcontrol =>
      have hspelling := Spelling.number (n := c.toNat) (show hexValue? '0' = some 0 from rfl)
        (show hexValue? '0' = some 0 from rfl)
        (hexValue?_hexDigit (c.toNat / 16) (by omega))
        (hexValue?_hexDigit (c.toNat % 16) (by omega)) (by omega) (by omega)
      rwa [Char.ofNat_toNat] at hspelling
  | case9 hquote hslash _ _ _ _ _ hcontrol =>
      exact .plain hquote hslash (by omega)

/-- The characters of a string as `quote` writes them. -/
theorem spelled_escaped (chars : List Char) : Spelled chars (chars.flatMap escapeChar) := by
  induction chars with
  | nil => exact .nil
  | cons c rest ih =>
      rw [List.flatMap_cons]
      exact .cons (spelling_escapeChar c) ih

/-! ## Texts in a row -/

/-- What may follow a text of a row: blanks alone, or a comma and the next text, with blanks around
    the comma. -/
inductive Later : List (List Char) → List Char → Prop where
  | nil {blanks : List Char} (h : Blanks blanks) : Later [] blanks
  | cons {before after t rest : List Char} {texts : List (List Char)} (hbefore : Blanks before)
      (hafter : Blanks after) (hrest : Later texts rest) :
      Later (t :: texts) (before ++ ',' :: (after ++ (t ++ rest)))

/-- Texts in a row, with a comma between each two of them and with blanks wherever there may be
    some. -/
inductive Separated : List (List Char) → List Char → Prop where
  | nil {blanks : List Char} (h : Blanks blanks) : Separated [] blanks
  | cons {blanks t rest : List Char} {texts : List (List Char)} (h : Blanks blanks)
      (hrest : Later texts rest) : Separated (t :: texts) (blanks ++ (t ++ rest))

/-- Texts in a row as a layout puts them: `before` stands in front of each, and `after` behind the
    last. -/
def joined (before after : List Char) : List (List Char) → List Char
  | [] => []
  | t :: texts => before ++ t ++ texts.flatMap (fun t => ',' :: (before ++ t)) ++ after

/-- A layout that adds blanks only keeps texts in a row. -/
theorem separated_joined {before after : List Char} (hbefore : Blanks before)
    (hafter : Blanks after) (texts : List (List Char)) :
    Separated texts (joined before after texts) := by
  have hlater : ∀ texts : List (List Char),
      Later texts (texts.flatMap (fun t => ',' :: (before ++ t)) ++ after) := by
    intro texts
    induction texts with
    | nil => exact .nil hafter
    | cons t rest ih =>
        have hrest := Later.cons (t := t) blanks_nil hbefore ih
        simpa only [List.flatMap_cons, List.cons_append, List.append_assoc, List.nil_append]
          using hrest
  cases texts with
  | nil => exact .nil blanks_nil
  | cons t rest =>
      simp only [joined, List.append_assoc]
      exact .cons hbefore (hlater rest)

/-- A row is no shorter than the number of its texts, but for the first. -/
theorem Later.length_le {texts : List (List Char)} {text : List Char} (h : Later texts text) :
    texts.length ≤ text.length := by
  induction h with
  | nil _ => exact Nat.zero_le _
  | cons _ _ _ ih => simp only [List.length_append, List.length_cons]; omega

/-! ## Values -/

/-- How an object may write a member, given a text of its value. -/
inductive MemberText : String × List Char → List Char → Prop where
  | mk {name : String} {letters before after value : List Char}
      (hname : Spelled name.toList letters) (hbefore : Blanks before) (hafter : Blanks after) :
      MemberText (name, value) ('"' :: (letters ++ '"' :: (before ++ ':' :: (after ++ value))))

mutual

/-- A text spells a value. -/
inductive Written : Json → List Char → Prop where
  | null : Written .null "null".toList
  | truth (b : Bool) : Written (.truth b) (if b then "true".toList else "false".toList)
  | number (n : Nat) : Written (.number n) (Nat.toDigits 10 n)
  | string {s : String} {letters : List Char} (h : Spelled s.toList letters) :
      Written (.string s) ('"' :: (letters ++ ['"']))
  | array {items : List Json} {texts : List (List Char)} {text : List Char}
      (hitems : List.Forall₂ Written items texts) (h : Separated texts text) :
      Written (.array items) ('[' :: (text ++ [']']))
  | object {members : List (String × Json)} {values : List (String × List Char)}
      {texts : List (List Char)} {text : List Char}
      (hmembers : List.Forall₂ WrittenMember members values)
      (htexts : List.Forall₂ MemberText values texts) (h : Separated texts text) :
      Written (.object members) ('\x7b' :: (text ++ ['\x7d']))

/-- A name with a text that spells its value. -/
inductive WrittenMember : String × Json → String × List Char → Prop where
  | mk {name : String} {v : Json} {text : List Char} (h : Written v text) :
      WrittenMember (name, v) (name, text)

end

/-- The text of a member, given the text of its value. `colon` stands between the name and it. -/
def memberText (colon : List Char) (m : String × List Char) : List Char :=
  quote m.1 ++ ':' :: (colon ++ m.2)

theorem memberText_memberText {colon : List Char} (h : Blanks colon) (m : String × List Char) :
    MemberText m (memberText colon m) := by
  rcases m with ⟨name, value⟩
  have hmember : MemberText (name, value)
      ('"' :: (name.toList.flatMap escapeChar ++ '"' :: ([] ++ ':' :: (colon ++ value)))) :=
    .mk (spelled_escaped name.toList) blanks_nil h
  simpa only [memberText, quote, List.cons_append, List.append_assoc, List.singleton_append,
    List.nil_append] using hmember

/-- A list spells a value if its elements do, in a layout that adds blanks only. -/
theorem written_array {items : List Json} {texts : List (List Char)} {before after : List Char}
    (hbefore : Blanks before) (hafter : Blanks after) (hitems : List.Forall₂ Written items texts) :
    Written (.array items) ('[' :: (joined before after texts ++ [']'])) :=
  .array hitems (separated_joined hbefore hafter texts)

/-- So does an object if the values of its members do. -/
theorem written_object {members : List (String × Json)} {values : List (String × List Char)}
    {before after colon : List Char} (hbefore : Blanks before) (hafter : Blanks after)
    (hcolon : Blanks colon) (hmembers : List.Forall₂ WrittenMember members values) :
    Written (.object members)
      ('\x7b' :: (joined before after (values.map (memberText colon)) ++ ['\x7d'])) := by
  refine .object hmembers ?_ (separated_joined hbefore hafter _)
  rw [List.forall₂_map_right_iff, List.forall₂_same]
  exact fun m _ => memberText_memberText hcolon m

/-! ## The compact layout -/

theorem compact_array (items : List Json) :
    compact (.array items) = '[' :: (joined [] [] (items.map compact) ++ [']']) := by
  have hitems : ∀ v vs, compactItems (v :: vs)
      = compact v ++ (vs.map compact).flatMap fun t => ',' :: t := by
    intro v vs
    induction vs generalizing v with
    | nil => rw [compactItems, List.map_nil, List.flatMap_nil, List.append_nil]
    | cons next rest ih =>
        rw [compactItems, ih, List.map_cons, List.flatMap_cons]
        · rfl
        · exact List.cons_ne_nil _ _
  cases items with
  | nil => rfl
  | cons v vs =>
      rw [compact, hitems, List.map_cons, joined, List.append_nil]
      rfl

theorem compact_object (members : List (String × Json)) :
    compact (.object members) = '\x7b' ::
      (joined [] [] ((members.map fun m => (m.1, compact m.2)).map (memberText [])) ++
        ['\x7d']) := by
  have hmembers : ∀ m ms, compactMembers (m :: ms)
      = memberText [] (m.1, compact m.2) ++
        ((ms.map fun m => (m.1, compact m.2)).map (memberText [])).flatMap fun t => ',' :: t := by
    intro m ms
    induction ms generalizing m with
    | nil =>
        rw [compactMembers, List.map_nil, List.map_nil, List.flatMap_nil, List.append_nil]
        rfl
    | cons next rest ih =>
        rw [compactMembers, ih, List.map_cons, List.map_cons, List.flatMap_cons]
        · simp only [memberText, List.cons_append, List.nil_append, List.append_assoc]
        · exact List.cons_ne_nil _ _
  cases members with
  | nil => rfl
  | cons m ms =>
      rw [compact, hmembers, List.map_cons, List.map_cons, joined, List.append_nil]
      rfl

mutual

/-- The compact text of a value spells it. -/
theorem written_compact : ∀ v : Json, Written v v.compact
  | .null => .null
  | .truth b => .truth b
  | .number n => .number n
  | .string s => .string (spelled_escaped s.toList)
  | .array items => by
      rw [compact_array]
      exact written_array blanks_nil blanks_nil (writtenItems_compact items)
  | .object members => by
      rw [compact_object]
      exact written_object blanks_nil blanks_nil blanks_nil (writtenMembers_compact members)

theorem writtenItems_compact : ∀ items : List Json,
    List.Forall₂ Written items (items.map compact)
  | [] => .nil
  | v :: vs => .cons (written_compact v) (writtenItems_compact vs)

theorem writtenMembers_compact : ∀ members : List (String × Json),
    List.Forall₂ WrittenMember members (members.map fun m => (m.1, compact m.2))
  | [] => .nil
  | (_, v) :: rest => .cons (.mk (written_compact v)) (writtenMembers_compact rest)

end

/-! ## The indented layout -/

theorem blanks_newLine (depth : Nat) : Blanks (newLine depth) := by
  intro c hc
  rcases List.mem_cons.mp hc with rfl | hspace
  · decide
  · rw [List.eq_of_mem_replicate hspace]
    decide

theorem indentedAt_array (depth : Nat) (items : List Json) :
    indentedAt depth (.array items) = '[' ::
      (joined (newLine (depth + 1)) (newLine depth) (items.map (indentedAt (depth + 1))) ++
        [']']) := by
  have hitems : ∀ depth v vs, indentedItems depth (v :: vs)
      = newLine depth ++ indentedAt depth v ++
        (vs.map (indentedAt depth)).flatMap fun t => ',' :: (newLine depth ++ t) := by
    intro depth v vs
    induction vs generalizing v with
    | nil => rw [indentedItems, List.map_nil, List.flatMap_nil, List.append_nil]
    | cons next rest ih =>
        rw [indentedItems, ih, List.map_cons, List.flatMap_cons]
        · rfl
        · exact List.cons_ne_nil _ _
  cases items with
  | nil => rw [indentedAt]; rfl
  | cons v vs =>
      rw [indentedAt, hitems, List.map_cons, joined]
      · simp only [List.cons_append, List.append_assoc]
      · exact List.cons_ne_nil _ _

theorem indentedAt_object (depth : Nat) (members : List (String × Json)) :
    indentedAt depth (.object members) = '\x7b' ::
      (joined (newLine (depth + 1)) (newLine depth)
        ((members.map fun m => (m.1, indentedAt (depth + 1) m.2)).map (memberText [' '])) ++
        ['\x7d']) := by
  have hmembers : ∀ depth m ms, indentedMembers depth (m :: ms)
      = newLine depth ++ memberText [' '] (m.1, indentedAt depth m.2) ++
        ((ms.map fun m => (m.1, indentedAt depth m.2)).map (memberText [' '])).flatMap
          fun t => ',' :: (newLine depth ++ t) := by
    intro depth m ms
    induction ms generalizing m with
    | nil =>
        rw [indentedMembers, List.map_nil, List.map_nil, List.flatMap_nil, List.append_nil]
        simp only [memberText, List.cons_append, List.nil_append, List.append_assoc]
    | cons next rest ih =>
        rw [indentedMembers, ih, List.map_cons, List.map_cons, List.flatMap_cons]
        · simp only [memberText, List.cons_append, List.nil_append, List.append_assoc]
        · exact List.cons_ne_nil _ _
  cases members with
  | nil => rw [indentedAt]; rfl
  | cons m ms =>
      rw [indentedAt, hmembers, List.map_cons, List.map_cons, joined]
      · simp only [List.cons_append, List.append_assoc]
      · exact List.cons_ne_nil _ _

mutual

/-- The indented text of a value spells it, at whatever depth it stands. -/
theorem written_indentedAt : ∀ (depth : Nat) (v : Json), Written v (indentedAt depth v)
  | _, .null => .null
  | _, .truth b => .truth b
  | _, .number n => .number n
  | _, .string s => .string (spelled_escaped s.toList)
  | depth, .array items => by
      rw [indentedAt_array]
      exact written_array (blanks_newLine _) (blanks_newLine _)
        (writtenItems_indentedAt (depth + 1) items)
  | depth, .object members => by
      rw [indentedAt_object]
      have hcolon : Blanks [' '] := blanks_singleton (by decide)
      exact written_object (blanks_newLine _) (blanks_newLine _) hcolon
        (writtenMembers_indentedAt (depth + 1) members)

theorem writtenItems_indentedAt : ∀ (depth : Nat) (items : List Json),
    List.Forall₂ Written items (items.map (indentedAt depth))
  | _, [] => .nil
  | depth, v :: vs => .cons (written_indentedAt depth v) (writtenItems_indentedAt depth vs)

theorem writtenMembers_indentedAt : ∀ (depth : Nat) (members : List (String × Json)),
    List.Forall₂ WrittenMember members (members.map fun m => (m.1, indentedAt depth m.2))
  | _, [] => .nil
  | depth, (_, v) :: rest =>
    .cons (.mk (written_indentedAt depth v)) (writtenMembers_indentedAt depth rest)

end

end Json

end CloneScan
