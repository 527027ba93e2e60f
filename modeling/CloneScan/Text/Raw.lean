/-!
# Raw Texts

A name in a file system is a row of bytes. Mostly it is the UTF-8 form of a text, but nothing
sees to that. So a path and what it is made of are kept as bytes, and are compared as bytes,
and only what shows one to a reader asks for the text.

Where there is none, a reader is shown the characters that can be made out. Every piece that
could have begun a character and does not make one up has the replacement character in its
place.

## Main definitions

* `RawText`: A row of bytes.
* `RawText.ofString`: The bytes of a text.
* `RawText.text?`: The text of some bytes, if they are the form of one.
* `RawText.shown`: What a reader is shown.

## Theorems

* `RawText.text?_eq_some_iff`: Bytes have a text exactly if they are the bytes of it.
* `RawText.shown_ofString`: A text is shown as it is.
-/

namespace CloneScan

/-- A row of bytes, mostly the UTF-8 form of a text. -/
@[ext]
structure RawText where
  bytes : List UInt8
  deriving Repr, DecidableEq, Inhabited

namespace RawText

/-- The bytes of a text. -/
def ofString (s : String) : RawText :=
  ⟨s.toUTF8.data.toList⟩

instance : Coe String RawText :=
  ⟨ofString⟩

instance : Append RawText :=
  ⟨fun a b => ⟨a.bytes ++ b.bytes⟩⟩

/-- There are no bytes. -/
def isEmpty (t : RawText) : Bool :=
  t.bytes.isEmpty

/-- The text of some bytes, if they are the form of one. -/
def text? (t : RawText) : Option String :=
  String.fromUTF8? ⟨t.bytes.toArray⟩

/-- What may follow the first byte of a character: the least and the greatest second byte, and
    how many bytes come behind that. -/
def followers (lead : UInt8) : Option (UInt8 × UInt8 × Nat) :=
  if lead < 0xC2 then none
  else if lead < 0xE0 then some (0x80, 0xBF, 0)
  else if lead = 0xE0 then some (0xA0, 0xBF, 1)
  else if lead = 0xED then some (0x80, 0x9F, 1)
  else if lead < 0xF0 then some (0x80, 0xBF, 1)
  else if lead = 0xF0 then some (0x90, 0xBF, 2)
  else if lead < 0xF4 then some (0x80, 0xBF, 2)
  else if lead = 0xF4 then some (0x80, 0x8F, 2)
  else none

/-- How many bytes behind `lead` could belong to one character with it. -/
def countFollowing (lead : UInt8) (rest : List UInt8) : Nat :=
  match followers lead, rest with
  | some (least, greatest, more), second :: later =>
    if least ≤ second ∧ second ≤ greatest then
      1 + ((later.take more).takeWhile fun b => 0x80 ≤ b ∧ b ≤ 0xBF).length
    else 0
  | _, _ => 0

/-- The characters that can be made out among some bytes, with the replacement character for
    each piece that makes up none. -/
def madeOut : List UInt8 → List Char
  | [] => []
  | lead :: rest =>
    match ByteArray.utf8DecodeChar? ⟨(lead :: rest.take 3).toArray⟩ 0 with
    | some c => c :: madeOut (rest.drop (c.utf8Size - 1))
    | none => '\uFFFD' :: madeOut (rest.drop (countFollowing lead rest))
  termination_by bytes => bytes.length
  decreasing_by all_goals simp only [List.length_drop, List.length_cons]; omega

/-- What a reader is shown. -/
def shown (t : RawText) : String :=
  t.text?.getD (String.ofList (madeOut t.bytes))

theorem bytes_append (a b : RawText) : (a ++ b).bytes = a.bytes ++ b.bytes :=
  rfl

theorem isEmpty_iff {t : RawText} : t.isEmpty = true ↔ t = ofString "" := by
  rw [isEmpty, List.isEmpty_iff, RawText.ext_iff]
  exact Iff.rfl

theorem text?_ofString (s : String) : (ofString s).text? = some s := by
  have hbytes : (⟨(ofString s).bytes.toArray⟩ : ByteArray) = s.toUTF8 := rfl
  rw [text?, hbytes, String.toUTF8_eq_toByteArray, String.fromUTF8?, dif_pos s.isValidUTF8]
  rfl

/-- Bytes have a text exactly if they are the bytes of it. -/
theorem text?_eq_some_iff {t : RawText} {s : String} : t.text? = some s ↔ t = ofString s := by
  constructor
  · intro htext
    rw [text?, String.fromUTF8?] at htext
    split at htext
    · rw [← Option.some.inj htext]
      rfl
    · cases htext
  · rintro rfl
    exact text?_ofString s

/-- A text is shown as it is. -/
theorem shown_ofString (s : String) : (ofString s).shown = s := by
  rw [shown, text?_ofString, Option.getD_some]

end RawText

end CloneScan
