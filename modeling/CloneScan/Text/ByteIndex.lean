import CloneScan.Text.Bytes

/-!
# Byte Indices

Finding a byte offset means walking the text up to it, and a syntax tree names an offset for
every node. A byte index walks once and remembers what follows each offset, so that a piece
of the text costs no more than its own length.

It says nothing that the text does not say: cutting by the index is cutting the text.

## Main definitions

* `suffixes`: What follows each offset of a text.
* `ByteIndex`: A text with its offsets looked up.
* `ByteIndex.slice`: The characters between two offsets.

## Theorems

* `ByteIndex.slice_ofList`: Cutting by the index is cutting the text.
-/

namespace CloneScan

namespace Text

/-- What follows each byte offset of a text, from offset zero on; nothing at an offset inside a
    character. -/
def suffixes : List Char → List (Option (List Char))
  | [] => [some []]
  | c :: rest => some (c :: rest) :: List.replicate (c.utf8Size - 1) none ++ suffixes rest

/-- The entry at an offset is what follows the offset. -/
theorem join_getElem_suffixes (text : List Char) (n : Nat) :
    (suffixes text)[n]?.join = dropBytes n text := by
  induction text generalizing n with
  | nil => cases n <;> simp [suffixes, dropBytes]
  | cons c rest ih =>
    cases n with
    | zero => simp [suffixes, dropBytes]
    | succ n =>
      have hpos := c.utf8Size_pos
      simp only [suffixes, List.cons_append, List.getElem?_cons_succ, dropBytes]
      by_cases h : c.utf8Size ≤ n + 1
      · rw [List.getElem?_append_right (by simp; omega), List.length_replicate, ih, if_pos h]
        congr 1
        omega
      · rw [List.getElem?_append_left (by simp; omega), if_neg h,
          List.getElem?_replicate_of_lt (by omega)]
        rfl

end Text

/-- A text with its byte offsets looked up. -/
structure ByteIndex where
  /-- What follows each offset; nothing at an offset inside a character. -/
  following : Array (Option (List Char))

namespace ByteIndex

/-- The index of a text. -/
def ofList (text : List Char) : ByteIndex :=
  ⟨(Text.suffixes text).toArray⟩

/-- The characters from one byte offset up to another. -/
def slice (x : ByteIndex) (start stop : Nat) : Option (List Char) :=
  if start ≤ stop then x.following[start]?.join.bind (Text.takeBytes (stop - start)) else none

/-- Cutting by the index is cutting the text. -/
theorem slice_ofList (text : List Char) (start stop : Nat) :
    (ofList text).slice start stop = Text.slice text start stop := by
  simp only [slice, ofList, Text.slice, List.getElem?_toArray, Text.join_getElem_suffixes]

end ByteIndex

end CloneScan
