import CloneScan.Proofs.File.TokenSpan
import CloneScan.Proofs.Text.Places
import CloneScan.Proofs.Tree.Placement
import Mathlib.Data.Prod.Lex

/-!
# Places at the Boundaries of a Text

Every boundary between two characters of a text has a byte offset, and every node that starts
there gets a place from it. The offset counts bytes and the place counts characters, and the two
are found by different scans: the place of a node by cutting the text back to its line, the place
of the end by taking the last of its lines, the number of lines of a file by measuring them
all. What is said here is that these agree, and that nothing is lost between them: the places
are ordered as the offsets are, so no two boundaries share one.

A boundary is one of the UTF-8 form, as the strings themselves have it. `Text.isValid_iff` makes
it a cut of the list of characters, and everything else is about cuts, whose places are in order
by `Text.placeAfter_before_iff`. That order would break where the byte column stands in for the
character, since a character may take several bytes. By `slice_of_startsAfter` it never does at
a boundary.

## Main definitions

* `Node.StartsIn`: A node starts at a boundary of a text.

## Theorems

* `Text.size_toList`, `Text.isValid_iff`: Offsets and boundaries are those of the UTF-8 form.
* `exists_startsIn_iff`: A node can start exactly at the boundaries.
* `placeOf_lt_iff`: Places are ordered as offsets are.
* `endPlace_eq_placeOf`: The end of a text is the place of its last boundary.
* `places_follow_offsets`: All of this, with the number of lines of the file.
-/

namespace CloneScan

namespace Text

/-- The bytes of some characters are those of the UTF-8 form they make together. -/
theorem utf8ByteSize_ofList (cs : List Char) : (String.ofList cs).utf8ByteSize = size cs := by
  induction cs with
  | nil => rw [size, String.ofList_nil, String.utf8ByteSize_empty]
  | cons c rest ih =>
      rw [size, String.ofList_cons, String.utf8ByteSize_append, String.utf8ByteSize_singleton, ih]

theorem size_toList (text : String) : size text.toList = text.utf8ByteSize := by
  rw [← utf8ByteSize_ofList, String.ofList_toList]

/-- A boundary between two characters of a text is where its characters can be cut in two. -/
theorem isValid_iff {text : String} {boundary : String.Pos.Raw} :
    boundary.IsValid text ↔
      ∃ before rest, text.toList = before ++ rest ∧ size before = boundary.byteIdx := by
  rw [String.Pos.Raw.isValid_iff_exists_append]
  constructor
  · rintro ⟨first, second, rfl, rfl⟩
    refine ⟨first.toList, second.toList, String.toList_append, ?_⟩
    rw [size_toList, String.byteIdx_rawEndPos]
  · rintro ⟨before, rest, htext, hsize⟩
    refine ⟨.ofList before, .ofList rest, ?_, ?_⟩
    · rw [← String.ofList_append, ← htext, String.ofList_toList]
    · rw [String.Pos.Raw.ext_iff, String.byteIdx_rawEndPos, utf8ByteSize_ofList, hsize]

end Text

/-- A node starts at a boundary between two characters of a text, in the row and the byte column
    that the boundary has. -/
def Node.StartsIn (source : List Char) (n : Node) : Prop :=
  ∃ before rest, source = before ++ rest ∧ n.StartsAfter before

/-- A node can start at an offset exactly if the offset is a boundary. -/
theorem exists_startsIn_iff {source : String} {boundary : String.Pos.Raw} :
    (∃ n : Node, n.StartsIn source.toList ∧ n.startByte = boundary.byteIdx) ↔
      boundary.IsValid source := by
  rw [Text.isValid_iff]
  constructor
  · rintro ⟨n, ⟨before, rest, hsource, hstarts⟩, hbyte⟩
    exact ⟨before, rest, hsource, hstarts.startByte ▸ hbyte⟩
  · rintro ⟨before, rest, hsource, hsize⟩
    let n : Node :=
      { (default : Node) with
        startByte := Text.size before
        row := before.count '\n'
        column := Text.size before - Text.size (Text.throughLastFeed before) }
    exact ⟨n, ⟨before, rest, hsource, rfl, rfl, rfl⟩, hsize⟩

/-- Places are ordered, by line and then by character, as the offsets are that they stand for. -/
theorem placeOf_lt_iff {source : List Char} {n m : Node} (hn : n.StartsIn source)
    (hm : m.StartsIn source) :
    toLex (placeOf (.ofList source) n) < toLex (placeOf (.ofList source) m) ↔
      n.startByte < m.startByte := by
  rcases hn with ⟨before, rest, hsource, hstarts⟩
  rcases hm with ⟨later, final, hagain, hlater⟩
  have hfirst := placeOf_of_startsAfter rest hstarts
  have hsecond := placeOf_of_startsAfter final hlater
  rw [← hsource] at hfirst
  rw [← hagain] at hsecond
  have horder := Text.placeAfter_before_iff (⟨rest, hsource.symm⟩ : before <+: source)
    (⟨final, hagain.symm⟩ : later <+: source)
  rw [hfirst, hsecond, hstarts.startByte, hlater.startByte, ← horder, Prod.Lex.toLex_lt_toLex]
  -- An event counts characters from one, and a position counts them from zero.
  simp only [Position.Before, Text.placeAfter, Nat.add_lt_add_iff_right]

/-- The end of a text lies on its last line, after all characters of it. -/
theorem endPlace_eq (source : List Char) :
    endPlace source = (source.count '\n' + 1, (Text.afterLastFeed source).length + 1) := by
  simp only [endPlace, Text.length_lines, Text.getLast?_lines, Option.getD_some]

/-- The end of a text is the place of a node that starts at its last boundary. -/
theorem endPlace_eq_placeOf {source : List Char} {n : Node} (h : n.StartsIn source)
    (hend : n.startByte = Text.size source) :
    endPlace source = placeOf (.ofList source) n := by
  rcases h with ⟨before, rest, rfl, hstarts⟩
  have hsize := hstarts.startByte.symm.trans hend
  rw [Text.size_append] at hsize
  -- All of the text stands before the node, so nothing comes after.
  have hrest : rest = [] := Text.eq_nil_of_size (by omega)
  subst hrest
  rw [endPlace_eq, placeOf_of_startsAfter [] hstarts, List.append_nil]

/-- A text that is measured has as many lines as the place of its end says. -/
theorem lineCount_ofText (path : Path) (source : String) :
    (SourceFile.ofText path source).lineCount = (endPlace source.toList).1 := by
  simp only [SourceFile.lineCount, SourceFile.ofText, endPlace, List.size_toArray,
    List.length_map]

/-- The boundaries of a text are the offsets that nodes can start at. The place of a node is one
    more than the line feeds before it and one more than the characters after the last of them,
    cut out of the text and not taken from the byte column. Places are ordered as offsets are,
    the end of the text is the place of its last boundary, and the line it lies on is the number
    of lines of the file. -/
theorem places_follow_offsets (path : Path) (source : String) :
    let index := ByteIndex.ofList source.toList
    (∀ boundary : String.Pos.Raw, boundary.IsValid source ↔
      ∃ n : Node, n.StartsIn source.toList ∧ n.startByte = boundary.byteIdx) ∧
    (∀ (n : Node) (before rest : List Char), source.toList = before ++ rest →
      n.StartsAfter before →
        index.slice (n.startByte - n.column) n.startByte = some (Text.afterLastFeed before) ∧
        placeOf index n = (1 + before.count '\n', 1 + (Text.afterLastFeed before).length)) ∧
    (∀ n m : Node, n.StartsIn source.toList → m.StartsIn source.toList →
      (n.startByte < m.startByte ↔ toLex (placeOf index n) < toLex (placeOf index m))) ∧
    (∀ n : Node, n.StartsIn source.toList → n.startByte = source.utf8ByteSize →
      endPlace source.toList = placeOf index n) ∧
    (endPlace source.toList).1 = (SourceFile.ofText path source).lineCount := by
  intro index
  refine ⟨fun _ => exists_startsIn_iff.symm, ?_, fun n m hn hm => (placeOf_lt_iff hn hm).symm, ?_,
    (lineCount_ofText path source).symm⟩
  · intro n before rest hsource hstarts
    have hslice := slice_of_startsAfter rest hstarts
    have hplace := placeOf_of_startsAfter rest hstarts
    rw [← hsource] at hslice hplace
    refine ⟨hslice, ?_⟩
    rw [hplace, Nat.add_comm 1, Nat.add_comm 1]
  · intro n hn hend
    exact endPlace_eq_placeOf hn (hend.trans (Text.size_toList source).symm)

/-- Before the `x` of this text stand four bytes of its line, but one character. The text ends in a
    line feed, so its end, where a semicolon is missing, lies on a line with nothing on it. -/
theorem places_follow_offsets_of_wide :
    let source := "é\r\n😀x\n"
    let x : Node := ⟨"identifier", true, false, 8, 9, 1, 4, none⟩
    let after : Node := ⟨";", false, true, 10, 10, 2, 0, none⟩
    x.StartsIn source.toList ∧ after.StartsIn source.toList ∧
    placeOf (.ofList source.toList) x = (2, 2) ∧
    toLex (placeOf (.ofList source.toList) x) < toLex (placeOf (.ofList source.toList) after) ∧
    placeOf (.ofList source.toList) after = endPlace source.toList ∧
    endPlace source.toList = (3, 1) ∧
    (SourceFile.ofText ⟨"a.cpp"⟩ source).lineCount = 3 := by
  intro source x after
  have hx : x.StartsAfter ['é', '\r', '\n', '😀'] := by
    decide
  have hafter : after.StartsAfter ['é', '\r', '\n', '😀', 'x', '\n'] := by
    decide
  have hxin : x.StartsIn source.toList := ⟨_, ['x', '\n'], by decide +kernel, hx⟩
  have hafterin : after.StartsIn source.toList := ⟨_, [], by decide +kernel, hafter⟩
  rcases places_follow_offsets ⟨"a.cpp"⟩ source with ⟨_, hplace, horder, hlast, hlines⟩
  have hsize : after.startByte = source.utf8ByteSize := by
    decide +kernel
  have hend := hlast after hafterin hsize
  have hthree : endPlace source.toList = (3, 1) := by
    rw [hend, (hplace after _ [] (by decide +kernel) hafter).2]
    decide
  refine ⟨hxin, hafterin, ?_, (horder x after hxin hafterin).mp (by decide), hend.symm, hthree, ?_⟩
  · rw [(hplace x _ ['x', '\n'] (by decide +kernel) hx).2]
    decide
  · rw [← hlines, hthree]

end CloneScan
