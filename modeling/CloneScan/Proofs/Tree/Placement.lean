import CloneScan.Proofs.Text.Offsets
import CloneScan.Proofs.Tree.Sites
import CloneScan.Tree.Role

/-!
# Trees Positioned on a Text

A node names where it stands three times over: by the offsets of its first byte and of its end,
by the row, and by the byte column. A parser keeps the three in step, and `PositionedIn` is
what it keeps: the text is cut in three, the middle piece is what the node covers, and the
row and the column count what stands before it.

Nothing in the library checks this, and the reading does not depend on it. What depends on it is
that the place a token is given is the place where its text stands. The byte column is turned
into a number of characters by cutting the text once more, at the last line feed before the
node, and `slice_of_startsAfter` says that the second cut is a place in the text as well.

## Main definitions

* `Node.StartsAfter`: A node starts where a first part of the text ends.
* `Node.PositionedIn`: A node covers a piece of the text.
* `SyntaxTree.PositionedIn`: All nodes of a tree do.

## Theorems

* `Node.positionedIn_iff`: Being positioned can be computed.
* `slice_of_startsAfter`: The byte column leads back to the start of the line.
* `placeOf_of_startsAfter`: The line and the character a node starts at.
* `textOf_of_pieces`: The text of a node is the piece it covers.
-/

namespace CloneScan

namespace Node

/-- A node starts where a first part of the text ends: at its size in bytes, in the row its line
    feeds make, and in the column of the bytes after the last of them. -/
structure StartsAfter (n : Node) (before : List Char) : Prop where
  /-- The offset is the number of bytes before. -/
  startByte : n.startByte = Text.size before
  /-- The row is the number of line feeds before. -/
  row : n.row = before.count '\n'
  /-- The column is the offset less that of the first byte after the last line feed. -/
  column : n.column = Text.size before - Text.size (Text.throughLastFeed before)

instance (n : Node) (before : List Char) : Decidable (n.StartsAfter before) :=
  decidable_of_iff (n.startByte = Text.size before ∧ n.row = before.count '\n' ∧
      n.column = Text.size before - Text.size (Text.throughLastFeed before))
    ⟨fun h => ⟨h.1, h.2.1, h.2.2⟩, fun h => ⟨h.startByte, h.row, h.column⟩⟩

/-- A node covers a piece of the text, and starts where the piece does. -/
def PositionedIn (source : List Char) (n : Node) : Prop :=
  ∃ before piece rest, source = before ++ piece ++ rest ∧ n.StartsAfter before ∧
    n.stopByte = Text.size (before ++ piece)

/-- A node is positioned if its two offsets are places in the text, the first not behind the
    second, and what stands before the first has its row and its column. -/
theorem positionedIn_iff (source : List Char) (n : Node) :
    n.PositionedIn source ↔
      (Text.slice source n.startByte n.stopByte).isSome = true ∧
        ((Text.takeBytes n.startByte source).any fun before => n.StartsAfter before) = true := by
  constructor
  · rintro ⟨before, piece, rest, rfl, hstarts, hstop⟩
    rw [hstarts.startByte, hstop, Text.slice_middle, List.append_assoc, Text.takeBytes_size]
    exact ⟨rfl, decide_eq_true hstarts⟩
  · rintro ⟨hslice, hbefore⟩
    -- The slice cuts the text in three, and the first piece is the only one of its size.
    rcases Option.isSome_iff_exists.mp hslice with ⟨piece, hpiece⟩
    rcases Text.slice_eq_some_iff.mp hpiece with ⟨before, rest, rfl, hstart, hstop⟩
    rw [hstart, List.append_assoc, Text.takeBytes_size, Option.any_some] at hbefore
    exact ⟨before, piece, rest, rfl, of_decide_eq_true hbefore, hstop⟩

instance (source : List Char) (n : Node) : Decidable (n.PositionedIn source) :=
  decidable_of_iff _ (positionedIn_iff source n).symm

end Node

/-- All nodes of a tree are positioned on a text. -/
def SyntaxTree.PositionedIn (source : List Char) (t : SyntaxTree) : Prop :=
  ∀ s ∈ t.sites, s.node.PositionedIn source

instance (source : List Char) (t : SyntaxTree) : Decidable (t.PositionedIn source) :=
  inferInstanceAs (Decidable (∀ s ∈ t.sites, s.node.PositionedIn source))

/-- The byte column leads back to the last line feed before a node, so what is cut out from there
    on is what the line has before the node. -/
theorem slice_of_startsAfter {n : Node} {before : List Char} (rest : List Char)
    (h : n.StartsAfter before) :
    (ByteIndex.ofList (before ++ rest)).slice (n.startByte - n.column) n.startByte
      = some (Text.afterLastFeed before) := by
  have hle := Text.size_throughLastFeed_le before
  have hfirst : n.startByte - n.column = Text.size (Text.throughLastFeed before) := by
    rw [h.startByte, h.column]
    omega
  have hmiddle := Text.slice_middle (Text.throughLastFeed before) (Text.afterLastFeed before) rest
  rw [Text.throughLastFeed_append] at hmiddle
  rw [ByteIndex.slice_ofList, hfirst, h.startByte, hmiddle]

/-- A node starts in the line its row says, at the character that follows those between the last
    line feed and its first byte. -/
theorem placeOf_of_startsAfter {n : Node} {before : List Char} (rest : List Char)
    (h : n.StartsAfter before) :
    placeOf (.ofList (before ++ rest)) n
      = (before.count '\n' + 1, (Text.afterLastFeed before).length + 1) := by
  simp only [placeOf, slice_of_startsAfter rest h, Option.map_some, Option.getD_some, h.row]

theorem textOf_of_pieces {n : Node} {before piece : List Char} (rest : List Char)
    (hstart : n.startByte = Text.size before) (hstop : n.stopByte = Text.size (before ++ piece)) :
    textOf (.ofList (before ++ piece ++ rest)) n = piece := by
  rw [textOf, ByteIndex.slice_ofList, hstart, hstop, Text.slice_middle, Option.getD_some]

end CloneScan
