import CloneScan.Proofs.Collector.Losses
import CloneScan.Proofs.Text.Returns
import CloneScan.Proofs.Tree.Relocation

/-!
# Line Endings Do Not Matter

A source that comes from another system has carriage returns before its line feeds, or before some
of them. A parser sees them: every offset behind one moves, and a token that spans a line feed has
another text. What is handed over to a search for clones stays the same.

Three things have to work together for that, each of which counts in its own way. The file measures
its lines and leaves out the one carriage return that ends a line. A token is placed by its line and
by the characters before it there, and those on earlier lines have no part in it. And a token that
spans a line feed, the only one whose text can change, does not fit its line before the change, nor
after it.

The comparison is site by site (`Site.cloneToken?_withReturns`), by what the node covers. A piece
without a line feed is the same token in both sources (`Site.sourceToken_withReturns`), and a piece
with one is refused in both (`Site.cloneToken?_of_feed`).

## Main definitions

* `sourceWithReturns`: A source with carriage returns before some of its line feeds.
* `Node.withReturns`: A node moved along.
* `ParsedSource.withReturns`: The tree of a source for the changed source.

## Theorems

* `SourceFile.ofText_sourceWithReturns`: The file has the same lines.
* `Node.positionedIn_withReturns`: A node that is moved along is positioned on the changed source.
* `Site.kept_withReturns_iff`: The same sites are kept.
* `Site.cloneToken?_withReturns`: They give the same clone tokens.
* `saved_tokens_ignore_line_endings`: What the collector hands over.
-/

namespace CloneScan

/-- A source with a carriage return before each of its line feeds that is picked. -/
def sourceWithReturns (pick : Nat → Bool) (source : String) : String :=
  String.ofList (Text.withReturns pick 0 source.toList)

/-- The node of a source in the source with carriage returns. Its offsets move by the carriage
    returns before them, and its row and its column are counted anew. -/
def Node.withReturns (pick : Nat → Bool) (source : List Char) (n : Node) : Node :=
  let start := Text.movedOffset pick source n.startByte
  let before := (Text.takeBytes start (Text.withReturns pick 0 source)).getD []
  { n with
    startByte := start
    stopByte := Text.movedOffset pick source n.stopByte
    row := before.count '\n'
    column := Text.size before - Text.size (Text.throughLastFeed before) }

/-- The tree of a source for the source with carriage returns. -/
def ParsedSource.withReturns (pick : Nat → Bool) (source : String) (parsed : ParsedSource) :
    ParsedSource :=
  { parsed with root := parsed.root.mapNodes (Node.withReturns pick source.toList) }

variable (pick : Nat → Bool)

theorem toList_sourceWithReturns (source : String) :
    (sourceWithReturns pick source).toList = Text.withReturns pick 0 source.toList := by
  rw [sourceWithReturns, String.toList_ofList]

/-- The file of a source is that of the source with carriage returns: none of them counts. -/
theorem SourceFile.ofText_sourceWithReturns (name : Path) {source : String}
    (h : ∀ line ∈ Text.lines source.toList, line.getLast? ≠ some '\r') :
    ofText name (sourceWithReturns pick source) = ofText name source := by
  have hlines := Text.withoutReturn_lines_withReturns pick 0 source.toList h
  have hkept : (Text.lines source.toList).map Text.withoutReturn = Text.lines source.toList :=
    (List.map_congr_left fun line hline => if_neg (h line hline)).trans (List.map_id _)
  -- Both texts are measured by the same lines, and then only lengths count.
  have hmeasure (text : List Char) : (Text.lines text).map (fun line =>
      (Text.withoutReturn line).length)
        = ((Text.lines text).map Text.withoutReturn).map List.length :=
    (List.map_map ..).symm
  rw [ofText, ofText, toList_sourceWithReturns, hmeasure, hmeasure, hlines, hkept]

namespace Node

theorem keepsPart_withReturns (source : List Char) : KeepsPart (withReturns pick source) :=
  ⟨fun _ => rfl, fun _ => rfl, fun _ => rfl, fun _ => rfl⟩

/-- The three pieces that a node cuts its source into, each with its carriage returns, are the
    pieces that it cuts the changed source into. -/
theorem pieces_withReturns {n : Node} {before piece : List Char} (rest : List Char)
    (hstarts : n.StartsAfter before) (hstop : n.stopByte = Text.size (before ++ piece)) :
    let feeds := before.count '\n'
    let n' := n.withReturns pick (before ++ piece ++ rest)
    Text.withReturns pick 0 (before ++ piece ++ rest)
        = Text.withReturns pick 0 before ++ Text.withReturns pick feeds piece
          ++ Text.withReturns pick (feeds + piece.count '\n') rest ∧
      n'.StartsAfter (Text.withReturns pick 0 before) ∧
      n'.stopByte
        = Text.size (Text.withReturns pick 0 before ++ Text.withReturns pick feeds piece) := by
  intro feeds n'
  have hcut : Text.withReturns pick 0 (before ++ piece)
      = Text.withReturns pick 0 before ++ Text.withReturns pick feeds piece := by
    rw [Text.withReturns_append, Nat.zero_add]
  have hall : Text.withReturns pick 0 (before ++ piece ++ rest)
      = Text.withReturns pick 0 before ++ Text.withReturns pick feeds piece
        ++ Text.withReturns pick (feeds + piece.count '\n') rest := by
    rw [Text.withReturns_append, hcut, List.count_append, Nat.zero_add]
  have hstart : n'.startByte = Text.size (Text.withReturns pick 0 before) := by
    have hmoved := Text.movedOffset_size pick before (piece ++ rest)
    rw [← List.append_assoc, ← hstarts.startByte] at hmoved
    exact hmoved
  -- The row and the column are those of what now stands before the node.
  have hbefore : (Text.takeBytes n'.startByte
      (Text.withReturns pick 0 (before ++ piece ++ rest))).getD []
        = Text.withReturns pick 0 before := by
    rw [hstart, hall, List.append_assoc, Text.takeBytes_size, Option.getD_some]
  refine ⟨hall, ⟨hstart, congrArg (List.count '\n') hbefore, ?_⟩, ?_⟩
  · exact congrArg (fun first => Text.size first - Text.size (Text.throughLastFeed first)) hbefore
  · have hmoved := Text.movedOffset_size pick (before ++ piece) rest
    rw [← hstop, hcut] at hmoved
    exact hmoved

/-- A node that is positioned on a source is positioned on the changed one. -/
theorem positionedIn_withReturns {source : List Char} {n : Node} (h : n.PositionedIn source) :
    (n.withReturns pick source).PositionedIn (Text.withReturns pick 0 source) := by
  rcases h with ⟨before, piece, rest, rfl, hstarts, hstop⟩
  rcases pieces_withReturns pick rest hstarts hstop with ⟨hall, hstarts', hstop'⟩
  exact ⟨_, _, _, hall, hstarts', hstop'⟩

/-- A node that is positioned covers something before and after, or neither. -/
theorem covers_withReturns_iff {source : List Char} {n : Node} (h : n.PositionedIn source) :
    (n.withReturns pick source).startByte ≠ (n.withReturns pick source).stopByte ↔
      n.startByte ≠ n.stopByte := by
  rcases h with ⟨before, piece, rest, rfl, hstarts, hstop⟩
  rcases pieces_withReturns pick rest hstarts hstop with ⟨_, hstarts', hstop'⟩
  rw [hstarts'.startByte, hstop', hstarts.startByte, hstop, Text.size_append, Text.size_append,
    Text.size_withReturns pick _ piece]
  by_cases hpiece : piece = []
  · have hnone : Text.returnsIn pick (before.count '\n') [] = 0 := rfl
    rw [hpiece, hnone]
    simp only [Text.size, Nat.add_zero, ne_eq, not_true_eq_false]
  · have hpos : Text.size piece ≠ 0 := fun hzero => hpiece (Text.eq_nil_of_size hzero)
    omega

end Node

namespace Site

/-- A site is kept in the changed source exactly if it was kept. -/
theorem kept_withReturns_iff {source : List Char} {s : Site} (h : s.node.PositionedIn source) :
    (s.mapNodes (Node.withReturns pick source)).Kept ↔ s.Kept := by
  -- All but the last condition are about parts, and that one is about what the node covers.
  have hpart := Node.keepsPart_withReturns pick source
  have hcovers := Node.covers_withReturns_iff pick h
  have hnode := Site.node_mapNodes (Node.withReturns pick source) s
  constructor
  · rintro ⟨hreached, hfunction, htoken, hpresent, hsome⟩
    rw [hpart.role_mapNodes, hnode, hpart.kind] at htoken
    rw [hnode, hpart.missing] at hpresent
    rw [hnode] at hsome
    exact ⟨(hpart.reached_iff s).mp hreached, (hpart.inFunction_iff s).mp hfunction, htoken,
      hpresent, hcovers.mp hsome⟩
  · rintro ⟨hreached, hfunction, htoken, hpresent, hsome⟩
    refine ⟨(hpart.reached_iff s).mpr hreached, (hpart.inFunction_iff s).mpr hfunction, ?_, ?_, ?_⟩
    · rw [hpart.role_mapNodes, hnode, hpart.kind]
      exact htoken
    · rw [hnode, hpart.missing]
      exact hpresent
    · rw [hnode]
      exact hcovers.mpr hsome

/-- A node without a line feed in it is the same token in both sources. -/
theorem sourceToken_withReturns {s : Site} {before piece : List Char} (rest : List Char)
    (hstarts : s.node.StartsAfter before) (hstop : s.node.stopByte = Text.size (before ++ piece))
    (hfeed : '\n' ∉ piece) :
    (s.mapNodes (Node.withReturns pick (before ++ piece ++ rest))).sourceToken
        (.ofList (Text.withReturns pick 0 (before ++ piece ++ rest)))
      = s.sourceToken (.ofList (before ++ piece ++ rest)) := by
  rcases Node.pieces_withReturns pick rest hstarts hstop with ⟨hall, hstarts', hstop'⟩
  have hnode := Site.node_mapNodes (Node.withReturns pick (before ++ piece ++ rest)) s
  rw [← hnode] at hstarts' hstop'
  rw [hall, sourceToken_of_pieces _ hstarts' hstop', sourceToken_of_pieces rest hstarts hstop,
    Text.withReturns_of_not_mem pick _ hfeed, Text.count_withReturns,
    Text.afterLastFeed_withReturns, hnode, (Node.keepsPart_withReturns pick _).kind]

/-- Nothing is gathered at a node that spans a line feed. -/
theorem cloneToken?_of_feed (policy : ImagePolicy) (name : Path) {source : String} {s : Site}
    {before piece rest : List Char} (hsource : source.toList = before ++ piece ++ rest)
    (hstarts : s.node.StartsAfter before) (hstop : s.node.stopByte = Text.size (before ++ piece))
    (hfeed : '\n' ∈ piece) :
    s.cloneToken? (.ofList source.toList) policy (.ofText name source) = none := by
  have hpositioned : s.node.PositionedIn source.toList :=
    ⟨before, piece, rest, hsource, hstarts, hstop⟩
  have hleaves : ¬ s.node.FitsLine source.toList := by
    rw [hsource, Node.fitsLine_iff rest hstarts.startByte hstop]
    exact fun hfits => hfits.1.1 hfeed
  by_cases hkept : s.Kept
  · exact ((fate_of_kept policy name name hpositioned hkept).2 hleaves).1
  · rw [cloneToken?, if_neg hkept]

/-- What is gathered at a site of the source is gathered at the moved site of the changed one. A
    token that spans a line feed is not the same token, but is refused both times. -/
theorem cloneToken?_withReturns (policy : ImagePolicy) (name : Path) {source : String} {s : Site}
    (hlines : ∀ line ∈ Text.lines source.toList, line.getLast? ≠ some '\r')
    (hpositioned : s.node.PositionedIn source.toList) :
    (s.mapNodes (Node.withReturns pick source.toList)).cloneToken?
        (.ofList (sourceWithReturns pick source).toList) policy
        (.ofText name (sourceWithReturns pick source))
      = s.cloneToken? (.ofList source.toList) policy (.ofText name source) := by
  have hkept := kept_withReturns_iff pick hpositioned
  by_cases hsite : s.Kept
  · rcases hpositioned with ⟨before, piece, rest, hsource, hstarts, hstop⟩
    by_cases hfeed : '\n' ∈ piece
    · -- The text of the token may have changed, and its line feed is still there.
      rcases Node.pieces_withReturns pick rest hstarts hstop with ⟨hall, hstarts', hstop'⟩
      have hfeed' := (Text.feed_mem_withReturns_iff pick (before.count '\n') piece).mpr hfeed
      rw [← hsource, ← node_mapNodes (Node.withReturns pick source.toList) s] at hstarts' hstop'
      rw [← hsource, ← toList_sourceWithReturns] at hall
      rw [cloneToken?_of_feed policy name hsource hstarts hstop hfeed,
        cloneToken?_of_feed policy name hall hstarts' hstop' hfeed']
    · rw [cloneToken?, cloneToken?, if_pos hsite, if_pos (hkept.mpr hsite),
        toList_sourceWithReturns, SourceFile.ofText_sourceWithReturns pick name hlines, hsource,
        sourceToken_withReturns pick rest hstarts hstop hfeed]
  · rw [cloneToken?, cloneToken?, if_neg hsite, if_neg (fun h => hsite (hkept.mp h))]

end Site

/-- A tree that is positioned on a source is positioned on the changed one once its nodes moved. -/
theorem ParsedSource.positionedIn_withReturns {source : String} {parsed : ParsedSource}
    (h : parsed.root.PositionedIn source.toList) :
    (parsed.withReturns pick source).root.PositionedIn (sourceWithReturns pick source).toList := by
  intro moved hmoved
  rw [withReturns, sites_mapNodes] at hmoved
  rcases List.mem_map.mp hmoved with ⟨s, hs, rfl⟩
  rw [Site.node_mapNodes, toList_sourceWithReturns]
  exact Node.positionedIn_withReturns pick (h s hs)

/-- The clone tokens of the moved tree are those of the tree. -/
theorem cloneTokens_withReturns (policy : ImagePolicy) (name : Path) {source : String}
    {parsed : ParsedSource} (hlines : ∀ line ∈ Text.lines source.toList, line.getLast? ≠ some '\r')
    (hpositioned : parsed.root.PositionedIn source.toList) :
    (parsed.withReturns pick source).root.sites.filterMap
        (Site.cloneToken? (.ofList (sourceWithReturns pick source).toList) policy
          (.ofText name (sourceWithReturns pick source)))
      = parsed.root.sites.filterMap
          (Site.cloneToken? (.ofList source.toList) policy (.ofText name source)) := by
  rw [ParsedSource.withReturns, sites_mapNodes, List.filterMap_map]
  exact List.filterMap_congr fun s hs =>
    Site.cloneToken?_withReturns pick policy name hlines (hpositioned s hs)

/-- A source whose lines do not end in carriage returns is given one before any of its line feeds,
    and its tree, which is positioned on it, is moved along. Then the file has the same lines, the
    moved tree is positioned on the changed source, and walking the collector over either of them
    with its own text under analysis hands over the same clone tokens, whatever the policy. -/
theorem saved_tokens_ignore_line_endings {ε : Type} [Receiver ε] (path name : Path)
    (source : String) (parsed : ParsedSource) (context : Context) (c : Collector ε)
    (files : AnalysisSet)
    (hlines : ∀ line ∈ Text.lines source.toList, line.getLast? ≠ some '\r')
    (hpositioned : parsed.root.PositionedIn source.toList)
    (hfile : c.files.find? context.path = some (.ofText name source))
    (hchanged : files.find? context.path = some (.ofText name (sourceWithReturns pick source))) :
    SourceFile.ofText name (sourceWithReturns pick source) = SourceFile.ofText name source ∧
    (parsed.withReturns pick source).root.PositionedIn (sourceWithReturns pick source).toList ∧
    (walk Collector.visitor (TranslationUnit.ofParsed path (sourceWithReturns pick source)
        (parsed.withReturns pick source)) context { c with files := files }).value.state.receiver
      = (walk Collector.visitor (TranslationUnit.ofParsed path source parsed) context
          c).value.state.receiver := by
  have hsame := SourceFile.ofText_sourceWithReturns pick name hlines
  have htokens := cloneTokens_withReturns pick c.policy name hlines hpositioned
  refine ⟨hsame, ParsedSource.positionedIn_withReturns pick hpositioned, ?_⟩
  rw [receiver_of_parsed path source parsed context c _ hfile,
    receiver_of_parsed path (sourceWithReturns pick source) (parsed.withReturns pick source) context
      { c with files := files } _ hchanged, htokens, hsame]

/-- A function over four lines with a string that begins on one line and ends on the next. -/
def feedText : String :=
  "é f\x7b\n s=R\"(a\nb)\";\nx\x7d"

/-- The tree of `feedText`. -/
def feedTree : ParsedSource :=
  ⟨.mk ⟨"translation_unit", true, false, 0, 21, 0, 0, none⟩
    [.mk ⟨"identifier", true, false, 0, 2, 0, 0, none⟩ [],
      .mk ⟨"function_definition", true, false, 3, 21, 0, 3, none⟩
        [.mk ⟨"identifier", true, false, 3, 4, 0, 3, none⟩ [],
          .mk ⟨"\x7b", false, false, 4, 5, 0, 4, none⟩ [],
          .mk ⟨"identifier", true, false, 7, 8, 1, 1, none⟩ [],
          .mk ⟨"=", false, false, 8, 9, 1, 2, none⟩ [],
          .mk ⟨"raw_string_literal", true, false, 9, 17, 1, 3, none⟩ [],
          .mk ⟨";", false, false, 17, 18, 2, 3, none⟩ [],
          .mk ⟨"identifier", true, false, 19, 20, 3, 0, none⟩ [],
          .mk ⟨"\x7d", false, false, 20, 21, 3, 1, none⟩ []]], false⟩

/-- The first two endings of `feedText` become endings of two characters, and the third does not.
    A token ends where the first carriage return is put in, and the string that spans the second
    is saved from neither text. -/
theorem saved_tokens_ignore_line_endings_of_mixed :
    let pick : Nat → Bool := fun n => n != 2
    let changed := "é f\x7b\r\n s=R\"(a\r\nb)\";\nx\x7d"
    let after := (walk Collector.visitor (TranslationUnit.ofParsed ⟨"a.cpp"⟩ changed
      (feedTree.withReturns pick feedText)) (.ofPath ⟨"a.cpp"⟩)
      (Collector.idle ⟨false, true⟩ (AnalysisSet.add .empty (.ofText ⟨"a.cpp"⟩ changed))
        ([] : List (SourceFile × List CloneToken)))).value.state
    sourceWithReturns pick feedText = changed ∧
    (∀ line ∈ Text.lines feedText.toList, line.getLast? ≠ some '\r') ∧
    feedTree.root.PositionedIn feedText.toList ∧
    (feedTree.withReturns pick feedText).root.PositionedIn changed.toList ∧
    after.receiver = [(.ofText ⟨"a.cpp"⟩ feedText,
      [⟨⟨⟨1, 2⟩, ⟨1, 3⟩⟩, "_I"⟩, ⟨⟨⟨1, 3⟩, ⟨1, 4⟩⟩, "\x7b"⟩, ⟨⟨⟨2, 1⟩, ⟨2, 2⟩⟩, "_I"⟩,
        ⟨⟨⟨2, 2⟩, ⟨2, 3⟩⟩, "="⟩, ⟨⟨⟨3, 3⟩, ⟨3, 4⟩⟩, ";"⟩, ⟨⟨⟨4, 0⟩, ⟨4, 1⟩⟩, "_I"⟩,
        ⟨⟨⟨4, 1⟩, ⟨4, 2⟩⟩, "\x7d"⟩])] := by
  intro pick changed after
  have hchanged : sourceWithReturns pick feedText = changed := by decide +kernel
  have hlines : ∀ line ∈ Text.lines feedText.toList, line.getLast? ≠ some '\r' := by
    decide +kernel
  have hpositioned : feedTree.root.PositionedIn feedText.toList := by decide +kernel
  let files : AnalysisSet := AnalysisSet.add .empty (.ofText ⟨"a.cpp"⟩ feedText)
  have hfile : files.find? ⟨"a.cpp"⟩ = some (.ofText ⟨"a.cpp"⟩ feedText) := by decide +kernel
  have hfile' : (AnalysisSet.add .empty (.ofText ⟨"a.cpp"⟩ changed)).find? ⟨"a.cpp"⟩
      = some (.ofText ⟨"a.cpp"⟩ (sourceWithReturns pick feedText)) := by
    decide +kernel
  have htokens : feedTree.root.sites.filterMap (Site.cloneToken? (.ofList feedText.toList)
      ⟨false, true⟩ (.ofText ⟨"a.cpp"⟩ feedText))
      = [⟨⟨⟨1, 2⟩, ⟨1, 3⟩⟩, "_I"⟩, ⟨⟨⟨1, 3⟩, ⟨1, 4⟩⟩, "\x7b"⟩, ⟨⟨⟨2, 1⟩, ⟨2, 2⟩⟩, "_I"⟩,
        ⟨⟨⟨2, 2⟩, ⟨2, 3⟩⟩, "="⟩, ⟨⟨⟨3, 3⟩, ⟨3, 4⟩⟩, ";"⟩, ⟨⟨⟨4, 0⟩, ⟨4, 1⟩⟩, "_I"⟩,
        ⟨⟨⟨4, 1⟩, ⟨4, 2⟩⟩, "\x7d"⟩] := by
    decide +kernel
  rcases saved_tokens_ignore_line_endings pick ⟨"a.cpp"⟩ ⟨"a.cpp"⟩ feedText feedTree
    (.ofPath ⟨"a.cpp"⟩)
    (Collector.idle ⟨false, true⟩ files ([] : List (SourceFile × List CloneToken)))
    (AnalysisSet.add .empty (.ofText ⟨"a.cpp"⟩ changed)) hlines hpositioned hfile hfile' with
    ⟨_, hmoved, hsaved⟩
  rw [hchanged] at hmoved hsaved
  refine ⟨hchanged, hlines, hpositioned, hmoved, hsaved.trans ?_⟩
  rw [receiver_of_parsed _ _ _ _ _ _ hfile]
  exact congrArg (fun tokens => [(SourceFile.ofText ⟨"a.cpp"⟩ feedText, tokens)]) htokens

end CloneScan
