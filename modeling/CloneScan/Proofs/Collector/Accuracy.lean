import CloneScan.Proofs.Collector.Harvest
import CloneScan.Proofs.File.TokenSpan
import CloneScan.Proofs.Text.Places
import CloneScan.Proofs.Tree.Placement

/-!
# Spans Show What They Are of

A span counts characters of a line, a node counts bytes of the file, and between them stand
three computations that know nothing of each other. The place of a token is made by cutting
the text at the last line feed; the file measures its lines, less a carriage return at their
end; the span adds the length of the token to where it starts. They have to mean the same by
a column.

`Span.Shows` says what a reader of a report would check: look the line up in the text, cut it
at the two offsets, and the source text of the node is there. That the token does not reach
beyond its line is the file's own condition, and it is what rules out a token with a line feed
in it. The length that the file knows may be one short of the line, which only makes the
condition stricter.

## Main definitions

* `Span.Shows`: The characters of a span are a given text.
* `SyntaxTree.harvest`: The clone tokens of a tree, each with its site.

## Theorems

* `sourceToken_of_pieces`: The token a node is, by the piece it covers.
* `tokenSpan_sourceToken_iff`: When a node has a span in a file, and which.
* `shows_of_reach`: What a span within its line shows.
* `mem_harvest`: What the clone tokens of a tree are.
* `shows_of_cloneToken?`: The span of a clone token shows the text of its node.
* `saved_spans_show_source`: So it is for everything that is handed over.
-/

namespace CloneScan

/-- A span lies on one line of a source, and its characters there are the given ones. -/
def Span.Shows (source piece : List Char) (s : Span) : Prop :=
  ∃ line, (Text.lines source)[s.start.line - 1]? = some line ∧ 0 < s.start.line ∧
    s.stop.line = s.start.line ∧ s.stop.offset ≤ line.length ∧
    (line.take s.stop.offset).drop s.start.offset = piece

/-- The token that a node is, by the piece of text it covers and what stands before. -/
theorem sourceToken_of_pieces {s : Site} {before piece : List Char} (rest : List Char)
    (hstarts : s.node.StartsAfter before) (hstop : s.node.stopByte = Text.size (before ++ piece)) :
    s.sourceToken (.ofList (before ++ piece ++ rest))
      = ⟨TokenKind.ofNode s.node.kind, String.ofList piece, before.count '\n' + 1,
          (Text.afterLastFeed before).length + 1, false⟩ := by
  have hplace := placeOf_of_startsAfter (piece ++ rest) hstarts
  rw [← List.append_assoc] at hplace
  rw [Site.sourceToken, hplace, textOf_of_pieces rest hstarts.startByte hstop]

/-- The span of a node is counted from where its piece of text starts, on the line the piece
    starts on. It has one if there is something of the piece, if the file knows a line that
    reaches as far as the count does, and if the count has a number. -/
theorem tokenSpan_sourceToken_iff {file : SourceFile} {s : Site} {before piece : List Char}
    {span : Span} (rest : List Char) (hstarts : s.node.StartsAfter before)
    (hstop : s.node.stopByte = Text.size (before ++ piece)) :
    file.tokenSpan (s.sourceToken (.ofList (before ++ piece ++ rest))) = .ok span ↔
      0 < piece.length ∧
        (∃ length, file.lineLength (before.count '\n' + 1) = some length ∧
          (Text.afterLastFeed before).length + piece.length ≤ length) ∧
        (Text.afterLastFeed before).length + piece.length < wordLimit ∧
        span = Text.spanAfter before piece := by
  rw [sourceToken_of_pieces rest hstarts hstop, SourceFile.tokenSpan_eq_ok_iff]
  constructor
  · rintro ⟨offset, ⟨hcolumn, hcovers, hfits, hnumbered⟩, hspan⟩
    -- The offset that holds the token is the number of characters before it on its line.
    have hoffset : (Text.afterLastFeed before).length = offset := Nat.succ.inj hcolumn
    subst hoffset
    simp only [Token.charLength, String.length_ofList] at hcovers hfits hnumbered hspan
    exact ⟨hcovers, hfits, hnumbered, hspan⟩
  · rintro ⟨hcovers, hfits, hnumbered, hspan⟩
    have hlength : piece.length = (String.ofList piece).length := String.length_ofList.symm
    rw [Text.spanAfter, hlength] at hspan
    rw [hlength] at hcovers hfits hnumbered
    exact ⟨(Text.afterLastFeed before).length, ⟨rfl, hcovers, hfits, hnumbered⟩, hspan⟩

/-- A piece of text that is not longer than what is left of its line is what the span from its
    first character up to its length shows. -/
theorem shows_of_reach (before piece rest : List Char)
    (h : (Text.afterLastFeed before).length + piece.length
      ≤ (Text.afterLastFeed before ++ (piece ++ rest).takeWhile (· ≠ '\n')).length) :
    Span.Shows (before ++ piece ++ rest) piece (Text.spanAfter before piece) := by
  have hline := Text.getElem_lines before (piece ++ rest)
  rw [← List.append_assoc] at hline
  exact ⟨_, hline, Nat.succ_pos _, rfl, h, Text.cut_line before piece rest h⟩

/-- The file knows the line that a piece starts on without its carriage return. -/
theorem lineLength_of_pieces (name : Path) {source : String} {before piece rest : List Char}
    (hsource : source.toList = before ++ piece ++ rest) :
    (SourceFile.ofText name source).lineLength (before.count '\n' + 1)
      = some (Text.withoutReturn
          (Text.afterLastFeed before ++ (piece ++ rest).takeWhile (· ≠ '\n'))).length := by
  rw [SourceFile.lineLength_ofText, hsource, List.append_assoc, Text.getElem_lines,
    Option.map_some]

theorem shows_of_cloneToken? {source : String} {policy : ImagePolicy} {name : Path} {s : Site}
    {k : CloneToken} (hpositioned : s.node.PositionedIn source.toList)
    (h : s.cloneToken? (.ofList source.toList) policy (.ofText name source) = some k) :
    ∃ piece, Text.slice source.toList s.node.startByte s.node.stopByte = some piece ∧
      k.span.Shows source.toList piece := by
  rcases hpositioned with ⟨before, piece, rest, hsource, hstarts, hstop⟩
  have hspan := (cloneToken?_eq_some_iff.mp h).2.1
  rw [hsource, tokenSpan_sourceToken_iff rest hstarts hstop] at hspan
  rcases hspan with ⟨_, ⟨length, hlength, hfits⟩, _, hk⟩
  refine ⟨piece, ?_, ?_⟩
  · rw [hsource, hstarts.startByte, hstop, Text.slice_middle]
  · -- The line reaches at least as far as the file knows it.
    rw [lineLength_of_pieces name hsource, Option.some.injEq] at hlength
    have hcut := Text.length_withoutReturn_le
      (Text.afterLastFeed before ++ (piece ++ rest).takeWhile (· ≠ '\n'))
    rw [hsource, hk]
    exact shows_of_reach before piece rest (by omega)

/-- The clone tokens of a tree in preorder, each with the site it is of. -/
def SyntaxTree.harvest (source : ByteIndex) (policy : ImagePolicy) (file : SourceFile)
    (t : SyntaxTree) : List (Site × CloneToken) :=
  t.sites.filterMap fun s => (s.cloneToken? source policy file).map fun k => (s, k)

theorem map_harvest (source : ByteIndex) (policy : ImagePolicy) (file : SourceFile)
    (t : SyntaxTree) :
    (t.harvest source policy file).map Prod.snd
      = t.sites.filterMap (Site.cloneToken? source policy file) := by
  simp only [SyntaxTree.harvest, List.map_filterMap, Option.map_map, Function.comp_def,
    Option.map_id']

/-- They are the sites of the tree that give a clone token, with what they give. -/
theorem mem_harvest {source : ByteIndex} {policy : ImagePolicy} {file : SourceFile}
    {t : SyntaxTree} {s : Site} {k : CloneToken} :
    (s, k) ∈ t.harvest source policy file ↔
      s ∈ t.sites ∧ s.cloneToken? source policy file = some k := by
  rw [SyntaxTree.harvest, List.mem_filterMap]
  constructor
  · rintro ⟨other, hmem, hother⟩
    rcases Option.map_eq_some_iff.mp hother with ⟨token, htoken, hpair⟩
    rw [Prod.mk.injEq] at hpair
    rw [← hpair.1, ← hpair.2]
    exact ⟨hmem, htoken⟩
  · rintro ⟨hmem, hk⟩
    exact ⟨s, hmem, by rw [hk, Option.map_some]⟩

/-- Walking the collector over a source parsed into a tree that is positioned on it, with the same
    text under analysis, saves one clone token for each site of a list. On the line that the
    span of the clone token names, the characters from its first offset up to its second are
    the source text of the node at the site. The image has no part in it. -/
theorem saved_spans_show_source {ε : Type} [Receiver ε] (path name : Path) (source : String)
    (parsed : ParsedSource) (context : Context) (c : Collector ε)
    (hfile : c.files.find? context.path = some (.ofText name source))
    (hpositioned : parsed.root.PositionedIn source.toList) :
    (walk Collector.visitor (TranslationUnit.ofParsed path source parsed) context
        c).value.state.receiver
      = (Receiver.save (.ofText name source)
          ((parsed.root.harvest (.ofList source.toList) c.policy (.ofText name source)).map
            Prod.snd) c.receiver).value ∧
    ∀ (s : Site) (k : CloneToken),
      (s, k) ∈ parsed.root.harvest (.ofList source.toList) c.policy (.ofText name source) →
        s ∈ parsed.root.sites ∧
        ∃ piece, Text.slice source.toList s.node.startByte s.node.stopByte = some piece ∧
          k.span.Shows source.toList piece := by
  constructor
  · rw [map_harvest]
    exact receiver_of_parsed path source parsed context c _ hfile
  · intro s k hsk
    rcases mem_harvest.mp hsk with ⟨hmem, hk⟩
    exact ⟨hmem, shows_of_cloneToken? (hpositioned s hmem) hk⟩

theorem positionedIn_nested : nestedFunctions.root.PositionedIn nestedText.toList := by
  decide +kernel

/-- The name in the outer function of `nestedFunctions` is a letter of two bytes after a line
    ending of two characters. Its span shows it, and its image does not name it. -/
theorem saved_spans_show_source_of_nested :
    nestedAnalysis.find? ⟨"a.cpp"⟩ = some (.ofText ⟨"a.cpp"⟩ nestedText) ∧
    nestedFunctions.root.PositionedIn nestedText.toList ∧
    (walk Collector.visitor (TranslationUnit.ofParsed ⟨"a.cpp"⟩ nestedText nestedFunctions)
        (.ofPath ⟨"a.cpp"⟩)
        (Collector.idle ⟨false, true⟩ nestedAnalysis
          ([] : List (SourceFile × List CloneToken)))).value.state.receiver
      = [(.ofText ⟨"a.cpp"⟩ nestedText,
          [⟨⟨⟨1, 2⟩, ⟨1, 3⟩⟩, "_I"⟩, ⟨⟨⟨2, 1⟩, ⟨2, 2⟩⟩, "_I"⟩, ⟨⟨⟨2, 3⟩, ⟨2, 4⟩⟩, "_I"⟩])] ∧
    Span.Shows nestedText.toList ['é'] ⟨⟨2, 1⟩, ⟨2, 2⟩⟩ := by
  rcases saved_spans_show_source ⟨"a.cpp"⟩ ⟨"a.cpp"⟩ nestedText nestedFunctions (.ofPath ⟨"a.cpp"⟩)
    (Collector.idle ⟨false, true⟩ nestedAnalysis ([] : List (SourceFile × List CloneToken)))
    find?_nestedAnalysis positionedIn_nested with ⟨hsaved, hshown⟩
  refine ⟨find?_nestedAnalysis, positionedIn_nested, ?_, ?_⟩
  · have htokens : (nestedFunctions.root.harvest (.ofList nestedText.toList) ⟨false, true⟩
        (.ofText ⟨"a.cpp"⟩ nestedText)).map Prod.snd
        = [⟨⟨⟨1, 2⟩, ⟨1, 3⟩⟩, "_I"⟩, ⟨⟨⟨2, 1⟩, ⟨2, 2⟩⟩, "_I"⟩, ⟨⟨⟨2, 3⟩, ⟨2, 4⟩⟩, "_I"⟩] := by
      decide +kernel
    rw [hsaved]
    exact congrArg (fun tokens => [(SourceFile.ofText ⟨"a.cpp"⟩ nestedText, tokens)]) htokens
  · have hmem : nestedFunctions.root.sites[4] ∈ nestedFunctions.root.sites :=
      List.getElem_mem _
    have htoken : nestedFunctions.root.sites[4].cloneToken? (.ofList nestedText.toList)
        ⟨false, true⟩ (.ofText ⟨"a.cpp"⟩ nestedText) = some ⟨⟨⟨2, 1⟩, ⟨2, 2⟩⟩, "_I"⟩ := by
      decide +kernel
    rcases hshown _ _ (mem_harvest.mpr ⟨hmem, htoken⟩) with ⟨_, piece, hpiece, hshows⟩
    have hletter : piece = ['é'] := Option.some.inj (hpiece.symm.trans (by decide +kernel))
    exact hletter ▸ hshows

end CloneScan
