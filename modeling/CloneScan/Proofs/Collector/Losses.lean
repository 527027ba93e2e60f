import CloneScan.Proofs.Collector.Accuracy

/-!
# What the Collector Leaves Out

A span stands on one line: the collector gives a token its length on the line that it starts on,
and the file refuses what does not fit there. A token can leave its line although its place is
right. There may be a line feed in it, as in a raw string or in what ends a conditional
directive. Or the token ends in the carriage return that ends its line, which does not count.
Such a token is not saved, and there is a remark about it instead.

These are the only losses. If the tree is positioned on the very text that is under analysis,
every node that is kept and fits its line is saved, every other one that is kept is remarked on,
and there are no further remarks (`losses_of_parsed`). The condition is exact in both
directions, so a tree whose tokens all fit their lines is gathered without a remark.

## Main definitions

* `Node.FitsLine`: A node covers a piece of text that ends before what ends its line.
* `Site.note?`: The remark about the node at a site.

## Theorems

* `Node.fitsLine_iff`: The offsets of a node say which piece that is.
* `tokenSpan_iff_fitsLine`: A node has a span exactly if it fits its line.
* `fate_of_kept`: A node that is kept is saved or remarked on, by whether it fits its line.
* `notes_of_parsed`: The remarks about a parsed source are those of its sites.
* `losses_of_parsed`: What is saved and what is remarked on.
* `raw_string_over_lines_is_lost`: A string over two lines is not saved.
-/

namespace CloneScan

/-- A node covers a piece of the text that ends before what ends the line it starts on, and a
    word holds the place where it ends. -/
def Node.FitsLine (source : List Char) (n : Node) : Prop :=
  ∃ before piece rest, source = before ++ piece ++ rest ∧ n.startByte = Text.size before ∧
    n.stopByte = Text.size (before ++ piece) ∧ Text.StaysInLine piece rest ∧
    (Text.afterLastFeed before).length + piece.length < wordLimit

/-- The offsets of a node say which piece that is. -/
theorem Node.fitsLine_iff {n : Node} {before piece : List Char} (rest : List Char)
    (hstart : n.startByte = Text.size before) (hstop : n.stopByte = Text.size (before ++ piece)) :
    n.FitsLine (before ++ piece ++ rest) ↔
      Text.StaysInLine piece rest ∧
        (Text.afterLastFeed before).length + piece.length < wordLimit := by
  constructor
  · rintro ⟨first, middle, last, hsame, hfirst, hmiddle, hfits⟩
    rcases Text.cut_unique hsame (hstop.symm.trans hmiddle) with ⟨hpart, rfl⟩
    rcases Text.cut_unique hpart (hstart.symm.trans hfirst) with ⟨rfl, rfl⟩
    exact hfits
  · intro hfits
    exact ⟨before, piece, rest, rfl, hstart, hstop, hfits⟩

/-- The remark the collector leaves about a site: one for every node that is kept, if its span
    does not lie in the file. -/
def Site.note? (source : ByteIndex) (policy : ImagePolicy) (file : SourceFile) (path : Path)
    (s : Site) : Option Note :=
  if s.Kept then noteOf? policy file path (s.sourceToken source) else none

/-- A node that is positioned and covers something has a span in the file of its text exactly if
    it fits its line. -/
theorem tokenSpan_iff_fitsLine (name : Path) {source : String} {s : Site}
    (hpositioned : s.node.PositionedIn source.toList)
    (hcovers : s.node.startByte ≠ s.node.stopByte) :
    (∃ span, (SourceFile.ofText name source).tokenSpan
        (s.sourceToken (.ofList source.toList)) = .ok span) ↔
      s.node.FitsLine source.toList := by
  rcases hpositioned with ⟨before, piece, rest, hsource, hstarts, hstop⟩
  have hpiece : piece ≠ [] := by
    rintro rfl
    rw [hstarts.startByte, hstop, List.append_nil] at hcovers
    exact hcovers rfl
  have hline := lineLength_of_pieces name hsource
  rw [hsource, Node.fitsLine_iff rest hstarts.startByte hstop]
  constructor
  · rintro ⟨span, hspan⟩
    rcases (tokenSpan_sourceToken_iff rest hstarts hstop).mp hspan with
      ⟨_, ⟨length, hlength, hfits⟩, hnumbered, _⟩
    rw [hline, Option.some.injEq] at hlength
    rw [← hlength, Text.fits_iff before rest hpiece] at hfits
    exact ⟨hfits, hnumbered⟩
  · rintro ⟨hstays, hnumbered⟩
    have hfits := (Text.fits_iff before rest hpiece).mpr hstays
    exact ⟨_, (tokenSpan_sourceToken_iff rest hstarts hstop).mpr
      ⟨List.length_pos_of_ne_nil hpiece, ⟨_, hline, hfits⟩, hnumbered, rfl⟩⟩

/-- A node that is kept is saved if it fits its line, and there is nothing to remark on. If it does
    not, it is not saved, and the remark names its place. -/
theorem fate_of_kept (policy : ImagePolicy) (name path : Path) {source : String} {s : Site}
    (hpositioned : s.node.PositionedIn source.toList) (hkept : s.Kept) :
    (s.node.FitsLine source.toList →
      (∃ k, s.cloneToken? (.ofList source.toList) policy (.ofText name source) = some k) ∧
      s.note? (.ofList source.toList) policy (.ofText name source) path = none) ∧
    (¬ s.node.FitsLine source.toList →
      s.cloneToken? (.ofList source.toList) policy (.ofText name source) = none ∧
      ∃ cause : SpanError, s.note? (.ofList source.toList) policy (.ofText name source) path
        = some ⟨s!"CPD token dropped: {cause.message}", path,
            (placeOf (.ofList source.toList) s.node).1,
            (placeOf (.ofList source.toList) s.node).2⟩) := by
  rw [← tokenSpan_iff_fitsLine name hpositioned hkept.covers, Site.cloneToken?, Site.note?,
    if_pos hkept, if_pos hkept]
  rcases cloneTokenOf?_or_noteOf? policy (.ofText name source) path
      (isCode_sourceToken (.ofList source.toList) s) with
    ⟨span, image, hspan, _, hsaved, hnone⟩ | ⟨cause, hrefused, hnone, hnote⟩
  · exact ⟨fun _ => ⟨⟨_, hsaved⟩, hnone⟩, fun hnot => absurd ⟨span, hspan⟩ hnot⟩
  · refine ⟨?_, fun _ => ⟨hnone, cause, hnote⟩⟩
    rintro ⟨span, hspan⟩
    rw [hrefused] at hspan
    exact absurd hspan (by simp only [reduceCtorEq, not_false_eq_true])

/-- The remarks about a parsed source whose file is under analysis: those of its sites, in
    preorder. -/
theorem notes_of_parsed {ε : Type} [Receiver ε] (path : Path) (source : String)
    (parsed : ParsedSource) (context : Context) (c : Collector ε) (file : SourceFile)
    (hfile : c.files.find? context.path = some file) :
    (walk Collector.visitor (TranslationUnit.ofParsed path source parsed) context
        c).value.state.channel
      = c.channel.keep (parsed.root.sites.filterMap
          (Site.note? (.ofList source.toList) c.policy file context.path)) := by
  have hnotes := filterMap_tokensInside_of_parsed path source parsed
    (noteOf? c.policy file context.path)
    (fun _ h => noteOf?_of_not_code c.policy file context.path h)
  rw [Collector.walk_value]
  simp only [Collector.notes_opened, hfile, hnotes]
  rfl

/-- Walking the collector over a source parsed into a tree that is positioned on it, with the same
    text under analysis, saves the clone tokens of the sites and leaves their remarks. Of the
    nodes that are kept, those that fit their line are saved, and each of the others is
    remarked on with its place. If all of them fit, there is no remark. -/
theorem losses_of_parsed {ε : Type} [Receiver ε] (path name : Path) (source : String)
    (parsed : ParsedSource) (context : Context) (c : Collector ε)
    (hfile : c.files.find? context.path = some (.ofText name source))
    (hpositioned : parsed.root.PositionedIn source.toList) :
    let text := ByteIndex.ofList source.toList
    let file := SourceFile.ofText name source
    let after := (walk Collector.visitor (TranslationUnit.ofParsed path source parsed) context
      c).value.state
    after.receiver = (Receiver.save file
      (parsed.root.sites.filterMap (Site.cloneToken? text c.policy file)) c.receiver).value ∧
    after.channel = c.channel.keep
      (parsed.root.sites.filterMap (Site.note? text c.policy file context.path)) ∧
    (∀ s ∈ parsed.root.sites, s.Kept →
      (s.node.FitsLine source.toList →
        (∃ k, s.cloneToken? text c.policy file = some k) ∧
        s.note? text c.policy file context.path = none) ∧
      (¬ s.node.FitsLine source.toList →
        s.cloneToken? text c.policy file = none ∧
        ∃ cause : SpanError, s.note? text c.policy file context.path
          = some ⟨s!"CPD token dropped: {cause.message}", context.path,
              (placeOf text s.node).1, (placeOf text s.node).2⟩)) ∧
    ((∀ s ∈ parsed.root.sites, s.Kept → s.node.FitsLine source.toList) →
      after.channel = c.channel) := by
  intro text file after
  have hsaved := receiver_of_parsed path source parsed context c _ hfile
  have hnoted := notes_of_parsed path source parsed context c _ hfile
  have hfate := fun s (hs : s ∈ parsed.root.sites) (hkept : s.Kept) =>
    fate_of_kept c.policy name context.path (hpositioned s hs) hkept
  refine ⟨hsaved, hnoted, hfate, fun hall => ?_⟩
  -- A site without a remark is one that is not kept, or that fits its line.
  have hnone : parsed.root.sites.filterMap (Site.note? text c.policy file context.path) = [] := by
    rw [List.filterMap_eq_nil_iff]
    intro s hs
    by_cases hkept : s.Kept
    · exact ((hfate s hs hkept).1 (hall s hs hkept)).2
    · rw [Site.note?, if_neg hkept]
  have hchannel : after.channel = c.channel.keep [] := hnone ▸ hnoted
  rw [hchannel, NoteChannel.keep_nil]

/-- The three names in the functions of `nestedFunctions` fit their lines, so all are saved and
    there is no remark. -/
theorem losses_of_parsed_of_nested :
    let after := (walk Collector.visitor
      (TranslationUnit.ofParsed ⟨"a.cpp"⟩ nestedText nestedFunctions) (.ofPath ⟨"a.cpp"⟩)
      { Collector.idle .exact nestedAnalysis ([] : List (SourceFile × List CloneToken)) with
        channel := .kept [] }).value.state
    nestedAnalysis.find? ⟨"a.cpp"⟩ = some (.ofText ⟨"a.cpp"⟩ nestedText) ∧
    nestedFunctions.root.PositionedIn nestedText.toList ∧
    after.receiver = [(.ofText ⟨"a.cpp"⟩ nestedText,
      [⟨⟨⟨1, 2⟩, ⟨1, 3⟩⟩, "f"⟩, ⟨⟨⟨2, 1⟩, ⟨2, 2⟩⟩, "é"⟩, ⟨⟨⟨2, 3⟩, ⟨2, 4⟩⟩, "g"⟩])] ∧
    after.channel = .kept [] := by
  intro after
  have hall : ∀ s ∈ nestedFunctions.root.sites, s.Kept → (s.cloneToken?
      (.ofList nestedText.toList) .exact (.ofText ⟨"a.cpp"⟩ nestedText)).isSome = true := by
    decide +kernel
  rcases losses_of_parsed ⟨"a.cpp"⟩ ⟨"a.cpp"⟩ nestedText nestedFunctions (.ofPath ⟨"a.cpp"⟩)
    { Collector.idle .exact nestedAnalysis ([] : List (SourceFile × List CloneToken)) with
      channel := .kept [] } find?_nestedAnalysis positionedIn_nested with ⟨hsaved, _, _, hquiet⟩
  refine ⟨find?_nestedAnalysis, positionedIn_nested, ?_, hquiet fun s hs hkept => ?_⟩
  · exact hsaved.trans
      (congrArg (fun tokens => [(SourceFile.ofText ⟨"a.cpp"⟩ nestedText, tokens)])
        cloneTokens_of_nested)
  · -- What was saved has a span, and what has one fits its line.
    rcases Option.isSome_iff_exists.mp (hall s hs hkept) with ⟨k, hk⟩
    exact (tokenSpan_iff_fitsLine _ (positionedIn_nested s hs) hkept.covers).mp
      ⟨k.span, (cloneToken?_eq_some_iff.mp hk).2.1⟩

/-- A function with a string that begins on one line and ends on the next. -/
def twoLineText : String :=
  "/* é */ void\tf()\t\x7b\tauto\ts\t=\tR\"(a\nb)\";\tx;\t\x7d"

/-- The tree of `twoLineText`. -/
def twoLineString : ParsedSource :=
  ⟨.mk ⟨"translation_unit", true, false, 0, 43, 0, 0, none⟩
    [.mk ⟨"comment", true, false, 0, 8, 0, 0, none⟩ [],
      .mk ⟨"function_definition", true, false, 9, 43, 0, 9, none⟩
        [.mk ⟨"primitive_type", true, false, 9, 13, 0, 9, some "type"⟩ [],
          .mk ⟨"function_declarator", true, false, 14, 17, 0, 14, some "declarator"⟩
            [.mk ⟨"identifier", true, false, 14, 15, 0, 14, some "declarator"⟩ [],
              .mk ⟨"parameter_list", true, false, 15, 17, 0, 15, some "parameters"⟩
                [.mk ⟨"(", false, false, 15, 16, 0, 15, none⟩ [],
                  .mk ⟨")", false, false, 16, 17, 0, 16, none⟩ []]],
          .mk ⟨"compound_statement", true, false, 18, 43, 0, 18, some "body"⟩
            [.mk ⟨"\x7b", false, false, 18, 19, 0, 18, none⟩ [],
              .mk ⟨"declaration", true, false, 20, 38, 0, 20, none⟩
                [.mk ⟨"placeholder_type_specifier", true, false, 20, 24, 0, 20, some "type"⟩
                    [.mk ⟨"auto", true, false, 20, 24, 0, 20, none⟩ []],
                  .mk ⟨"init_declarator", true, false, 25, 37, 0, 25, some "declarator"⟩
                    [.mk ⟨"identifier", true, false, 25, 26, 0, 25, some "declarator"⟩ [],
                      .mk ⟨"=", false, false, 27, 28, 0, 27, none⟩ [],
                      .mk ⟨"raw_string_literal", true, false, 29, 37, 0, 29, some "value"⟩
                        [.mk ⟨"R\"", false, false, 29, 31, 0, 29, none⟩ [],
                          .mk ⟨"(", false, false, 31, 32, 0, 31, none⟩ [],
                          .mk ⟨"raw_string_content", true, false, 32, 35, 0, 32, none⟩ [],
                          .mk ⟨")", false, false, 35, 36, 1, 1, none⟩ [],
                          .mk ⟨"\"", false, false, 36, 37, 1, 2, none⟩ []]],
                  .mk ⟨";", false, false, 37, 38, 1, 3, none⟩ []],
              .mk ⟨"expression_statement", true, false, 39, 41, 1, 5, none⟩
                [.mk ⟨"identifier", true, false, 39, 40, 1, 5, none⟩ [],
                  .mk ⟨";", false, false, 40, 41, 1, 6, none⟩ []],
              .mk ⟨"\x7d", false, false, 42, 43, 1, 8, none⟩ []]]], false⟩

/-- The file of `twoLineText`, under analysis alone. -/
def twoLineAnalysis : AnalysisSet :=
  AnalysisSet.add .empty (.ofText ⟨"a.cpp"⟩ twoLineText)

/-- Its tree is positioned, and the string is a token of it that is kept. But the length of the
    string leads beyond its first line, so it is not saved, and that is remarked on. -/
theorem raw_string_over_lines_is_lost :
    twoLineAnalysis.find? ⟨"a.cpp"⟩ = some (.ofText ⟨"a.cpp"⟩ twoLineText) ∧
    twoLineString.root.PositionedIn twoLineText.toList ∧
    (∃ s ∈ twoLineString.root.sites, s.Kept ∧ s.node.kind = "raw_string_literal" ∧
      s.cloneToken? (.ofList twoLineText.toList) .exact (.ofText ⟨"a.cpp"⟩ twoLineText) = none) ∧
    (walk Collector.visitor (TranslationUnit.ofParsed ⟨"a.cpp"⟩ twoLineText twoLineString)
        (.ofPath ⟨"a.cpp"⟩)
        { Collector.idle .exact twoLineAnalysis ([] : List (SourceFile × List CloneToken)) with
          channel := .kept [] }).value.state.channel
      = .kept [⟨"CPD token dropped: offset 36 is beyond the end of line 1 (length 32)",
          ⟨"a.cpp"⟩, 1, 29⟩] := by
  have hfile : twoLineAnalysis.find? ⟨"a.cpp"⟩ = some (.ofText ⟨"a.cpp"⟩ twoLineText) := by
    decide +kernel
  have hnotes : twoLineString.root.sites.filterMap
      (Site.note? (.ofList twoLineText.toList) .exact (.ofText ⟨"a.cpp"⟩ twoLineText) ⟨"a.cpp"⟩)
      = [⟨"CPD token dropped: offset 36 is beyond the end of line 1 (length 32)",
          ⟨"a.cpp"⟩, 1, 29⟩] := by
    decide +kernel
  refine ⟨hfile, by decide +kernel, by decide +kernel, ?_⟩
  exact (notes_of_parsed _ _ _ _ _ _ hfile).trans
    (congrArg (fun notes => NoteChannel.keep (.kept []) notes) hnotes)

end CloneScan
