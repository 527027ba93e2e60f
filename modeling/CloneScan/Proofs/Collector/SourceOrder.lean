import CloneScan.Proofs.Collector.Accuracy
import CloneScan.Proofs.Tree.Frontier

/-!
# Clone Tokens Come in the Order of the Source

A detector that reads one list of clone tokens relies on the list running through the file once,
from its start to its end. Two orders have to agree for that. The list is in the preorder of
the tree, and the spans are ordered by line and offset.

The nodes that give clone tokens are on the frontier of the tree, so in a tree that is laid out
their bytes come one node after the other (`pairwise_frontier`). The number of bytes before a
place orders the places of the text (`Text.placeAfter_notAfter`). What joins the two is that
a span does not reach beyond the place where its node ends. It need not reach that place: the
file decides how long a line is, and nothing here asks that it is the file of the same text.

## Main definitions

* `Span.Covers`: A place is one of a span.

## Theorems

* `stop_notAfter_start`: The spans of two nodes are in the order of their bytes.
* `pairwise_cloneTokens`: So are the spans of all clone tokens of a tree.
* `saved_spans_in_source_order`: The list that is handed over runs through the file once.
-/

namespace CloneScan

/-- A place is one of a span: its start or a later one, but before its end. -/
def Span.Covers (s : Span) (p : Position) : Prop :=
  s.start.NotAfter p ∧ p.Before s.stop

/-- A node that is kept is on the frontier, since a token has nothing below it that counts. -/
theorem Site.Kept.onFrontier {s : Site} (h : s.Kept) : s.OnFrontier := by
  refine ⟨h.reached, ?_⟩
  rw [h.isToken]
  rfl

/-- The span of a node that ends before another one starts ends before the other one's starts. -/
theorem stop_notAfter_start {source : List Char} {file : SourceFile} {a b : Site} {s t : Span}
    (ha : a.node.PositionedIn source) (hb : b.node.PositionedIn source)
    (hs : file.tokenSpan (a.sourceToken (.ofList source)) = .ok s)
    (ht : file.tokenSpan (b.sourceToken (.ofList source)) = .ok t)
    (hbytes : a.node.stopByte ≤ b.node.startByte) : s.stop.NotAfter t.start := by
  rcases ha with ⟨before, piece, rest, hsource, hstarts, hstop⟩
  rcases hb with ⟨later, other, final, hagain, hlater, hend⟩
  rw [hsource] at hs
  rw [hagain] at ht
  have hspan := ((tokenSpan_sourceToken_iff rest hstarts hstop).mp hs).2.2.2
  have hnext := ((tokenSpan_sourceToken_iff final hlater hend).mp ht).2.2.2
  -- What leads to the end of the first node is a part of what leads to the second one.
  have hpart : before ++ piece <+: later := by
    refine Text.prefix_of_size_le ⟨rest, hsource.symm⟩
      ⟨other ++ final, by rw [hagain, List.append_assoc]⟩ ?_
    rw [← hstop, ← hlater.startByte]
    exact hbytes
  rw [hspan, hnext]
  exact (Text.stop_spanAfter_notAfter before piece).trans (Text.placeAfter_notAfter hpart)

/-- Of two clone tokens of a tree, the first ends before the second starts or where it does. -/
theorem pairwise_cloneTokens {source : List Char} {root : SyntaxTree} (policy : ImagePolicy)
    (file : SourceFile) (hpositioned : root.PositionedIn source) (hlaid : root.LaidOut) :
    (root.sites.filterMap (Site.cloneToken? (.ofList source) policy file)).Pairwise
      fun first second => first.span.stop.NotAfter second.span.start := by
  rw [List.pairwise_filterMap]
  refine (pairwise_frontier [] root hlaid).imp_of_mem ?_
  intro a b ha hb hbytes k hk l hl
  rcases cloneToken?_eq_some_iff.mp hk with ⟨hfirst, hs, _⟩
  rcases cloneToken?_eq_some_iff.mp hl with ⟨hsecond, ht, _⟩
  exact stop_notAfter_start (hpositioned a ha) (hpositioned b hb) hs ht
    (hbytes hfirst.onFrontier hsecond.onFrontier)

/-- Walking the collector over a source parsed into a tree that is positioned on it and laid out
    saves clone tokens in the order of the source, whatever file is under analysis at the
    path. Each ends before the next one starts or where it does, so the starts increase
    strictly and no place is covered twice. -/
theorem saved_spans_in_source_order {ε : Type} [Receiver ε] (path : Path) (source : String)
    (parsed : ParsedSource) (context : Context) (c : Collector ε) (file : SourceFile)
    (hfile : c.files.find? context.path = some file)
    (hpositioned : parsed.root.PositionedIn source.toList) (hlaid : parsed.root.LaidOut) :
    let tokens := parsed.root.sites.filterMap
      (Site.cloneToken? (.ofList source.toList) c.policy file)
    (walk Collector.visitor (TranslationUnit.ofParsed path source parsed) context
        c).value.state.receiver = (Receiver.save file tokens c.receiver).value ∧
    (tokens.Pairwise fun first second => first.span.stop.NotAfter second.span.start) ∧
    (tokens.Pairwise fun first second => first.span.start.Before second.span.start) ∧
    tokens.Pairwise fun first second => ∀ p, ¬ (first.span.Covers p ∧ second.span.Covers p) := by
  intro tokens
  have hends := pairwise_cloneTokens c.policy file hpositioned hlaid
  refine ⟨receiver_of_parsed path source parsed context c file hfile, hends, ?_, ?_⟩
  · refine hends.imp_of_mem ?_
    intro first second hfirst _ hstop
    rcases List.mem_filterMap.mp hfirst with ⟨s, _, hs⟩
    exact (SourceFile.before_of_tokenSpan (cloneToken?_eq_some_iff.mp hs).2.1).trans_notAfter hstop
  · refine hends.imp ?_
    -- A place of the second is not before the first one ends.
    rintro first second hstop p ⟨hfirst, hsecond⟩
    exact Position.not_before_of_notAfter (hstop.trans hsecond.1) hfirst.2

/-- The tree of `nestedFunctions` is laid out, and the three names in its functions come in the
    order they stand in, on two lines. -/
theorem saved_spans_in_source_order_of_nested :
    nestedAnalysis.find? ⟨"a.cpp"⟩ = some (.ofText ⟨"a.cpp"⟩ nestedText) ∧
    nestedFunctions.root.PositionedIn nestedText.toList ∧ nestedFunctions.root.LaidOut ∧
    (walk Collector.visitor (TranslationUnit.ofParsed ⟨"a.cpp"⟩ nestedText nestedFunctions)
        (.ofPath ⟨"a.cpp"⟩)
        (Collector.idle .exact nestedAnalysis
          ([] : List (SourceFile × List CloneToken)))).value.state.receiver
      = [(.ofText ⟨"a.cpp"⟩ nestedText,
          [⟨⟨⟨1, 2⟩, ⟨1, 3⟩⟩, "f"⟩, ⟨⟨⟨2, 1⟩, ⟨2, 2⟩⟩, "é"⟩, ⟨⟨⟨2, 3⟩, ⟨2, 4⟩⟩, "g"⟩])] ∧
    ([⟨⟨⟨1, 2⟩, ⟨1, 3⟩⟩, "f"⟩, ⟨⟨⟨2, 1⟩, ⟨2, 2⟩⟩, "é"⟩, ⟨⟨⟨2, 3⟩, ⟨2, 4⟩⟩, "g"⟩] :
      List CloneToken).Pairwise fun first second => first.span.start.Before second.span.start := by
  have hlaid : nestedFunctions.root.LaidOut := by
    decide +kernel
  rcases saved_spans_in_source_order ⟨"a.cpp"⟩ nestedText nestedFunctions (.ofPath ⟨"a.cpp"⟩)
    (Collector.idle .exact nestedAnalysis ([] : List (SourceFile × List CloneToken)))
    (.ofText ⟨"a.cpp"⟩ nestedText) find?_nestedAnalysis positionedIn_nested hlaid
    with ⟨hsaved, _, hstarts, _⟩
  refine ⟨find?_nestedAnalysis, positionedIn_nested, hlaid, ?_, cloneTokens_of_nested ▸ hstarts⟩
  rw [hsaved]
  exact congrArg (fun tokens => [(SourceFile.ofText ⟨"a.cpp"⟩ nestedText, tokens)])
    cloneTokens_of_nested

end CloneScan
