import CloneScan.Proofs.Collector.Run
import CloneScan.Proofs.Tree.Sites

/-!
# What the Collector Gathers from a Parsed Source

A syntax tree is read into events, and the collector is walked over them. Here the two halves
meet: what the collector hands over, and that it never complains, is said of the tree.

Nothing that the tree says can make the walk fail. Its events are brackets that match, and the
collector counts some of the brackets, so a source that had to be mended costs tokens and not
the file. The token that ends the file stands outside every function and is not code either.

`receiver_of_parsed` is the statement the others are derived from: one clone token for each
site that is kept and whose span lies in the file, in preorder. Being kept is a matter of the
tree alone; the file is asked for the span, and the policy only for the image.

## Main definitions

* `Site.Kept`: The node is a piece of code inside a function.
* `Site.sourceToken`: The token such a node is.
* `Site.cloneToken?`: The clone token that the collector gathers at a site.

## Theorems

* `kind_of_role`: A token is of the sort that the kind of its node says.
* `isCode_sourceToken`: Every node of the source is a token of code.
* `cloneToken?_eq_some_iff`: When a site gives a clone token, and which.
* `filterMap_tokensInside_of_parsed`: The tokens inside functions are the nodes that are kept.
* `receiver_of_parsed`: What is handed over for a parsed source.
* `parsed_events_balance`: The events are brackets that match, and the walk succeeds.
* `saves_exactly_kept_tokens`: What is handed over, token by token.
-/

namespace CloneScan

theorem kind_of_role {parent : Option Node} {t : SyntaxTree} {kind : TokenKind}
    (h : role parent t = .token kind) : kind = TokenKind.ofNode t.node.kind := by
  unfold role at h
  split at h
  · exact (Role.token.inj h).symm
  · split at h
    · exact Role.noConfusion h
    · split at h
      · exact Role.noConfusion h
      · split at h
        · exact (Role.token.inj h).symm
        · split at h
          · exact Role.noConfusion h
          · exact Role.noConfusion h

/-- No node of a tree ends the file. -/
theorem TokenKind.ofNode_ne_endOfFile (kind : String) : ofNode kind ≠ .endOfFile := by
  unfold ofNode
  split
  · exact TokenKind.noConfusion
  · split
    · exact TokenKind.noConfusion
    · split
      · exact TokenKind.noConfusion
      · split
        · exact TokenKind.noConfusion
        · exact TokenKind.noConfusion

theorem kind_of_tokenOf {source : ByteIndex} {kind : TokenKind} {n : Node} {t : Token}
    (h : tokenOf source kind n = some t) : t.kind = kind := by
  unfold tokenOf at h
  split at h
  · exact (Option.some.inj h) ▸ rfl
  · split at h
    · exact absurd h (by simp only [reduceCtorEq, not_false_eq_true])
    · exact (Option.some.inj h) ▸ rfl

mutual

/-- No token of a tree ends the file. -/
theorem kind_of_mem_eventsOf {source : ByteIndex} {parent : Option Node} {tree : SyntaxTree}
    {t : Token} (h : .token t ∈ eventsOf source parent tree) : t.kind ≠ .endOfFile := by
  cases tree with
  | mk n cs =>
      rw [eventsOf] at h
      cases hrole : role parent (.mk n cs) with
      | branch =>
          simp only [hrole, List.cons_append, List.mem_cons, List.mem_append, reduceCtorEq,
            List.not_mem_nil, or_false, false_or] at h
          exact kind_of_mem_eventsOfAll h
      | transparent =>
          simp only [hrole] at h
          exact kind_of_mem_eventsOfAll h
      | token kind =>
          simp only [hrole, List.mem_map, Option.mem_toList] at h
          rcases h with ⟨tok, htok, heq⟩
          rw [← Event.token.inj heq, kind_of_tokenOf htok, kind_of_role hrole]
          exact TokenKind.ofNode_ne_endOfFile _
      | comment => simp only [hrole, List.mem_singleton, reduceCtorEq] at h
      | skipped => simp only [hrole, List.not_mem_nil] at h

theorem kind_of_mem_eventsOfAll {source : ByteIndex} {parent : Option Node}
    {trees : List SyntaxTree} {t : Token} (h : .token t ∈ eventsOfAll source parent trees) :
    t.kind ≠ .endOfFile := by
  cases trees with
  | nil => exact absurd h List.not_mem_nil
  | cons tree rest =>
      rw [eventsOfAll, List.mem_append] at h
      rcases h with hfirst | hrest
      · exact kind_of_mem_eventsOf hfirst
      · exact kind_of_mem_eventsOfAll hrest

end

/-- The token at the end of a text. -/
def endingToken (source : String) : Token :=
  Token.endAt (endPlace source.toList).1 (endPlace source.toList).2

/-- The events of a parsed source are those of its tree and the end of the file. -/
theorem events_of_parsed (path : Path) (source : String) (parsed : ParsedSource) :
    (TranslationUnit.ofParsed path source parsed).events
      = eventsOf (.ofList source.toList) none parsed.root ++ [.token (endingToken source)] := by
  simp only [TranslationUnit.ofParsed, Cursor.read_start, endingToken]

/-- The depth at the end of a parsed source is zero, and no exit is refused on the way. -/
theorem depth_of_parsed (path : Path) (source : String) (parsed : ParsedSource) :
    FunctionDepth.outside.afterAll (TranslationUnit.ofParsed path source parsed).events
        = .outside ∧
      FunctionDepth.outside.refusesIn (TranslationUnit.ofParsed path source parsed).events
        = false := by
  have htree := afterAll_of_restores
    (nestAll_eventsOf (.ofList source.toList) none parsed.root) .outside
  rw [events_of_parsed, FunctionDepth.afterAll_append, FunctionDepth.refusesIn_append, htree.1,
    htree.2]
  exact ⟨rfl, rfl⟩

/-- The events of a parsed source are a word of brackets that match, up to the token that ends
    the file and is the only one of its sort. So no walk of the collector over them fails,
    whatever had to be mended in the source and whatever the collector did before. -/
theorem parsed_events_balance (path : Path) (source : String) (parsed : ParsedSource) :
    (∃ body, (TranslationUnit.ofParsed path source parsed).events
        = body ++ [.token (endingToken source)] ∧
      nestAll [] body = some [] ∧
      (∀ t, .token t ∈ body → t.kind ≠ .endOfFile) ∧
      (endingToken source).kind = .endOfFile) ∧
    ∀ (ε : Type) [Receiver ε] (context : Context) (c : Collector ε),
      (walk Collector.visitor (TranslationUnit.ofParsed path source parsed) context
        c).value.fault = none := by
  refine ⟨⟨eventsOf (.ofList source.toList) none parsed.root,
    events_of_parsed path source parsed, nestAll_eventsOf _ _ _ _,
    fun t ht => kind_of_mem_eventsOf ht, rfl⟩, ?_⟩
  intro ε _ context c
  -- The two faults that a walk can end with are an exit refused and a depth left over.
  have hdepth := depth_of_parsed path source parsed
  rw [Collector.walk_value, hdepth.1, hdepth.2]
  rfl

/-- A node is a piece of code inside a function: it is reached, it has a function definition
    around it, and it is a token that stands in the source and covers some of it. -/
structure Site.Kept (s : Site) : Prop where
  /-- Every proper ancestor lets its children contribute. -/
  reached : s.Reached
  /-- Some proper ancestor is a function definition. -/
  inFunction : s.InFunction
  /-- The node is a token. -/
  isToken : s.role = .token (TokenKind.ofNode s.node.kind)
  /-- The parser did not put the node in. -/
  present : s.node.missing = false
  /-- The node covers something. -/
  covers : s.node.startByte ≠ s.node.stopByte

instance (s : Site) : Decidable s.Kept :=
  decidable_of_iff (s.Reached ∧ s.InFunction ∧ s.role = .token (TokenKind.ofNode s.node.kind) ∧
      s.node.missing = false ∧ s.node.startByte ≠ s.node.stopByte)
    ⟨fun h => ⟨h.1, h.2.1, h.2.2.1, h.2.2.2.1, h.2.2.2.2⟩,
      fun h => ⟨h.reached, h.inFunction, h.isToken, h.present, h.covers⟩⟩

/-- The token that a piece of code is: its text, where it starts, and the sort its kind says. -/
def Site.sourceToken (source : ByteIndex) (s : Site) : Token :=
  ⟨TokenKind.ofNode s.node.kind, String.ofList (textOf source s.node),
    (placeOf source s.node).1, (placeOf source s.node).2, false⟩

/-- The clone token the collector gathers at a site: one for every node that is kept, if its span
    lies in the file. -/
def Site.cloneToken? (source : ByteIndex) (policy : ImagePolicy) (file : SourceFile)
    (s : Site) : Option CloneToken :=
  if s.Kept then cloneTokenOf? policy file (s.sourceToken source) else none

/-- A node of the source is a token of code. -/
theorem isCode_sourceToken (source : ByteIndex) (s : Site) : (s.sourceToken source).IsCode :=
  ⟨TokenKind.ofNode_ne_endOfFile _, rfl⟩

theorem image_sourceToken (policy : ImagePolicy) (source : ByteIndex) (s : Site) :
    ∃ image, policy.image (s.sourceToken source) = some image :=
  exists_image policy (isCode_sourceToken source s)

theorem cloneToken?_eq_some_iff {source : ByteIndex} {policy : ImagePolicy} {file : SourceFile}
    {s : Site} {k : CloneToken} :
    s.cloneToken? source policy file = some k ↔
      s.Kept ∧ file.tokenSpan (s.sourceToken source) = .ok k.span ∧
        policy.image (s.sourceToken source) = some k.image := by
  unfold Site.cloneToken?
  by_cases hkept : s.Kept
  · rw [if_pos hkept, cloneTokenOf?_eq_some_iff]
    exact ⟨fun h => ⟨hkept, h⟩, fun h => h.2⟩
  · rw [if_neg hkept]
    exact ⟨fun h => absurd h (by simp only [reduceCtorEq, not_false_eq_true]),
      fun h => absurd h.1 hkept⟩

/-- What is made of the token of a site inside a function is made of the node, if it is kept. A
    node the parser put in gives a token as well, but one that is not code. -/
theorem token?_bind {β : Type} (source : ByteIndex) (f : Token → Option β)
    (hf : ∀ t, ¬ t.IsCode → f t = none) (s : Site) :
    (s.token? source).bind f = if s.Kept then f (s.sourceToken source) else none := by
  by_cases htoken : s.role = .token (TokenKind.ofNode s.node.kind)
  · unfold Site.token?
    by_cases hinside : s.Reached ∧ s.InFunction
    · rw [if_pos hinside, htoken]
      by_cases hmissing : s.node.missing = true
      · have hnot : ¬ s.Kept := by
          intro h
          rw [h.present] at hmissing
          exact Bool.noConfusion hmissing
        simp only [tokenOf, if_pos hmissing, Option.bind_some, if_neg hnot]
        exact hf _ fun hcode => Bool.noConfusion hcode.2
      · by_cases hempty : s.node.startByte = s.node.stopByte
        · have hnot : ¬ s.Kept := fun h => h.covers hempty
          simp only [tokenOf, if_neg hmissing, if_pos hempty, Option.bind_none, if_neg hnot]
        · have hkept : s.Kept :=
            ⟨hinside.1, hinside.2, htoken, Bool.not_eq_true _ ▸ hmissing, hempty⟩
          simp only [tokenOf, if_neg hmissing, if_neg hempty, Option.bind_some, if_pos hkept]
          rfl
    · have hnot : ¬ s.Kept := fun h => hinside ⟨h.reached, h.inFunction⟩
      rw [if_neg hinside, if_neg hnot, Option.bind_none]
  · have hnot : ¬ s.Kept := fun h => htoken h.isToken
    have hnone : s.token? source = none :=
      Site.token?_of_no_token source fun kind hkind => htoken (kind_of_role hkind ▸ hkind)
    rw [hnone, if_neg hnot, Option.bind_none]

/-- The tokens of code that a parsed source shows inside functions are its kept nodes, in
    preorder: what is made of the ones is made of the others. -/
theorem filterMap_tokensInside_of_parsed {β : Type} (path : Path) (source : String)
    (parsed : ParsedSource) (f : Token → Option β) (hf : ∀ t, ¬ t.IsCode → f t = none) :
    (FunctionDepth.outside.tokensInside
        (TranslationUnit.ofParsed path source parsed).events).filterMap f
      = parsed.root.sites.filterMap fun s =>
          if s.Kept then f (s.sourceToken (.ofList source.toList)) else none := by
  have htree := afterAll_of_restores
    (nestAll_eventsOf (.ofList source.toList) none parsed.root) .outside
  -- The token that ends the file stands at depth zero, so the tokens inside are the tree's.
  have hinside : FunctionDepth.outside.tokensInside
      (TranslationUnit.ofParsed path source parsed).events
      = parsed.root.sites.filterMap (Site.token? (.ofList source.toList)) := by
    rw [events_of_parsed, FunctionDepth.tokensInside_append, htree.1]
    have hsites := tokensInside_eventsOf (.ofList source.toList) parsed.root []
      (fun a ha => absurd ha List.not_mem_nil)
    exact (List.append_nil _).trans hsites
  rw [hinside, List.filterMap_filterMap]
  exact congrArg (List.filterMap · _) (funext fun s => token?_bind _ f hf s)

/-- What the collector hands over for a parsed source whose file is under analysis: the clone
    tokens of its sites, in preorder, in one piece. -/
theorem receiver_of_parsed {ε : Type} [Receiver ε] (path : Path) (source : String)
    (parsed : ParsedSource) (context : Context) (c : Collector ε) (file : SourceFile)
    (hfile : c.files.find? context.path = some file) :
    (walk Collector.visitor (TranslationUnit.ofParsed path source parsed) context
        c).value.state.receiver
      = (Receiver.save file
          (parsed.root.sites.filterMap
            (Site.cloneToken? (.ofList source.toList) c.policy file)) c.receiver).value := by
  -- What becomes of each token inside is decided for it alone.
  have htokens := filterMap_tokensInside_of_parsed path source parsed
    (cloneTokenOf? c.policy file) (fun _ h => cloneTokenOf?_of_not_code c.policy file h)
  rw [Collector.walk_value]
  simp only [Collector.handOver_opened, hfile, htokens]
  rfl

/-- Walking the collector over a parsed source whose file is under analysis saves one list: over
    the nodes of the tree in preorder, one clone token for each that every proper ancestor lets
    through, that has a function definition around it, that is a token of the source and covers
    something, and whose span lies in the file. The clone token has that span, and the image
    the policy gives. -/
theorem saves_exactly_kept_tokens {ε : Type} [Receiver ε] (path : Path) (source : String)
    (parsed : ParsedSource) (context : Context) (c : Collector ε) (file : SourceFile)
    (hfile : c.files.find? context.path = some file) :
    (walk Collector.visitor (TranslationUnit.ofParsed path source parsed) context
        c).value.state.receiver
      = (Receiver.save file
          (parsed.root.sites.filterMap
            (Site.cloneToken? (.ofList source.toList) c.policy file)) c.receiver).value ∧
    parsed.root.sites.map (fun s => (⟨s.node, s.tree.children.length⟩ : Listed))
      = parsed.root.listing ∧
    (∀ s : Site,
      (∃ k, s.cloneToken? (.ofList source.toList) c.policy file = some k) ↔
        s.Kept ∧ ∃ span, file.tokenSpan (s.sourceToken (.ofList source.toList)) = .ok span) ∧
    ∀ (s : Site) (k : CloneToken),
      s.cloneToken? (.ofList source.toList) c.policy file = some k →
        file.tokenSpan (s.sourceToken (.ofList source.toList)) = .ok k.span ∧
        c.policy.image (s.sourceToken (.ofList source.toList)) = some k.image := by
  refine ⟨receiver_of_parsed path source parsed context c file hfile, map_sites parsed.root,
    ?_, ?_⟩
  · intro s
    constructor
    · rintro ⟨k, hk⟩
      have hall := cloneToken?_eq_some_iff.mp hk
      exact ⟨hall.1, k.span, hall.2.1⟩
    · rintro ⟨hkept, span, hspan⟩
      rcases image_sourceToken c.policy (.ofList source.toList) s with ⟨image, himage⟩
      exact ⟨⟨span, image⟩, cloneToken?_eq_some_iff.mpr ⟨hkept, hspan, himage⟩⟩
  · intro s k hk
    exact (cloneToken?_eq_some_iff.mp hk).2

/-- A text with a function inside a function. -/
def nestedText : String :=
  "a f\x7b\r\n é=g\x7d"

/-- The tree of `nestedText`: a name before both functions, names in each of them, and a semicolon
    that the parser put in. -/
def nestedFunctions : ParsedSource :=
  ⟨.mk ⟨"translation_unit", true, false, 0, 12, 0, 0, none⟩
    [.mk ⟨"identifier", true, false, 0, 1, 0, 0, none⟩ [],
      .mk ⟨"function_definition", true, false, 2, 12, 0, 2, none⟩
        [.mk ⟨"identifier", true, false, 2, 3, 0, 2, none⟩ [],
          .mk ⟨"identifier", true, false, 7, 9, 1, 1, none⟩ [],
          .mk ⟨"function_definition", true, false, 10, 12, 1, 4, none⟩
            [.mk ⟨"identifier", true, false, 10, 11, 1, 4, none⟩ [],
              .mk ⟨";", false, true, 11, 11, 1, 5, none⟩ []]]], true⟩

/-- The file of `nestedText`, under analysis alone. -/
def nestedAnalysis : AnalysisSet :=
  AnalysisSet.add .empty (.ofText ⟨"a.cpp"⟩ nestedText)

theorem find?_nestedAnalysis :
    nestedAnalysis.find? ⟨"a.cpp"⟩ = some (.ofText ⟨"a.cpp"⟩ nestedText) := by
  decide +kernel

theorem cloneTokens_of_nested :
    nestedFunctions.root.sites.filterMap
        (Site.cloneToken? (.ofList nestedText.toList) .exact (.ofText ⟨"a.cpp"⟩ nestedText))
      = [⟨⟨⟨1, 2⟩, ⟨1, 3⟩⟩, "f"⟩, ⟨⟨⟨2, 1⟩, ⟨2, 2⟩⟩, "é"⟩, ⟨⟨⟨2, 3⟩, ⟨2, 4⟩⟩, "g"⟩] := by
  decide +kernel

/-- The name before the functions is not saved, nor is the semicolon, and the name in the inner
    function is saved once. -/
theorem saves_exactly_kept_tokens_of_nested :
    nestedAnalysis.find? ⟨"a.cpp"⟩ = some (.ofText ⟨"a.cpp"⟩ nestedText) ∧
    (walk Collector.visitor (TranslationUnit.ofParsed ⟨"a.cpp"⟩ nestedText nestedFunctions)
        (.ofPath ⟨"a.cpp"⟩)
        (Collector.idle .exact nestedAnalysis
          ([] : List (SourceFile × List CloneToken)))).value.state.receiver
      = [(.ofText ⟨"a.cpp"⟩ nestedText,
          [⟨⟨⟨1, 2⟩, ⟨1, 3⟩⟩, "f"⟩, ⟨⟨⟨2, 1⟩, ⟨2, 2⟩⟩, "é"⟩, ⟨⟨⟨2, 3⟩, ⟨2, 4⟩⟩, "g"⟩])] := by
  refine ⟨find?_nestedAnalysis, ?_⟩
  rw [(saves_exactly_kept_tokens _ _ _ _ _ _ find?_nestedAnalysis).1]
  exact congrArg (fun tokens => [(SourceFile.ofText ⟨"a.cpp"⟩ nestedText, tokens)])
    cloneTokens_of_nested

end CloneScan
