import CloneScan.Exchange
import CloneScan.Proofs.Json.Records
import CloneScan.Proofs.Scan.Failures

/-!
# Reports Can Be Read Back

What a run writes as JSON can be read again by the descriptions it was written by, and gives the
same values: the whole document, each of its two members, and the compact form of every record by
itself. No character in a path, a message or an image stands in the way, and no list is too long or
too short. Numbers must be words, as they are where the records come from, since the reader takes
no others, and paths must be texts, since no others are written.

The records are put together from plain values by the ways of making codecs, and so are the proofs:
each says which values its fields hold.

## Main definitions

* `Outcome.InWords`, and the same for its parts: All numbers are words.
* `Outcome.PathsAreText`: All paths are texts.

## Theorems

* `Summary.codec_readsBack`, `CloneStream.codec_readsBack`, `Outcome.codec_readsBack`, and the same
  for their parts: Records are read back.
* `Outcome.render_json`: The document by its two members.
* `report_reads_back`: Reports and records can be read back.
-/

namespace CloneScan

open Json

/-! ## Tokens -/

theorem Path.codec_readsBack (p : Path) : Path.codec.ReadsBack p :=
  Codec.wrap_readsBack fun _ hs =>
    ⟨(Path.text?_eq_some_iff.mp hs).symm, Codec.text_readsBack _ _⟩

theorem sizeCodec_readsBack {n : Nat} (h : n ≤ wordMax) : sizeCodec.ReadsBack n :=
  Codec.whole_readsBack "usize" h

theorem stringCodec_readsBack (s : String) : stringCodec.ReadsBack s :=
  Codec.text_readsBack "a string" s

theorem TokenKind.codec_readsBack (kind : TokenKind) : TokenKind.codec.ReadsBack kind :=
  Codec.variant_readsBack (by cases kind <;> decide)

/-- The place of a token is told by words. -/
def Token.InWords (t : Token) : Prop :=
  t.line ≤ wordMax ∧ t.column ≤ wordMax

theorem Token.codec_readsBack {t : Token} (h : t.InWords) : Token.codec.ReadsBack t := by
  refine Codec.record_readsBack (by decide) rfl ?_
  exact ⟨t.kind.codec_readsBack, stringCodec_readsBack _, sizeCodec_readsBack h.1,
    sizeCodec_readsBack h.2, Codec.truth_readsBack _, trivial⟩

def Position.InWords (p : Position) : Prop :=
  p.line ≤ wordMax ∧ p.offset ≤ wordMax

theorem Position.codec_readsBack {p : Position} (h : p.InWords) : Position.codec.ReadsBack p := by
  refine Codec.record_readsBack (by decide) rfl ?_
  exact ⟨sizeCodec_readsBack h.1, sizeCodec_readsBack h.2, trivial⟩

def Span.InWords (s : Span) : Prop :=
  s.start.InWords ∧ s.stop.InWords

theorem Span.codec_readsBack {s : Span} (h : s.InWords) : Span.codec.ReadsBack s := by
  refine Codec.record_readsBack (by decide) rfl ?_
  exact ⟨Position.codec_readsBack h.1, Position.codec_readsBack h.2, trivial⟩

def CloneToken.InWords (t : CloneToken) : Prop :=
  t.span.InWords

theorem CloneToken.codec_readsBack {t : CloneToken} (h : t.InWords) :
    CloneToken.codec.ReadsBack t := by
  refine Codec.record_readsBack (by decide) rfl ?_
  exact ⟨Span.codec_readsBack h, stringCodec_readsBack _, trivial⟩

def CloneStream.InWords (s : CloneStream) : Prop :=
  ∀ t ∈ s.tokens, t.InWords

theorem CloneStream.codec_readsBack {s : CloneStream} (h : s.InWords) :
    CloneStream.codec.ReadsBack s := by
  refine Codec.record_readsBack (by decide) rfl ?_
  exact ⟨s.path.codec_readsBack,
    Codec.list_readsBack fun t ht => CloneToken.codec_readsBack (h t ht), trivial⟩

/-! ## Reports -/

/-- The line of a finding is a word. -/
def Finding.InWords (f : Finding) : Prop :=
  f.line ≤ wordMax

theorem Finding.codec_readsBack {f : Finding} (h : f.InWords) : Finding.codec.ReadsBack f := by
  refine Codec.record_readsBack (by decide) rfl ?_
  exact ⟨stringCodec_readsBack _, sizeCodec_readsBack h, stringCodec_readsBack _, trivial⟩

def FileReport.InWords (r : FileReport) : Prop :=
  ∀ f ∈ r.findings, f.InWords

theorem FileReport.codec_readsBack {r : FileReport} (h : r.InWords) :
    FileReport.codec.ReadsBack r := by
  refine Codec.record_readsBack (by decide) rfl ?_
  exact ⟨r.path.codec_readsBack,
    Codec.list_readsBack fun f hf => Finding.codec_readsBack (h f hf),
    Codec.truth_readsBack _, Codec.list_readsBack fun e _ => stringCodec_readsBack e, trivial⟩

/-- The counters of a summary are words, and so are the lines in its reports. -/
def Summary.InWords (s : Summary) : Prop :=
  s.processed ≤ wordMax ∧ s.failed ≤ wordMax ∧ ∀ r ∈ s.reports, r.InWords

theorem Summary.codec_readsBack {s : Summary} (h : s.InWords) : Summary.codec.ReadsBack s := by
  refine Codec.record_readsBack (by decide) rfl ?_
  exact ⟨Codec.whole_readsBack _ h.1, Codec.whole_readsBack _ h.2.1,
    Codec.list_readsBack fun r hr => FileReport.codec_readsBack (h.2.2 r hr), trivial⟩

/-- All numbers of an outcome are words: counters, lines and places. -/
def Outcome.InWords (o : Outcome) : Prop :=
  o.summary.InWords ∧ ∀ s ∈ o.clones, s.InWords

theorem Outcome.clones_readsBack {o : Outcome} (h : o.InWords) :
    CloneStream.codec.list.ReadsBack o.clones :=
  Codec.list_readsBack fun s hs => CloneStream.codec_readsBack (h.2 s hs)

theorem Outcome.codec_readsBack {o : Outcome} (h : o.InWords) : Outcome.codec.ReadsBack o := by
  refine Codec.record_readsBack (by decide) rfl ?_
  exact ⟨Summary.codec_readsBack h.1, o.clones_readsBack h, trivial⟩

/-! ## Settings -/

theorem ImagePolicy.codec_readsBack (p : ImagePolicy) : ImagePolicy.codec.ReadsBack p := by
  refine Codec.record_readsBack (by decide) rfl ?_
  exact ⟨Codec.truth_readsBack _, Codec.truth_readsBack _, trivial⟩

theorem Settings.codec_readsBack (s : Settings) : Settings.codec.ReadsBack s := by
  have hoptional : ∀ o : Option String, stringCodec.optional.ReadsBack o := fun o =>
    Codec.optional_readsBack fun a _ => ⟨stringCodec_readsBack a, nofun⟩
  apply Codec.record_readsBack
  · decide
  · rfl
  · exact ⟨s.policy.codec_readsBack, hoptional _, hoptional _,
      Codec.list_readsBack fun e _ => stringCodec_readsBack e, trivial⟩

/-! ## Documents -/

/-- The paths of an outcome are texts, so that all of it has a JSON form. -/
def Outcome.PathsAreText (o : Outcome) : Prop :=
  (∀ r ∈ o.summary.reports, r.path.IsText) ∧ ∀ s ∈ o.clones, s.path.IsText

/-- The document of an outcome by its two members. -/
theorem Outcome.render_json {o : Outcome} {summary clones : Json}
    (hsummary : Summary.codec.write o.summary = .ok summary)
    (hclones : CloneStream.codec.list.write o.clones = .ok clones) :
    o.render .json
      = .ok ("\x7b\n  \"summary\": " ++ String.ofList (indentedAt 1 summary) ++
        ",\n  \"cpd\": " ++ String.ofList (indentedAt 1 clones) ++ "\n\x7d\n") := by
  have hwrite : Outcome.codec.write o = .ok (.object [("summary", summary), ("cpd", clones)]) := by
    simp only [Outcome.codec, Codec.record, Fields.write, hsummary, hclones]
  simp only [render, hwrite]
  rw [indented, indentedAt_object, Except.ok.injEq, ← String.toList_inj]
  simp only [String.toList_append, String.toList_ofList, List.map_cons, List.map_nil, joined,
    memberText, List.flatMap_cons, List.flatMap_nil, List.append_assoc, List.cons_append,
    List.append_nil]
  rfl

/-- The document of an outcome is read back whole, and so is each of its members by itself. -/
theorem Outcome.document_reads_back {o : Outcome} (h : o.InWords) (hpaths : o.PathsAreText) :
    ∃ summary clones document : String,
      document = "\x7b\n  \"summary\": " ++ summary ++ ",\n  \"cpd\": " ++ clones ++
        "\n\x7d\n" ∧
      o.render .json = .ok document ∧
      Summary.codec.decode summary = .ok o.summary ∧
      CloneStream.codec.list.decode clones = .ok o.clones ∧
      Outcome.codec.decode document = .ok o := by
  rcases Summary.codec_writable_iff.mpr hpaths.1 with ⟨summary, hsummary⟩
  obtain ⟨clones, hclones⟩ : CloneStream.codec.list.Writable o.clones :=
    Codec.list_writable_iff.mpr fun s hs => CloneStream.codec_writable_iff.mpr (hpaths.2 s hs)
  have hrender := o.render_json hsummary hclones
  refine ⟨_, _, _, rfl, hrender, ?_, ?_, ?_⟩
  · have hdecode := Codec.decode_of_spells (Summary.codec_readsBack h.1) blanks_nil
      ⟨summary, hsummary, written_indentedAt 1 _⟩ blanks_nil
    rwa [List.nil_append, List.append_nil] at hdecode
  · have hdecode := Codec.decode_of_spells (o.clones_readsBack h) blanks_nil
      ⟨clones, hclones, written_indentedAt 1 _⟩ blanks_nil
    rwa [List.nil_append, List.append_nil] at hdecode
  · -- The document ends in a line feed, which is a blank.
    rcases Outcome.codec_writable_iff.mpr hpaths with ⟨whole, hwhole⟩
    have hfeed : Blanks ['\n'] := blanks_singleton (by decide)
    have hdecode := Codec.decode_of_spells (Outcome.codec_readsBack h) blanks_nil
      ⟨whole, hwhole, written_indentedAt 0 _⟩ hfeed
    rw [List.nil_append, String.ofList_append] at hdecode
    simp only [render, hwhole, Except.ok.injEq] at hrender
    rw [← hrender]
    exact hdecode

/-- A run that writes JSON writes the document of its outcome. -/
theorem printed_json {o : Options} {fs : FileSystem} {grammar : Grammar} {outcome : Outcome}
    (hrun : (run o fs grammar).value.result = .ok outcome) (hformat : o.format = .json) :
    outcome.render .json = .ok (run o fs grammar).value.printed := by
  rcases run_complete hrun with ⟨files, rule, -, -, hcomplete⟩
  have hprinted := hcomplete.printed
  rw [hformat] at hprinted
  rcases hprinted with ⟨document, hdocument, hprinted⟩
  simp only [Outcome.render, hdocument, hprinted]

/-- What a run writes as JSON can be read back. The document is an object of a summary and a list of
    clone streams, which are read as those of the outcome; and every record is read back from its
    compact text. All that is asked is that the numbers are words and the paths are texts. -/
theorem report_reads_back (outcome : Outcome) (h : outcome.InWords)
    (hpaths : outcome.PathsAreText) :
    (∀ (o : Options) (fs : FileSystem) (grammar : Grammar),
      (run o fs grammar).value.result = .ok outcome → o.format = .json →
        outcome.render .json = .ok (run o fs grammar).value.printed) ∧
    (∃ summary clones document : String,
      document = "\x7b\n  \"summary\": " ++ summary ++ ",\n  \"cpd\": " ++ clones ++
        "\n\x7d\n" ∧
      outcome.render .json = .ok document ∧
      Summary.codec.decode summary = .ok outcome.summary ∧
      CloneStream.codec.list.decode clones = .ok outcome.clones ∧
      Outcome.codec.decode document = .ok outcome) ∧
    (∀ t : Token, t.InWords →
      ∃ text, Token.codec.encode t = .ok text ∧ Token.codec.decode text = .ok t) ∧
    (∀ f : Finding, f.InWords →
      ∃ text, Finding.codec.encode f = .ok text ∧ Finding.codec.decode text = .ok f) ∧
    (∀ r : FileReport, r.InWords → r.path.IsText →
      ∃ text, FileReport.codec.encode r = .ok text ∧ FileReport.codec.decode text = .ok r) ∧
    (∀ s : Summary, s.InWords → (∀ r ∈ s.reports, r.path.IsText) →
      ∃ text, Summary.codec.encode s = .ok text ∧ Summary.codec.decode text = .ok s) ∧
    (∀ t : CloneToken, t.InWords →
      ∃ text, CloneToken.codec.encode t = .ok text ∧ CloneToken.codec.decode text = .ok t) ∧
    (∀ s : CloneStream, s.InWords → s.path.IsText →
      ∃ text, CloneStream.codec.encode s = .ok text ∧ CloneStream.codec.decode text = .ok s) ∧
    ∀ s : Settings,
      ∃ text, Settings.codec.encode s = .ok text ∧ Settings.codec.decode text = .ok s :=
  ⟨fun _ _ _ => printed_json, outcome.document_reads_back h hpaths,
    fun t ht => Codec.decode_encode (Token.codec_readsBack ht) t.codec_writable,
    fun f hf => Codec.decode_encode (Finding.codec_readsBack hf) f.codec_writable,
    fun _ hr hpath => Codec.decode_encode (FileReport.codec_readsBack hr)
      (FileReport.codec_writable_iff.mpr hpath),
    fun _ hs hpath => Codec.decode_encode (Summary.codec_readsBack hs)
      (Summary.codec_writable_iff.mpr hpath),
    fun t ht => Codec.decode_encode (CloneToken.codec_readsBack ht) t.codec_writable,
    fun _ hs hpath => Codec.decode_encode (CloneStream.codec_readsBack hs)
      (CloneStream.codec_writable_iff.mpr hpath),
    fun s => Codec.decode_encode s.codec_readsBack s.codec_writable⟩

/-- An outcome with a path that has to be escaped, and with the greatest word. -/
def awkwardOutcome : Outcome :=
  ⟨⟨wordMax, 0, [⟨⟨"a\"\\\n.cpp"⟩, [⟨"r", wordMax, "é\x01"⟩], true, []⟩]⟩, [⟨⟨"b.cpp"⟩, []⟩]⟩

/-- Quotes, control characters, the greatest word and an empty list come back as they were. -/
theorem report_reads_back_awkward :
    (∃ document, awkwardOutcome.render .json = .ok document ∧
      Outcome.codec.decode document = .ok awkwardOutcome) ∧
    ∃ text, Finding.codec.encode ⟨"r", wordMax, "é\x01"⟩ = .ok text ∧
      Finding.codec.decode text = .ok ⟨"r", wordMax, "é\x01"⟩ := by
  have hwords : awkwardOutcome.InWords := by
    refine ⟨⟨Nat.le_refl _, Nat.zero_le _, fun r hr f hf => ?_⟩, fun s hs t ht => ?_⟩
    · obtain rfl := List.mem_singleton.mp hr
      obtain rfl := List.mem_singleton.mp hf
      exact Nat.le_refl _
    · obtain rfl := List.mem_singleton.mp hs
      exact absurd ht List.not_mem_nil
  have hpaths : awkwardOutcome.PathsAreText :=
    ⟨List.forall_mem_singleton.mpr ⟨_, rfl⟩, List.forall_mem_singleton.mpr ⟨_, rfl⟩⟩
  rcases report_reads_back awkwardOutcome hwords hpaths with
    ⟨-, ⟨_, _, document, -, hrender, -, -, hdocument⟩, -, hfinding, -⟩
  exact ⟨⟨document, hrender, hdocument⟩, hfinding _ (Nat.le_refl _)⟩

end CloneScan
