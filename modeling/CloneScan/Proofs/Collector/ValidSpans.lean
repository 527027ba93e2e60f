import CloneScan.Proofs.Collector.Calls
import CloneScan.Proofs.Collector.Harvest
import CloneScan.Proofs.File.TokenSpan

/-!
# Only Spans of the File Are Saved

What is saved for a file can be looked up in it, whatever events the collector was shown. A source
that had to be mended may leave tokens at column zero, at a line that is not there, or so far
to the right that the number of their end is lost. None of these is clamped to a place that the
file does have. The token is left out, and every token that is saved stands where it said it
stands, with all its characters on one line of the file.

The hooks may be called in any order. What a call hands over is known from the calls alone
(`HookCall.deliveries`), and it is made of the tokens that were shown, one after the other. So
the list of what was shown is thinned, and what is left matches what is saved place by place.

## Main definitions

* `CloneToken.LiesIn`: A clone token lies in a file where the token it is made of stands.
* `HookCall.tokensShown`: The tokens that several calls show.

## Theorems

* `liesIn_of_cloneTokenOf?`: What becomes of a token lies in the file.
* `HookCall.delivery_liesIn`: What one call hands over.
* `saved_spans_lie_in_file`: Everything that several calls hand over.
-/

namespace CloneScan

/-- A clone token lies in a file, and covers exactly the characters of a token there. -/
structure CloneToken.LiesIn (f : SourceFile) (t : Token) (k : CloneToken) : Prop where
  /-- The span stays on the line it starts on. -/
  oneLine : k.span.stop.line = k.span.start.line
  /-- The file has that line, counted from one. -/
  lineInFile : 1 ≤ k.span.start.line ∧ k.span.start.line ≤ f.lineCount
  /-- The span covers something. -/
  notEmpty : k.span.start.offset < k.span.stop.offset
  /-- The line reaches as far as the span. -/
  inLine : ∃ length, f.lineLength k.span.start.line = some length ∧ k.span.stop.offset ≤ length
  /-- It is the line of the token. -/
  line : k.span.start.line = t.line
  /-- The span is as long as the text of the token, whatever it compares as. -/
  measures : k.span.stop.offset - k.span.start.offset = t.charLength
  /-- The token starts where the span does. -/
  column : k.span.start.offset + 1 = t.column
  /-- A word holds the place where the span ends, so no end is one that came round again. -/
  numbered : k.span.stop.offset < wordLimit
  /-- The token compares as something. -/
  image : k.image ≠ ""

namespace SourceFile

/-- A file has every line that has a length. -/
theorem line_of_lineLength {f : SourceFile} {line length : Nat}
    (h : f.lineLength line = some length) : 1 ≤ line ∧ line ≤ f.lineCount := by
  cases line with
  | zero => exact absurd h (by simp only [lineLength, reduceCtorEq, not_false_eq_true])
  | succ n =>
      rw [lineLength] at h
      rcases Array.getElem?_eq_some_iff.mp h with ⟨hn, _⟩
      exact ⟨Nat.le_add_left 1 n, hn⟩

end SourceFile

/-- The image of a token with a text is not empty: it is the text or a placeholder. -/
theorem image_ne_empty {policy : ImagePolicy} {t : Token} {image : String}
    (hcovers : 0 < t.charLength) (h : policy.image t = some image) : image ≠ "" := by
  have hvalue : t.value ≠ "" := by
    intro hempty
    rw [Token.charLength, hempty] at hcovers
    exact absurd hcovers (by decide)
  unfold ImagePolicy.image at h
  split at h
  · exact absurd h (Option.some_ne_none _).symm
  · split at h
    · rw [Option.some.injEq] at h
      subst h
      cases t.kind with
      | identifier | numericLiteral | stringLiteral | characterLiteral =>
          simp only [ImagePolicy.placeholder, Option.getD_some]
          decide
      | endOfFile | other => exact hvalue
    · rw [Option.some.injEq] at h
      exact h ▸ hvalue

/-- What becomes of a token lies in the file. -/
theorem liesIn_of_cloneTokenOf? {policy : ImagePolicy} {f : SourceFile} {t : Token}
    {k : CloneToken} (h : cloneTokenOf? policy f t = some k) : k.LiesIn f t := by
  rcases k with ⟨span, image⟩
  rcases cloneTokenOf?_eq_some_iff.mp h with ⟨hspan, himage⟩
  rcases SourceFile.tokenSpan_eq_ok_iff.mp hspan with ⟨offset, hholds, hplace⟩
  rcases hholds.fits with ⟨length, hlength, hle⟩
  have hcovers := hholds.covers
  simp only at hplace himage
  subst hplace
  exact {
    oneLine := rfl
    lineInFile := SourceFile.line_of_lineLength hlength
    notEmpty := Nat.lt_add_of_pos_right hcovers
    inLine := ⟨length, hlength, hle⟩
    line := rfl
    measures := Nat.add_sub_cancel_left offset t.charLength
    column := hholds.starts.symm
    numbered := hholds.numbered
    image := image_ne_empty hcovers himage }

/-- What is made of some members of a list matches those members, in their order. -/
theorem exists_sublist_of_filterMap {α β : Type} {R : α → β → Prop} {f : α → Option β}
    (h : ∀ a b, f a = some b → R a b) (l : List α) :
    ∃ kept, kept.Sublist l ∧ List.Forall₂ R kept (l.filterMap f) := by
  induction l with
  | nil => exact ⟨[], .slnil, .nil⟩
  | cons a rest ih =>
      rcases ih with ⟨kept, hkept, hmatch⟩
      cases hmade : f a with
      | none =>
          rw [List.filterMap_cons_none hmade]
          exact ⟨kept, hkept.cons a, hmatch⟩
      | some b =>
          rw [List.filterMap_cons_some hmade]
          exact ⟨a :: kept, hkept.cons_cons a, .cons (h a b hmade) hmatch⟩

/-- The tokens inside functions are some of all tokens. -/
theorem tokensInside_sublist (d : FunctionDepth) (es : List Event) :
    (d.tokensInside es).Sublist (es.filterMap Event.token?) := by
  induction es generalizing d with
  | nil => exact .slnil
  | cons e rest ih =>
      have hhere : (d.tokenInside e).Sublist e.token?.toList := by
        rw [FunctionDepth.tokenInside]
        split
        · exact List.Sublist.refl _
        · exact List.nil_sublist _
      rw [FunctionDepth.tokensInside, List.filterMap_eq_flatMap_toList, List.flatMap_cons,
        ← List.filterMap_eq_flatMap_toList]
      exact hhere.append (ih _)

namespace HookCall

/-- The tokens that several calls show, in order. -/
def tokensShown (calls : List HookCall) : List Token :=
  (calls.filterMap event?).filterMap Event.token?

/-- The tokens inside functions of the file that is open are some of those that were shown. -/
theorem tokensInside_eventsSince (calls : List HookCall) :
    (FunctionDepth.outside.tokensInside (eventsSince calls)).Sublist (tokensShown calls) := by
  have hevents : (eventsSince calls).Sublist (calls.filterMap event?) :=
    (List.rtakeWhile_suffix showsEvent calls).sublist.filterMap event?
  exact (tokensInside_sublist _ _).trans (hevents.filterMap Event.token?)

/-- What a call hands over comes from a file under analysis, and its clone tokens match some of the
    tokens that were shown before, in order. -/
theorem delivery_liesIn {policy : ImagePolicy} {files : AnalysisSet} {before : List HookCall}
    {call : HookCall} {save : SourceFile × List CloneToken}
    (h : delivery? policy files before call = some save) :
    (∃ path, files.find? path = some save.1) ∧
      ∃ ts, ts.Sublist (tokensShown before) ∧
        List.Forall₂ (CloneToken.LiesIn save.1) ts save.2 := by
  cases call with
  | enterFile context | seeEvent context e =>
      exact absurd h (by simp only [delivery?, reduceCtorEq, not_false_eq_true])
  | leaveFile context =>
      rcases Option.bind_eq_some_iff.mp h with ⟨path, _, hfound⟩
      rcases Option.map_eq_some_iff.mp hfound with ⟨file, hfile, rfl⟩
      refine ⟨⟨path, hfile⟩, ?_⟩
      have hstep (t : Token) (k : CloneToken) (hk : cloneTokenOf? policy file t = some k) :
          CloneToken.LiesIn file t k :=
        liesIn_of_cloneTokenOf? hk
      rcases exists_sublist_of_filterMap hstep
        (FunctionDepth.outside.tokensInside (eventsSince before)) with ⟨ts, hts, hmatch⟩
      exact ⟨ts, hts.trans (tokensInside_eventsSince before), hmatch⟩

end HookCall

/-- A list that receives has what was handed over to it, in order. -/
theorem receiveAll_list (saves first : List (SourceFile × List CloneToken)) :
    receiveAll first saves = first ++ saves := by
  induction saves generalizing first with
  | nil => exact (List.append_nil first).symm
  | cons save rest ih =>
      have hstep : receiveAll first (save :: rest) = receiveAll (first ++ [save]) rest := rfl
      rw [hstep, ih, List.append_assoc, List.singleton_append]

/-- The hooks of a collector are called in any order, with any events. Every list that is saved is
    that of a file under analysis, and its clone tokens match tokens that were shown, in order:
    each covers exactly the characters of its token, at the place the token gives, on one line
    that the file has and that reaches as far, and compares as something. -/
theorem saved_spans_lie_in_file (policy : ImagePolicy) (files : AnalysisSet)
    (channel : NoteChannel) (calls : List HookCall) :
    ∀ save ∈ ((Collector.mk policy files ([] : List (SourceFile × List CloneToken)) channel
        none).afterCalls calls).receiver,
      (∃ path, files.find? path = some save.1) ∧
      ∃ ts, ts.Sublist (HookCall.tokensShown calls) ∧
        List.Forall₂ (CloneToken.LiesIn save.1) ts save.2 := by
  intro save hsave
  let start := Collector.mk policy files ([] : List (SourceFile × List CloneToken)) channel none
  have hreflects := Collector.reflects_afterCalls (show start.current = none from rfl) calls
  rw [hreflects.receiver, receiveAll_list, List.nil_append] at hsave
  -- A save belongs to one call, and only the calls before it had a part in it.
  rcases List.mem_filterMap.mp hsave with ⟨i, _, hi⟩
  rcases Option.bind_eq_some_iff.mp hi with ⟨call, _, hdelivery⟩
  rcases HookCall.delivery_liesIn hdelivery with ⟨hfile, ts, hts, hmatch⟩
  have hbefore : (HookCall.tokensShown (calls.take i)).Sublist (HookCall.tokensShown calls) :=
    ((List.take_sublist i calls).filterMap HookCall.event?).filterMap Event.token?
  exact ⟨hfile, ts, hts.trans hbefore, hmatch⟩

/-- Calls that show five tokens inside a function: at column zero, at the greatest column a word
    holds, on a line that is not there, without a text, and at the end of the second line. -/
def strayCalls : List HookCall :=
  let context := Context.ofPath ⟨"a.cpp"⟩
  [.enterFile context, .seeEvent context (.enter functionDefinition 1),
    .seeEvent context (.token ⟨.other, "x", 1, 0, false⟩),
    .seeEvent context (.token ⟨.other, "xy", 1, 18446744073709551615, false⟩),
    .seeEvent context (.token ⟨.other, "x", 3, 1, false⟩),
    .seeEvent context (.token ⟨.other, "", 1, 1, false⟩),
    .seeEvent context (.token ⟨.identifier, "g", 2, 4, false⟩),
    .leaveFile context]

/-- Of the five tokens the last one is saved. -/
theorem saved_spans_lie_in_file_of_stray :
    ((Collector.mk ⟨false, true⟩ nestedAnalysis ([] : List (SourceFile × List CloneToken))
        (.kept []) none).afterCalls strayCalls).receiver
      = [(.ofText ⟨"a.cpp"⟩ nestedText, [⟨⟨⟨2, 3⟩, ⟨2, 4⟩⟩, "_I"⟩])] ∧
    ∃ ts, ts.Sublist (HookCall.tokensShown strayCalls) ∧
      List.Forall₂ (CloneToken.LiesIn (.ofText ⟨"a.cpp"⟩ nestedText)) ts
        [⟨⟨⟨2, 3⟩, ⟨2, 4⟩⟩, "_I"⟩] := by
  have hsaves : ((Collector.mk ⟨false, true⟩ nestedAnalysis
      ([] : List (SourceFile × List CloneToken)) (.kept []) none).afterCalls strayCalls).receiver
        = [(.ofText ⟨"a.cpp"⟩ nestedText, [⟨⟨⟨2, 3⟩, ⟨2, 4⟩⟩, "_I"⟩])] := by
    decide +kernel
  refine ⟨hsaves, (saved_spans_lie_in_file ⟨false, true⟩ nestedAnalysis (.kept []) strayCalls
    (.ofText ⟨"a.cpp"⟩ nestedText, [⟨⟨⟨2, 3⟩, ⟨2, 4⟩⟩, "_I"⟩]) ?_).2⟩
  rw [hsaves]
  exact List.mem_singleton_self _

end CloneScan
