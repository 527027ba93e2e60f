import CloneScan.Proofs.Collector.ValidSpans
import Mathlib.Data.List.Forall2

/-!
# Policies Change Images and Nothing Else

Two collectors differ in their policies and in nothing else, and their hooks are called alike. The
policy is asked at one place only, for the image of a token, and there it could do harm: the
image decides whether the token is code at all, and it stands beside the span. But every policy
takes the same tokens for code, and the span is that of the text as written, whatever the token
compares as. So the two collectors go the same way, and only images tell them apart.

`Collector.Alike` is what stays true of the pair: the same files, the same remarks, and an open
file that is the same but for its clone tokens. One hook keeps it and logs, reports and fails the
same on both sides (`Collector.reply_alike`); calls in any order and whole walks follow by
induction. The clone tokens are left out of it, as they are known from the calls alone
(`HookCall.deliveries`): there the two lists come from the same tokens, one by one.

## Main definitions

* `Logged.Alike`: Two logged values come with the same records and are related.
* `Collector.Alike`, `Step.Alike`, `Walk.Alike`: Two collectors, steps or walks are the same, clone
  tokens apart.
* `HookCall.ofWalk`: The calls of a walk.
* `Token.SavedAs`: What one token is saved as under two policies.
* `SavedAlike`: Two saves are those of one file under two policies.

## Theorems

* `Collector.reply_alike`: One call of a hook.
* `Collector.afterCalls_alike`: Several calls.
* `walk_alike`, `Collector.walk_afterCalls`: A whole walk.
* `HookCall.deliveries_alike`: What the calls hand over.
* `policies_change_images_alone`: All of it, for two policies.
-/

namespace CloneScan

namespace Logged

variable {α β γ δ : Type}

/-- Two logged values come with the same records, and the values are related. -/
structure Alike (R : α → β → Prop) (m : Logged α) (n : Logged β) : Prop where
  /-- The records are the same, in the same order. -/
  records : m.records = n.records
  /-- The values are related. -/
  value : R m.value n.value

theorem Alike.pure {R : α → β → Prop} {a : α} {b : β} (h : R a b) :
    Alike R (pure a : Logged α) (pure b) :=
  ⟨rfl, h⟩

theorem Alike.refl (m : Logged α) : Alike Eq m m :=
  ⟨rfl, rfl⟩

/-- What follows related values in a related way is related. -/
theorem Alike.bind {R : α → β → Prop} {S : γ → δ → Prop} {m : Logged α} {n : Logged β}
    {f : α → Logged γ} {g : β → Logged δ} (h : Alike R m n)
    (hnext : ∀ a b, R a b → Alike S (f a) (g b)) : Alike S (m >>= f) (n >>= g) := by
  have hthen := hnext m.value n.value h.value
  exact ⟨congrArg₂ (· ++ ·) h.records hthen.records, hthen.value⟩

end Logged

/-- What is known of a file being visited, images apart: how deep in functions the visit is, and
    the file if it is under analysis. -/
def OpenFile.outline (f : OpenFile) : FunctionDepth × Option SourceFile :=
  (f.depth, f.buffer.map TokenBuffer.file)

namespace Collector

variable {ε : Type}

/-- Two collectors know the same, images apart. -/
structure Alike (c d : Collector ε) : Prop where
  /-- The same files are under analysis. -/
  files : c.files = d.files
  /-- The same remarks were passed on. -/
  channel : c.channel = d.channel
  /-- The same file is open, as deep in functions. -/
  current : c.current.map OpenFile.outline = d.current.map OpenFile.outline

/-- Of two collectors that are alike, none has a file open, or both have. -/
theorem Alike.current_cases {c d : Collector ε} (h : c.Alike d) :
    (c.current = none ∧ d.current = none) ∨
      ∃ f g, c.current = some f ∧ d.current = some g ∧ f.outline = g.outline := by
  have hcurrent := h.current
  cases hc : c.current with
  | none =>
      rw [hc, Option.map_none] at hcurrent
      exact Or.inl ⟨rfl, Option.map_eq_none_iff.mp hcurrent.symm⟩
  | some f =>
      rw [hc, Option.map_some] at hcurrent
      rcases Option.map_eq_some_iff.mp hcurrent.symm with ⟨g, hg, houtline⟩
      exact Or.inr ⟨f, g, rfl, hg, houtline.symm⟩

/-- Opening files of the same outline keeps collectors alike. -/
theorem Alike.visit {c d : Collector ε} (h : c.Alike d) {f g : OpenFile}
    (houtline : f.outline = g.outline) :
    ({ c with current := some f } : Collector ε).Alike { d with current := some g } :=
  ⟨h.files, h.channel, congrArg some houtline⟩

end Collector

/-- Two hooks did the same: they reported the same, failed for the same reason or not at all, and
    leave collectors that are alike. -/
structure Step.Alike {ε : Type} (s t : Step (Collector ε)) : Prop where
  /-- The collectors that are left are alike. -/
  state : s.state.Alike t.state
  /-- The same findings were reported. -/
  findings : s.findings = t.findings
  /-- The outcome is the same. -/
  fault : s.fault = t.fault

namespace Collector

variable {ε : Type}

theorem Alike.ok {c d : Collector ε} (h : c.Alike d) : (Step.ok c).Alike (Step.ok d) :=
  ⟨h, rfl, rfl⟩

theorem Alike.fail {c d : Collector ε} (h : c.Alike d) (fault : Fault) :
    (Step.fail c fault).Alike (Step.fail d fault) :=
  ⟨h, rfl, rfl⟩

/-- Two collectors that are alike both visit a file, or neither does. -/
theorem Alike.isFileOpen {c d : Collector ε} (h : c.Alike d) : c.isFileOpen = d.isFileOpen := by
  have hsome := congrArg Option.isSome h.current
  rwa [Option.isSome_map, Option.isSome_map] at hsome

/-- A file begins in the same way for collectors that are alike. -/
theorem enterFile_alike (context : Context) {c d : Collector ε} (h : c.Alike d) :
    Logged.Alike Step.Alike (enterFile context c) (enterFile context d) := by
  have hvalue : Step.Alike (enterFile context c).value (enterFile context d).value := by
    rw [enterFile_value, enterFile_value]
    exact (h.visit (congrArg (fun files => (opened files context.path).outline) h.files)).ok
  refine ⟨?_, hvalue⟩
  -- What is logged depends on an open file and on the analysis set, which both share.
  unfold enterFile
  rw [← h.isFileOpen, ← h.files]
  cases c.isFileOpen with
  | true =>
      cases c.files.find? context.path with
      | none => rfl
      | some file => rfl
  | false =>
      cases c.files.find? context.path with
      | none => rfl
      | some file => rfl

/-- A token inside a function is saved by both or remarked on by both: whether it is code does not
    depend on the policy, and whether its span lies in the file does not either. -/
theorem takeToken_alike (context : Context) {c d : Collector ε} (h : c.Alike d)
    (depth : FunctionDepth) {a b : TokenBuffer} (hfile : a.file = b.file) (t : Token) :
    Logged.Alike Alike (takeToken context c ⟨depth, some a⟩ a t)
      (takeToken context d ⟨depth, some b⟩ b t) := by
  unfold takeToken
  by_cases hcode : t.IsCode
  · rcases exists_image c.policy hcode with ⟨first, hfirst⟩
    rcases exists_image d.policy hcode with ⟨second, hsecond⟩
    simp only [hfirst, hsecond, ← hfile]
    cases a.file.tokenSpan t with
    | ok span =>
        -- The buffers grow by different images, and stay buffers of the same file.
        exact Logged.Alike.pure (h.visit (congrArg (fun file => (depth, some file)) hfile))
    | error cause =>
        rw [← h.channel]
        refine (Logged.Alike.refl _).bind fun channel other hsame => ?_
        exact Logged.Alike.pure ⟨h.files, hsame, h.current⟩
  · have hnone (p : ImagePolicy) : p.image t = none := (image_eq_none_iff p t).mpr hcode
    simp only [hnone]
    exact Logged.Alike.pure h

/-- An event does the same to collectors that are alike. -/
theorem seeEvent_alike (e : Event) (context : Context) {c d : Collector ε} (h : c.Alike d) :
    Logged.Alike Step.Alike (seeEvent e context c) (seeEvent e context d) := by
  unfold seeEvent
  rcases h.current_cases with ⟨hc, hd⟩ | ⟨⟨depth, buffer⟩, ⟨depth', buffer'⟩, hc, hd, houtline⟩
  · rw [hc, hd]
    exact Logged.Alike.pure h.ok
  · -- Both files are as deep in functions, and both have a buffer or neither has.
    rw [hc, hd]
    rcases Prod.mk.inj houtline with ⟨hdepth, hfiles⟩
    simp only at hdepth hfiles
    subst hdepth
    have hmove (moved : FunctionDepth) : (Step.ok { c with current := some ⟨moved, buffer⟩ }).Alike
        (Step.ok { d with current := some ⟨moved, buffer'⟩ }) :=
      (h.visit (f := ⟨moved, buffer⟩) (g := ⟨moved, buffer'⟩)
        (congrArg (Prod.mk moved) hfiles)).ok
    cases e with
    | enter kind line =>
        by_cases hkind : kind = functionDefinition
        · simp only [if_pos hkind]
          exact Logged.Alike.pure (hmove depth.enter)
        · simp only [if_neg hkind]
          exact Logged.Alike.pure h.ok
    | leave kind =>
        by_cases hkind : kind = functionDefinition
        · simp only [if_pos hkind]
          cases depth.leave with
          | ok moved => exact Logged.Alike.pure (hmove moved)
          | error cause => exact Logged.Alike.pure (h.fail _)
        · simp only [if_neg hkind]
          exact Logged.Alike.pure h.ok
    | token t =>
        by_cases hinside : depth.isInside = true
        · simp only [if_pos hinside]
          cases buffer with
          | none =>
              rw [Option.map_none] at hfiles
              rw [Option.map_eq_none_iff.mp hfiles.symm]
              exact Logged.Alike.pure h.ok
          | some a =>
              -- The buffers may hold different images, but they are of one file.
              rw [Option.map_some] at hfiles
              rcases Option.map_eq_some_iff.mp hfiles.symm with ⟨b, hb, hfile⟩
              subst hb
              refine (takeToken_alike context h depth hfile.symm t).bind fun _ _ hthen => ?_
              exact Logged.Alike.pure hthen.ok
        · simp only [if_neg hinside]
          exact Logged.Alike.pure h.ok
    | comment text => exact Logged.Alike.pure h.ok

section Saving

variable {c d : Collector (List (SourceFile × List CloneToken))}

/-- The end of a file logs nothing when a list receives. -/
theorem records_leaveFile (context : Context)
    (c : Collector (List (SourceFile × List CloneToken))) : (leaveFile context c).records = [] := by
  unfold leaveFile
  cases c.current with
  | none => rfl
  | some file =>
      rcases file with ⟨⟨depth⟩, buffer⟩
      cases buffer with
      | none =>
          cases depth with
          | zero => rfl
          | succ n => rfl
      | some b =>
          cases depth with
          | zero => rfl
          | succ n => rfl

/-- A file ends in the same way for collectors that are alike. What they hand over may differ. -/
theorem leaveFile_alike (context : Context) (h : c.Alike d) :
    Logged.Alike Step.Alike (leaveFile context c) (leaveFile context d) := by
  refine ⟨(records_leaveFile context c).trans (records_leaveFile context d).symm, ?_⟩
  rcases h.current_cases with ⟨hc, hd⟩ | ⟨f, g, hc, hd, houtline⟩
  · rw [leaveFile_of_idle context hc, leaveFile_of_idle context hd]
    exact h.ok
  · -- Whether functions are still open is told by the depth, and that is the same.
    have hdepth : f.depth = g.depth := (Prod.mk.inj houtline).1
    rw [leaveFile_value context c f hc, leaveFile_value context d g hd, hdepth]
    exact ⟨⟨h.files, h.channel, rfl⟩, rfl, rfl⟩

/-- What the collector does at a call, with what it logs. -/
def reply {ε : Type} [Receiver ε] (c : Collector ε) : HookCall → Logged (Step (Collector ε))
  | .enterFile context => visitor.enterFile context c
  | .seeEvent context e => visitor.seeEvent e context c
  | .leaveFile context => visitor.leaveFile context c

/-- The log aside, it is the answer to the call. -/
theorem value_reply {ε : Type} [Receiver ε] (c : Collector ε) (call : HookCall) :
    (c.reply call).value = c.answer call := by
  cases call with
  | enterFile context => rfl
  | seeEvent context e => rfl
  | leaveFile context => rfl

/-- One call, whichever it is. -/
theorem reply_alike (h : c.Alike d) (call : HookCall) :
    Logged.Alike Step.Alike (c.reply call) (d.reply call) := by
  cases call with
  | enterFile context => exact enterFile_alike context h
  | seeEvent context e => exact seeEvent_alike e context h
  | leaveFile context => exact leaveFile_alike context h

/-- Several calls keep collectors alike, also after calls that failed. -/
theorem afterCalls_alike (h : c.Alike d) (calls : List HookCall) :
    (c.afterCalls calls).Alike (d.afterCalls calls) := by
  induction calls generalizing c d with
  | nil => exact h
  | cons call rest ih =>
      have hstep : (c.answer call).state.Alike (d.answer call).state := by
        rw [← value_reply, ← value_reply]
        exact (reply_alike h call).value.state
      exact ih hstep

end Saving

end Collector

/-- Two walks are at the same point: the context and the first fault are the same, and the
    collectors are alike. -/
structure Walk.Alike {ε : Type} (v w : Walk (Collector ε)) : Prop where
  /-- The collectors are alike. -/
  state : v.state.Alike w.state
  /-- The same was found. -/
  context : v.context = w.context
  /-- The first fault is the same. -/
  fault : v.fault = w.fault

namespace Walk

/-- Steps that are alike keep walks alike. -/
theorem Alike.after {ε : Type} {v w : Walk (Collector ε)} (h : v.Alike w)
    {s t : Step (Collector ε)} (hstep : s.Alike t) : (v.after s).Alike (w.after t) := by
  refine ⟨hstep.state, ?_, ?_⟩
  · rw [Walk.after, Walk.after, h.context, hstep.findings]
  · rw [Walk.after, Walk.after, h.fault, hstep.fault]

variable {v w : Walk (Collector (List (SourceFile × List CloneToken)))}

/-- A failure of a hook is logged for both walks or for none. -/
theorem event_alike (h : v.Alike w) (e : Event) :
    Logged.Alike Alike (event Collector.visitor v e) (event Collector.visitor w e) := by
  unfold event
  rw [← h.context]
  refine (Collector.seeEvent_alike e v.context h.state).bind fun s t hstep => ?_
  have hthen := h.after hstep
  -- Whether there is something to log is told by the fault, and it is logged with the fault.
  rw [← hstep.fault]
  cases s.fault with
  | none => exact Logged.Alike.pure hthen
  | some fault => exact (Logged.Alike.refl _).bind fun _ _ _ => Logged.Alike.pure hthen

theorem events_alike (h : v.Alike w) (es : List Event) :
    Logged.Alike Alike (events Collector.visitor v es) (events Collector.visitor w es) := by
  induction es generalizing v w with
  | nil => exact Logged.Alike.pure h
  | cons e rest ih => exact (event_alike h e).bind fun _ _ hthen => ih hthen

end Walk

/-- A whole walk logs the same, finds the same and fails for the same reason. -/
theorem walk_alike (unit : TranslationUnit) (context : Context)
    {c d : Collector (List (SourceFile × List CloneToken))} (h : c.Alike d) :
    Logged.Alike Walk.Alike (walk Collector.visitor unit context c)
      (walk Collector.visitor unit context d) := by
  unfold walk
  have hstart : (Walk.mk c context none).Alike ⟨d, context, none⟩ := ⟨h, rfl, rfl⟩
  have henter : Logged.Alike Walk.Alike
      (Walk.call ⟨c, context, none⟩ (Collector.visitor (ε := _)).enterFile)
      (Walk.call ⟨d, context, none⟩ (Collector.visitor (ε := _)).enterFile) :=
    (Collector.enterFile_alike context h).bind fun _ _ hstep =>
      Logged.Alike.pure (hstart.after hstep)
  have hleave (v w : Walk (Collector (List (SourceFile × List CloneToken)))) (hseen : v.Alike w) :
      Logged.Alike Walk.Alike (v.call Collector.visitor.leaveFile)
        (w.call Collector.visitor.leaveFile) := by
    unfold Walk.call
    rw [← hseen.context]
    exact (Collector.leaveFile_alike v.context hseen.state).bind fun _ _ hstep =>
      Logged.Alike.pure (hseen.after hstep)
  -- Whether the events are shown depends on how entering went, which is the same for both.
  refine henter.bind fun v w hentered => ?_
  rw [← hentered.fault]
  by_cases hfault : v.fault.isSome = true
  · rw [if_pos hfault, if_pos hfault]
    exact (Logged.Alike.pure hentered).bind hleave
  · rw [if_neg hfault, if_neg hfault]
    exact (Walk.events_alike hentered unit.events).bind hleave

namespace HookCall

/-- The calls of a walk over a unit by a visitor that never reports. -/
def ofWalk (unit : TranslationUnit) (context : Context) : List HookCall :=
  enterFile context :: (unit.events.map (seeEvent context) ++ [leaveFile context])

end HookCall

namespace Collector

variable {ε : Type}

/-- No event makes the collector report something. -/
theorem findings_seeEvent (e : Event) (context : Context) (c : Collector ε) :
    (seeEvent e context c).value.findings = [] := by
  cases hcurrent : c.current with
  | none =>
      rw [seeEvent_of_idle e context hcurrent]
      rfl
  | some file => rw [seeEvent_value e context c file hcurrent]

/-- The events of a walk are calls with one context, which is the one of the walk to its end. -/
theorem events_afterCalls [Receiver ε] (es : List Event) (w : Walk (Collector ε)) :
    (w.events visitor es).value.state = w.state.afterCalls (es.map (.seeEvent w.context)) ∧
      (w.events visitor es).value.context = w.context := by
  induction es generalizing w with
  | nil => exact ⟨rfl, rfl⟩
  | cons e rest ih =>
      -- The induction is over all walks, as the rest is seen from the state after the first event.
      have hcontext : (w.after (seeEvent e w.context w.state).value).context = w.context := by
        rw [Walk.after, findings_seeEvent, Context.report_nil]
      have hthen := ih (w.after (seeEvent e w.context w.state).value)
      rw [hcontext] at hthen
      rw [Walk.events, Logged.value_bind, Walk.event_value]
      exact hthen

/-- A walk is its calls: it leaves the collector in the state that they lead to. -/
theorem walk_afterCalls [Receiver ε] (unit : TranslationUnit) (context : Context)
    (c : Collector ε) :
    (walk visitor unit context c).value.state = c.afterCalls (HookCall.ofWalk unit context) := by
  have hentered : (Walk.call ⟨c, context, none⟩ (visitor (ε := ε)).enterFile).value
      = ⟨(c.answer (.enterFile context)).state, context, none⟩ := by
    have hstep : (visitor (ε := ε)).enterFile context c = enterFile context c := rfl
    have hanswer : c.answer (.enterFile context) = (enterFile context c).value := rfl
    rw [Walk.call_value, hanswer, hstep, enterFile_value, Walk.after, Step.ok, Context.report_nil]
    rfl
  have hseen := events_afterCalls unit.events ⟨(c.answer (.enterFile context)).state, context, none⟩
  -- A file that was entered without a fault shows all its events.
  simp only [walk_stages, hentered, Option.isSome_none, Bool.false_eq_true, if_false,
    Walk.call_value]
  have hcalls : c.afterCalls (HookCall.ofWalk unit context)
      = (((c.answer (.enterFile context)).state.afterCalls
          (unit.events.map (.seeEvent context))).answer (.leaveFile context)).state :=
    afterCalls_concat c (.enterFile context :: unit.events.map (.seeEvent context))
      (.leaveFile context)
  rw [hcalls, ← hseen.1, hseen.2]
  rfl

end Collector

/-- Policies that agree on ignoring a sort of token give its tokens the same image. -/
theorem ImagePolicy.image_congr {p q : ImagePolicy} {t : Token}
    (h : p.ignores t.kind = q.ignores t.kind) : p.image t = q.image t := by
  unfold image
  rw [h]

/-- What one token is saved as under two policies, if it is saved. -/
def cloneTokenPair? (p q : ImagePolicy) (file : SourceFile) (t : Token) :
    Option (CloneToken × CloneToken) :=
  (cloneTokenOf? p file t).bind fun k => (cloneTokenOf? q file t).map fun l => (k, l)

/-- A token is saved under both of two policies or under neither. -/
theorem map_cloneTokenPair? (p q : ImagePolicy) (file : SourceFile) (t : Token) :
    (cloneTokenPair? p q file t).map Prod.fst = cloneTokenOf? p file t ∧
      (cloneTokenPair? p q file t).map Prod.snd = cloneTokenOf? q file t := by
  by_cases hcode : t.IsCode
  · -- Both policies give an image, so the file alone decides.
    rcases exists_image p hcode with ⟨first, hfirst⟩
    rcases exists_image q hcode with ⟨second, hsecond⟩
    unfold cloneTokenPair? cloneTokenOf?
    rw [hfirst, hsecond]
    cases file.tokenSpan t with
    | ok span => exact ⟨rfl, rfl⟩
    | error cause => exact ⟨rfl, rfl⟩
  · have hnone (r : ImagePolicy) : cloneTokenOf? r file t = none :=
      cloneTokenOf?_of_not_code r file hcode
    rw [cloneTokenPair?, hnone p, hnone q]
    exact ⟨rfl, rfl⟩

/-- One token saved under two policies. It stands at one place, with the length of its text, and
    compares as what each policy says; a difference is due to a switch. -/
structure Token.SavedAs (p q : ImagePolicy) (f : SourceFile) (t : Token)
    (pair : CloneToken × CloneToken) : Prop where
  /-- The place is that of the token, and as long as its text. -/
  liesIn : pair.1.LiesIn f t
  /-- The place is the same. -/
  span : pair.1.span = pair.2.span
  /-- The first image is that of the first policy. -/
  first : p.image t = some pair.1.image
  /-- The second image is that of the second policy. -/
  second : q.image t = some pair.2.image
  /-- The images differ only if the policies do, on tokens of this sort. -/
  differ : pair.1.image ≠ pair.2.image → p.ignores t.kind ≠ q.ignores t.kind

theorem savedAs_of_cloneTokenPair? {p q : ImagePolicy} {f : SourceFile} {t : Token}
    {pair : CloneToken × CloneToken} (h : cloneTokenPair? p q f t = some pair) :
    t.SavedAs p q f pair := by
  rcases Option.bind_eq_some_iff.mp h with ⟨k, hk, hpair⟩
  rcases Option.map_eq_some_iff.mp hpair with ⟨l, hl, rfl⟩
  rcases cloneTokenOf?_eq_some_iff.mp hk with ⟨hspan, hfirst⟩
  rcases cloneTokenOf?_eq_some_iff.mp hl with ⟨hspan', hsecond⟩
  have hsame : k.span = l.span := Except.ok.inj (hspan.symm.trans hspan')
  refine ⟨liesIn_of_cloneTokenOf? hk, hsame, hfirst, hsecond, fun hdiffer hagree => ?_⟩
  -- Policies that agree on the sort of the token would have given it one image.
  have himages := ImagePolicy.image_congr hagree
  rw [hfirst, hsecond] at himages
  exact hdiffer (Option.some.inj himages)

/-- Two saves are those of one file under two policies: the same file, the same spans in the same
    order, and at each index one token of the calls with its two images. -/
structure SavedAlike (p q : ImagePolicy) (calls : List HookCall)
    (first second : SourceFile × List CloneToken) : Prop where
  /-- The file is the same. -/
  file : first.1 = second.1
  /-- The spans are the same, one by one. -/
  spans : first.2.map CloneToken.span = second.2.map CloneToken.span
  /-- Each pair of clone tokens is made of one token. -/
  tokens : ∃ ts, ts.Sublist (HookCall.tokensShown calls) ∧
    List.Forall₂ (Token.SavedAs p q first.1) ts (first.2.zip second.2)

/-- The clone tokens of the same tokens under two policies go together one by one. -/
theorem savedAlike_of_tokens (p q : ImagePolicy) (file : SourceFile) {calls : List HookCall}
    {tokens : List Token} (htokens : tokens.Sublist (HookCall.tokensShown calls)) :
    SavedAlike p q calls (file, tokens.filterMap (cloneTokenOf? p file))
      (file, tokens.filterMap (cloneTokenOf? q file)) := by
  -- The two lists are the two sides of one list of pairs, made of the same tokens.
  let pairs := tokens.filterMap (cloneTokenPair? p q file)
  have hfirst : tokens.filterMap (cloneTokenOf? p file) = pairs.map Prod.fst := by
    rw [List.map_filterMap]
    exact List.filterMap_congr fun t _ => (map_cloneTokenPair? p q file t).1.symm
  have hsecond : tokens.filterMap (cloneTokenOf? q file) = pairs.map Prod.snd := by
    rw [List.map_filterMap]
    exact List.filterMap_congr fun t _ => (map_cloneTokenPair? p q file t).2.symm
  have hstep (t : Token) (pair : CloneToken × CloneToken)
      (h : cloneTokenPair? p q file t = some pair) : t.SavedAs p q file pair :=
    savedAs_of_cloneTokenPair? h
  rcases exists_sublist_of_filterMap hstep tokens with ⟨ts, hts, hmatch⟩
  rw [hfirst, hsecond]
  refine ⟨rfl, ?_, ts, hts.trans htokens, ?_⟩
  · rw [List.map_map, List.map_map]
    refine List.map_congr_left fun pair hpair => ?_
    rcases List.mem_filterMap.mp hpair with ⟨t, _, ht⟩
    exact (savedAs_of_cloneTokenPair? ht).span
  · rw [List.zip_map', List.map_id'' fun _ => rfl]
    exact hmatch

/-- One call hands over the same file under two policies, with clone tokens of the same tokens. -/
theorem HookCall.delivery_alike (p q : ImagePolicy) (files : AnalysisSet)
    {before calls : List HookCall} (hbefore : before.Sublist calls) (call : HookCall) :
    Option.Rel (SavedAlike p q calls) (delivery? p files before call)
      (delivery? q files before call) := by
  cases call with
  | enterFile context => exact .none
  | seeEvent context e => exact .none
  | leaveFile context =>
      unfold delivery?
      cases openPath? before with
      | none => exact .none
      | some path =>
          rw [Option.bind_some, Option.bind_some]
          cases files.find? path with
          | none => exact .none
          | some file =>
              have htokens := (tokensInside_eventsSince before).trans
                ((hbefore.filterMap event?).filterMap Event.token?)
              exact .some (savedAlike_of_tokens p q file htokens)

/-- Several calls hand over the same files in the same order. -/
theorem HookCall.deliveries_alike (p q : ImagePolicy) (files : AnalysisSet)
    (calls : List HookCall) :
    List.Forall₂ (SavedAlike p q calls) (deliveries p files calls) (deliveries q files calls) := by
  have hindices : List.Forall₂ Eq (List.range calls.length) (List.range calls.length) :=
    List.forall₂_same.mpr fun _ _ => rfl
  refine List.rel_filterMap (fun i j hij => ?_) hindices
  subst hij
  cases calls[i]? with
  | none => exact .none
  | some call => exact delivery_alike p q files (List.take_sublist i calls) call

/-- Two collectors that differ in their policies alone are taken through the same calls of hooks,
    in any order. Whatever hook is called next does the same in both: it logs and reports the
    same, and fails for the same reason or not at all. So does a whole walk, which leaves the
    collectors in the states that its calls lead to. The same remarks were passed on. The same
    files were saved in the same order, with the same spans one by one, and each pair of clone
    tokens is made of one token: it stands where the token does, as long as its text, and if its
    images differ, the two policies differ in whether they ignore tokens of that sort. -/
theorem policies_change_images_alone (p q : ImagePolicy) (files : AnalysisSet)
    (channel : NoteChannel) (calls : List HookCall) :
    let first := (Collector.mk p files ([] : List (SourceFile × List CloneToken)) channel
      none).afterCalls calls
    let second := (Collector.mk q files ([] : List (SourceFile × List CloneToken)) channel
      none).afterCalls calls
    (∀ call,
      (first.reply call).records = (second.reply call).records ∧
      (first.reply call).value.findings = (second.reply call).value.findings ∧
      (first.reply call).value.fault = (second.reply call).value.fault) ∧
    (∀ unit context,
      let firstWalk := walk Collector.visitor unit context first
      let secondWalk := walk Collector.visitor unit context second
      firstWalk.records = secondWalk.records ∧
      firstWalk.value.context = secondWalk.value.context ∧
      firstWalk.value.fault = secondWalk.value.fault ∧
      firstWalk.value.state = first.afterCalls (HookCall.ofWalk unit context) ∧
      secondWalk.value.state = second.afterCalls (HookCall.ofWalk unit context)) ∧
    first.channel = second.channel ∧
    List.Forall₂ (SavedAlike p q calls) first.receiver second.receiver := by
  intro first second
  have hstart : (Collector.mk p files ([] : List (SourceFile × List CloneToken)) channel
      none).Alike ⟨q, files, [], channel, none⟩ :=
    ⟨rfl, rfl, rfl⟩
  have halike : first.Alike second := Collector.afterCalls_alike hstart calls
  refine ⟨fun call => ?_, fun unit context => ?_, halike.channel, ?_⟩
  · have hreply := Collector.reply_alike halike call
    exact ⟨hreply.records, hreply.value.findings, hreply.value.fault⟩
  · have hwalk := walk_alike unit context halike
    exact ⟨hwalk.records, hwalk.value.context, hwalk.value.fault,
      Collector.walk_afterCalls unit context first, Collector.walk_afterCalls unit context second⟩
  · -- What was saved is known from the calls, so it is compared there.
    have hfirst : first.receiver = HookCall.deliveries p files calls := by
      rw [(Collector.reflects_afterCalls rfl calls).receiver, receiveAll_list, List.nil_append]
    have hsecond : second.receiver = HookCall.deliveries q files calls := by
      rw [(Collector.reflects_afterCalls rfl calls).receiver, receiveAll_list, List.nil_append]
    rw [hfirst, hsecond]
    exact HookCall.deliveries_alike p q files calls

end CloneScan
