import CloneScan.Proofs.Collector.TokenFate
import CloneScan.Proofs.Event.Depth
import CloneScan.Visitor.Walk
import Mathlib.Data.List.Basic

/-!
# Runs of the Clone Collector

What the collector makes of a list of events, said in one go. The collector takes its events
one at a time and carries a depth, a buffer and remarks along; here each of the three is a
function of the whole list.

The tokens inside functions are known from the depth alone. Each of them either adds a clone
token to the buffer or posts a remark, or it is not code and does neither, and nothing that
came before has a part in it. So the buffer and the remarks after any list are `cloneTokenOf?`
and `noteOf?` taken over the tokens inside.

`events_value` is the run lemma, from the step lemma `seeEvent_value` by induction on the list.
`walk_value` adds the first hook and the last one and holds for every unit, every context and
every collector, one with an unfinished file included.

## Main definitions

* `TokenBuffer.addAll`, `NoteChannel.keep`: Several tokens or remarks at once.
* `OpenFile.see`: The file being visited after several events.
* `OpenFile.notes`: The remarks several events give rise to.

## Theorems

* `takeToken_value`: What a token inside a function does to the collector.
* `seeEvent_value`: One event.
* `events_value`: Any list of events.
* `handOver_opened`, `notes_opened`: What is handed over and remarked on for a whole file.
* `walk_value`: A whole walk.
-/

namespace CloneScan

/-- What is read off the places of a list that grows by one: what was read off the others, if they
    read as before, and then what is read off the new one. -/
theorem filterMap_range_concat {α β : Type} (read : List α → Nat → Option β) (l : List α) (a : α)
    (h : ∀ i < l.length, read (l ++ [a]) i = read l i) :
    (List.range (l ++ [a]).length).filterMap (read (l ++ [a]))
      = (List.range l.length).filterMap (read l) ++ (read (l ++ [a]) l.length).toList := by
  have hearlier : (List.range l.length).filterMap (read (l ++ [a]))
      = (List.range l.length).filterMap (read l) :=
    List.filterMap_congr fun i hi => h i (List.mem_range.mp hi)
  rw [List.length_append, List.length_singleton, List.range_succ, List.filterMap_append, hearlier,
    List.filterMap_eq_flatMap_toList (l := [l.length]), List.flatMap_singleton]

namespace TokenBuffer

/-- Adds several tokens, in order. -/
def addAll (b : TokenBuffer) (ts : List CloneToken) : TokenBuffer :=
  { b with newestFirst := ts.reverse ++ b.newestFirst }

theorem tokens_addAll (b : TokenBuffer) (ts : List CloneToken) :
    (b.addAll ts).tokens = b.tokens ++ ts := by
  simp only [tokens, addAll, List.reverse_append, List.reverse_reverse]

theorem addAll_append (b : TokenBuffer) (first second : List CloneToken) :
    b.addAll (first ++ second) = (b.addAll first).addAll second := by
  simp only [addAll, List.reverse_append, List.append_assoc]

end TokenBuffer

namespace NoteChannel

/-- Where remarks go, after some were passed on. -/
def keep (c : NoteChannel) (ns : List Note) : NoteChannel :=
  match c with
  | logged => logged
  | kept notes => kept (notes ++ ns)

theorem keep_nil (c : NoteChannel) : c.keep [] = c := by
  cases c with
  | logged => rfl
  | kept notes => simp only [keep, List.append_nil]

theorem keep_append (c : NoteChannel) (first second : List Note) :
    c.keep (first ++ second) = (c.keep first).keep second := by
  cases c with
  | logged => rfl
  | kept notes => simp only [keep, List.append_assoc]

theorem post_value (c : NoteChannel) (n : Note) : (c.post n).value = c.keep [n] := by
  cases c with
  | logged => rfl
  | kept notes => rfl

end NoteChannel

namespace OpenFile

/-- The file being visited, after several events. A file outside the analysis set is followed
    for its functions alone. -/
def see (policy : ImagePolicy) (f : OpenFile) (es : List Event) : OpenFile :=
  ⟨f.depth.afterAll es,
    f.buffer.map fun b =>
      b.addAll ((f.depth.tokensInside es).filterMap (cloneTokenOf? policy b.file))⟩

/-- The remarks that several events give rise to. -/
def notes (policy : ImagePolicy) (path : Path) (f : OpenFile) (es : List Event) : List Note :=
  match f.buffer with
  | none => []
  | some b => (f.depth.tokensInside es).filterMap (noteOf? policy b.file path)

theorem see_nil (policy : ImagePolicy) (f : OpenFile) : f.see policy [] = f := by
  rcases f with ⟨depth, buffer⟩
  cases buffer with
  | none => rfl
  | some b => rfl

theorem notes_nil (policy : ImagePolicy) (path : Path) (f : OpenFile) :
    f.notes policy path [] = [] := by
  rcases f with ⟨depth, buffer⟩
  cases buffer with
  | none => rfl
  | some b => rfl

/-- Seeing a list is seeing its first part and then, from there, the rest. -/
theorem see_append (policy : ImagePolicy) (f : OpenFile) (first second : List Event) :
    f.see policy (first ++ second) = (f.see policy first).see policy second := by
  rcases f with ⟨depth, buffer⟩
  simp only [see, FunctionDepth.afterAll_append, FunctionDepth.tokensInside_append,
    List.filterMap_append]
  cases buffer with
  | none => rfl
  | some b =>
      simp only [Option.map_some, TokenBuffer.addAll_append]
      rfl

theorem notes_append (policy : ImagePolicy) (path : Path) (f : OpenFile)
    (first second : List Event) :
    f.notes policy path (first ++ second)
      = f.notes policy path first ++ (f.see policy first).notes policy path second := by
  rcases f with ⟨depth, buffer⟩
  cases buffer with
  | none => rfl
  | some b =>
      simp only [notes, FunctionDepth.tokensInside_append, List.filterMap_append]
      rfl

/-- An event that is no token moves the depth and nothing else. -/
theorem see_of_no_token (policy : ImagePolicy) (path : Path) (f : OpenFile) {e : Event}
    (h : e.token? = none) :
    f.see policy [e] = { f with depth := f.depth.after e } ∧ f.notes policy path [e] = [] := by
  rcases f with ⟨depth, buffer⟩
  cases buffer with
  | none => exact ⟨rfl, rfl⟩
  | some b =>
      simp only [see, notes, FunctionDepth.tokensInside_of_no_token depth h, List.filterMap_nil,
        and_true]
      rfl

/-- A token outside every function is passed over, and so is one of a file outside the analysis
    set. -/
theorem see_token_ignored (policy : ImagePolicy) (path : Path) (f : OpenFile) (t : Token)
    (h : f.depth.isInside = false ∨ f.buffer = none) :
    f.see policy [.token t] = f ∧ f.notes policy path [.token t] = [] := by
  rcases f with ⟨depth, buffer⟩
  cases buffer with
  | none => exact ⟨rfl, rfl⟩
  | some b =>
      have hnone : depth.tokensInside [.token t] = [] := by
        simp only [reduceCtorEq, or_false] at h
        simp only [FunctionDepth.tokensInside, FunctionDepth.tokenInside, h, Bool.false_eq_true,
          if_false, List.append_nil]
      simp only [see, notes, hnone, List.filterMap_nil, and_true]
      rfl

/-- A token inside a function becomes what `cloneTokenOf?` and `noteOf?` make of it. -/
theorem see_token_inside (policy : ImagePolicy) (path : Path) (f : OpenFile) (b : TokenBuffer)
    (t : Token) (hbuffer : f.buffer = some b) (h : f.depth.isInside = true) :
    f.see policy [.token t]
        = { f with buffer := some (b.addAll (cloneTokenOf? policy b.file t).toList) } ∧
      f.notes policy path [.token t] = (noteOf? policy b.file path t).toList := by
  rcases f with ⟨depth, buffer⟩
  simp only at hbuffer h
  subst hbuffer
  have hone : depth.tokensInside [.token t] = [t] := by
    simp only [FunctionDepth.tokensInside, FunctionDepth.tokenInside, h, if_true, Event.token?,
      Option.toList_some, List.append_nil]
  simp only [see, notes, hone, Option.map_some]
  refine ⟨?_, ?_⟩
  · cases hclone : cloneTokenOf? policy b.file t with
    | none => simp only [List.filterMap_cons_none hclone]; rfl
    | some k => simp only [List.filterMap_cons_some hclone]; rfl
  · cases hnote : noteOf? policy b.file path t with
    | none => simp only [List.filterMap_cons_none hnote]; rfl
    | some n => simp only [List.filterMap_cons_some hnote]; rfl

end OpenFile

namespace Collector

variable {ε : Type}

/-- The fault of a refused exit, if there was one. -/
def exitFault (path : Path) (refused : Bool) : Option Fault :=
  if refused then some (.unbalanced path .unmatchedExit) else none

/-- Of two refused exits the first one counts. -/
theorem exitFault_or (path : Path) (first second : Bool) :
    (exitFault path first <|> exitFault path second) = exitFault path (first || second) := by
  cases first with
  | true => rfl
  | false => rfl

/-- A token inside a function ends up in the buffer, in a remark or nowhere. -/
theorem takeToken_value (context : Context) (c : Collector ε) (file : OpenFile)
    (b : TokenBuffer) (t : Token) (hcurrent : c.current = some file)
    (hbuffer : file.buffer = some b) :
    (takeToken context c file b t).value =
      { c with
        current := some { file with
          buffer := some (b.addAll (cloneTokenOf? c.policy b.file t).toList) }
        channel := c.channel.keep (noteOf? c.policy b.file context.path t).toList } := by
  have hsame : { file with buffer := some b } = file := by
    rw [← hbuffer]
  have hempty : b.addAll [] = b := rfl
  -- The collector asks for the image first and for the span second, and so does the proof.
  unfold takeToken cloneTokenOf? noteOf?
  cases himage : c.policy.image t with
  | none =>
      simp only [Logged.value_pure, Option.toList_none, hempty, hsame, NoteChannel.keep_nil,
        ← hcurrent]
  | some image =>
      cases hspan : b.file.tokenSpan t with
      | ok span =>
          simp only [Logged.value_pure, Option.toList_none, Option.toList_some,
            NoteChannel.keep_nil]
          rfl
      | error cause =>
          simp only [Logged.value_bind, Logged.value_pure, NoteChannel.post_value,
            Option.toList_none, Option.toList_some, hempty, hsame, ← hcurrent]

theorem with_nothing_added (c : Collector ε) (file : OpenFile) (hcurrent : c.current = some file) :
    { c with current := some file, channel := c.channel.keep [] } = c := by
  rw [NoteChannel.keep_nil, ← hcurrent]

/-- What the collector does when a node closes: it takes the depth down, or refuses the exit and
    keeps everything. -/
theorem seeEvent_leave_value (kind : String) (context : Context) (c : Collector ε)
    (file : OpenFile) (hcurrent : c.current = some file) :
    (seeEvent (.leave kind) context c).value =
      ⟨{ c with current := some { file with depth := file.depth.after (.leave kind) } }, [],
        exitFault context.path (file.depth.refuses (.leave kind))⟩ := by
  unfold seeEvent
  simp only [hcurrent]
  by_cases hkind : kind = functionDefinition
  · subst hkind
    rw [FunctionDepth.after_leave_function, FunctionDepth.refuses_leave_function, if_pos rfl]
    by_cases hzero : file.depth.depth = 0
    · -- The exit is refused, and a depth of zero stays one.
      have hsame : { file with depth := (⟨file.depth.depth - 1⟩ : FunctionDepth) } = file := by
        rw [hzero, Nat.zero_sub, ← hzero]
      rw [hsame, ← hcurrent, hzero, FunctionDepth.leave_of_refuses hzero]
      rfl
    · rw [FunctionDepth.leave_of_accepts hzero, beq_false_of_ne hzero]
      rfl
  · rw [FunctionDepth.after_leave_other _ hkind, FunctionDepth.refuses_leave_other _ hkind,
      if_neg hkind, ← hcurrent]
    rfl

/-- What the collector does with a token: it passes it over, or it takes it. -/
theorem seeEvent_token_value (t : Token) (context : Context) (c : Collector ε) (file : OpenFile)
    (hcurrent : c.current = some file) :
    (seeEvent (.token t) context c).value =
      .ok { c with
        current := some (file.see c.policy [.token t])
        channel := c.channel.keep (file.notes c.policy context.path [.token t]) } := by
  unfold seeEvent
  simp only [hcurrent]
  by_cases hinside : file.depth.isInside = true
  · cases hbuffer : file.buffer with
    | none =>
        have hsee := OpenFile.see_token_ignored c.policy context.path file t (Or.inr hbuffer)
        rw [hsee.1, hsee.2, with_nothing_added c file hcurrent, if_pos hinside]
        rfl
    | some b =>
        have hsee := OpenFile.see_token_inside c.policy context.path file b t hbuffer hinside
        rw [hsee.1, hsee.2, if_pos hinside]
        simp only [Logged.value_bind, Logged.value_pure,
          takeToken_value context c file b t hcurrent hbuffer]
  · have houtside : file.depth.isInside = false := Bool.not_eq_true _ ▸ hinside
    have hsee := OpenFile.see_token_ignored c.policy context.path file t (Or.inl houtside)
    rw [hsee.1, hsee.2, with_nothing_added c file hcurrent, if_neg hinside]
    rfl

/-- One event of a file that is open. Nothing but the file and the remarks changes, nothing is
    reported, and the only fault is a refused exit. -/
theorem seeEvent_value (e : Event) (context : Context) (c : Collector ε) (file : OpenFile)
    (hcurrent : c.current = some file) :
    (seeEvent e context c).value =
      ⟨{ c with
          current := some (file.see c.policy [e])
          channel := c.channel.keep (file.notes c.policy context.path [e]) }, [],
        exitFault context.path (file.depth.refuses e)⟩ := by
  cases e with
  | enter kind line =>
      have hsee := OpenFile.see_of_no_token c.policy context.path file
        (show (Event.enter kind line).token? = none from rfl)
      rw [hsee.1, hsee.2, NoteChannel.keep_nil]
      unfold seeEvent
      simp only [hcurrent]
      by_cases hkind : kind = functionDefinition
      · subst hkind
        rw [FunctionDepth.after_enter_function, if_pos rfl]
        rfl
      · rw [FunctionDepth.after_enter_other _ line hkind, if_neg hkind, ← hcurrent]
        rfl
  | leave kind =>
      have hsee := OpenFile.see_of_no_token c.policy context.path file
        (show (Event.leave kind).token? = none from rfl)
      rw [hsee.1, hsee.2, NoteChannel.keep_nil]
      exact seeEvent_leave_value kind context c file hcurrent
  | token t => exact seeEvent_token_value t context c file hcurrent
  | comment text =>
      have hsee := OpenFile.see_of_no_token c.policy context.path file
        (show (Event.comment text).token? = none from rfl)
      have hsame : { file with depth := file.depth.after (.comment text) } = file := rfl
      rw [hsee.1, hsee.2, hsame, with_nothing_added c file hcurrent]
      unfold seeEvent
      simp only [hcurrent]
      rfl

/-- Any list of events, seen by a collector with an open file. The first fault of the walk is
    kept, and a refused exit is one if nothing failed before. -/
theorem events_value [Receiver ε] (es : List Event) (w : Walk (Collector ε)) (file : OpenFile)
    (hcurrent : w.state.current = some file) :
    (Walk.events visitor w es).value =
      ⟨{ w.state with
          current := some (file.see w.state.policy es)
          channel := w.state.channel.keep (file.notes w.state.policy w.context.path es) },
        w.context, w.fault <|> exitFault w.context.path (file.depth.refusesIn es)⟩ := by
  induction es generalizing w file with
  | nil =>
      rw [OpenFile.see_nil, OpenFile.notes_nil, with_nothing_added _ _ hcurrent]
      have hfault : (w.fault <|> none) = w.fault := by
        cases w.fault with
        | none => rfl
        | some fault => rfl
      exact congrArg (Walk.mk w.state w.context) hfault.symm
  | cons e rest ih =>
      -- The first event leads to the state that the rest is seen from.
      have hstep := seeEvent_value e w.context w.state file hcurrent
      have hsee := OpenFile.see_append w.state.policy file [e] rest
      have hnotes := OpenFile.notes_append w.state.policy w.context.path file [e] rest
      rw [List.singleton_append] at hsee hnotes
      rw [Walk.events, Logged.value_bind, Walk.event_value]
      have hhook : (visitor : Visitor (Collector ε)).seeEvent e w.context w.state
          = seeEvent e w.context w.state := rfl
      rw [hhook, hstep, Walk.after, Context.report_nil, ih _ _ rfl, hsee, hnotes,
        NoteChannel.keep_append]
      -- What is left are the faults, of which the earliest counts on both sides.
      congr 1
      rw [FunctionDepth.refusesIn, ← exitFault_or]
      cases w.fault with
      | none => rfl
      | some fault => rfl

/-- The file a collector has open once it entered the file at a path. -/
def opened (files : AnalysisSet) (path : Path) : OpenFile :=
  ⟨.outside, (files.find? path).map TokenBuffer.onFile⟩

/-- Entering a file opens it from nothing, whatever was open before. -/
theorem enterFile_value (context : Context) (c : Collector ε) :
    (enterFile context c).value = .ok { c with current := some (opened c.files context.path) } := by
  unfold enterFile opened
  cases c.isFileOpen with
  | true =>
      cases c.files.find? context.path with
      | none => rfl
      | some file => rfl
  | false =>
      cases c.files.find? context.path with
      | none => rfl
      | some file => rfl

/-- The receiver after the tokens of a file were handed over to it, if the file has any. -/
def handOver [Receiver ε] (buffer : Option TokenBuffer) (receiver : ε) : ε :=
  match buffer with
  | none => receiver
  | some b => (Receiver.save b.file b.tokens receiver).value

/-- What is handed over for a file, from its beginning on: nothing for one outside the analysis
    set, and for any other the clone tokens of its events. -/
theorem handOver_opened [Receiver ε] (policy : ImagePolicy) (files : AnalysisSet) (path : Path)
    (es : List Event) (receiver : ε) :
    handOver ((opened files path).see policy es).buffer receiver
      = match files.find? path with
        | none => receiver
        | some file =>
          (Receiver.save file
            ((FunctionDepth.outside.tokensInside es).filterMap (cloneTokenOf? policy file))
            receiver).value := by
  cases hfile : files.find? path with
  | none => simp only [opened, OpenFile.see, hfile, Option.map_none, handOver]
  | some file =>
      simp only [opened, OpenFile.see, hfile, Option.map_some, handOver,
        TokenBuffer.tokens_addAll, TokenBuffer.tokens_onFile, List.nil_append]
      rfl

/-- The remarks about a file, from its beginning on. -/
theorem notes_opened (policy : ImagePolicy) (files : AnalysisSet) (path : Path)
    (es : List Event) :
    (opened files path).notes policy path es
      = match files.find? path with
        | none => []
        | some file =>
          (FunctionDepth.outside.tokensInside es).filterMap (noteOf? policy file path) := by
  cases hfile : files.find? path with
  | none => simp only [opened, OpenFile.notes, hfile, Option.map_none]
  | some file =>
      simp only [opened, OpenFile.notes, hfile, Option.map_some]
      rfl

/-- The fault of a file that ends inside functions, if it does. -/
def endFault (path : Path) (d : FunctionDepth) : Option Fault :=
  if d.depth = 0 then none else some (.unbalanced path (.stillOpen d.depth))

/-- Leaving a file hands its tokens over and forgets it, also when the file ends inside
    functions. -/
theorem leaveFile_value [Receiver ε] (context : Context) (c : Collector ε) (file : OpenFile)
    (hcurrent : c.current = some file) :
    (leaveFile context c).value =
      ⟨{ c with receiver := handOver file.buffer c.receiver, current := none }, [],
        endFault context.path file.depth⟩ := by
  rcases file with ⟨⟨depth⟩, buffer⟩
  unfold leaveFile
  simp only [hcurrent]
  cases buffer with
  | none =>
      cases depth with
      | zero => rfl
      | succ n => rfl
  | some b =>
      cases depth with
      | zero => rfl
      | succ n => rfl

/-- A whole walk of the collector. The tokens are handed over whatever the functions do, and the
    first refused exit takes precedence over functions that are still open at the end. -/
theorem walk_value [Receiver ε] (unit : TranslationUnit) (context : Context) (c : Collector ε) :
    (walk visitor unit context c).value =
      ⟨{ c with
          receiver :=
            handOver ((opened c.files context.path).see c.policy unit.events).buffer c.receiver
          channel := c.channel.keep
            ((opened c.files context.path).notes c.policy context.path unit.events)
          current := none },
        context,
        exitFault context.path (FunctionDepth.outside.refusesIn unit.events) <|>
          endFault context.path (FunctionDepth.outside.afterAll unit.events)⟩ := by
  have henter : (Walk.call ⟨c, context, none⟩ (visitor : Visitor (Collector ε)).enterFile).value
      = ⟨{ c with current := some (opened c.files context.path) }, context, none⟩ := by
    have hhook : (visitor : Visitor (Collector ε)).enterFile context c = enterFile context c := rfl
    rw [Walk.call_value, hhook, enterFile_value, Walk.after, Step.ok, Context.report_nil]
    rfl
  -- Entering never fails, so every event is seen; leaving forgets what was open.
  have hevents := events_value unit.events
    ⟨{ c with current := some (opened c.files context.path) }, context, none⟩ _ rfl
  have hleave := leaveFile_value context
    { c with
      current := some ((opened c.files context.path).see c.policy unit.events)
      channel := c.channel.keep
        ((opened c.files context.path).notes c.policy context.path unit.events) } _ rfl
  have hhook : (visitor : Visitor (Collector ε)).leaveFile = leaveFile := rfl
  simp only [walk_stages, henter, Option.isSome_none, Bool.false_eq_true, if_false, hevents,
    Walk.call_value, hhook, hleave, Walk.after, Context.report_nil]
  rfl

end Collector

end CloneScan
