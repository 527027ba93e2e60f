import CloneScan.Proofs.Collector.Run
import Mathlib.Data.List.DropRight

/-!
# Hook Calls in Any Order

A walk calls the hooks of the collector in their proper order, but nothing keeps another caller
from leaving a file twice, from beginning one inside another or from showing events when no
file is open. Here the hooks are called in any order at all, each with a context of its own,
and what the receiver gets is said from the list of calls alone.

Read from its end, a list of calls is first some events and then a call that began or ended a
file. That call decides whether a file is open, `openPath?`, and the events after it are all
that is known of the file, `eventsSince`. The collector keeps neither list. It keeps a depth
and a buffer, and `Collector.Reflects` says that these are what the two lists determine. A
call that fails changes the state as well, so the runs go on after a failure.

## Main definitions

* `HookCall`: A call of a hook.
* `HookCall.openPath?`, `HookCall.eventsSince`: The open file and its events, by the calls alone.
* `HookCall.deliveries`: What several calls have handed over, by the calls alone.
* `Collector.answer`, `Collector.afterCalls`: What the collector does at one call and at several.
* `Collector.Reflects`: A state is the one that the calls determine.

## Theorems

* `HookCall.deliveries_concat`: One call more hands over at most one list.
* `Collector.Reflects.answer`: A call keeps the state in step with the list.
* `Collector.reflects_afterCalls`: So do several.
* `saves_of_hook_calls`: What the receiver gets, and what the hooks do to an open file.
-/

namespace CloneScan

/-- A call of a hook of the collector. -/
inductive HookCall where
  /-- A file begins. -/
  | enterFile (context : Context)
  /-- An event is shown. -/
  | seeEvent (context : Context) (e : Event)
  /-- A file ends. -/
  | leaveFile (context : Context)
  deriving Repr, DecidableEq

namespace HookCall

/-- The event of a call that shows one. -/
def event? : HookCall → Option Event
  | seeEvent _ e => some e
  | enterFile _ | leaveFile _ => none

/-- The call shows an event. -/
def showsEvent (call : HookCall) : Bool :=
  call.event?.isSome

/-- The path of the file that is open after several calls. The most recent call that shows no
    event has begun it. -/
def openPath? (calls : List HookCall) : Option Path :=
  match (calls.rdropWhile showsEvent).getLast? with
  | some (enterFile context) => some context.path
  | _ => none

/-- The events that were shown since the most recent call that shows none. -/
def eventsSince (calls : List HookCall) : List Event :=
  (calls.rtakeWhile showsEvent).filterMap event?

/-- What a call hands over when it comes after several others. Only the end of an open file
    under analysis hands something over: the clone tokens of the events since it began. -/
def delivery? (policy : ImagePolicy) (files : AnalysisSet) (before : List HookCall) :
    HookCall → Option (SourceFile × List CloneToken)
  | leaveFile _ =>
    (openPath? before).bind fun path => (files.find? path).map fun file =>
      (file, (FunctionDepth.outside.tokensInside (eventsSince before)).filterMap
        (cloneTokenOf? policy file))
  | enterFile _ | seeEvent _ _ => none

/-- What several calls hand over, in order. -/
def deliveries (policy : ImagePolicy) (files : AnalysisSet) (calls : List HookCall) :
    List (SourceFile × List CloneToken) :=
  (List.range calls.length).filterMap fun i =>
    calls[i]?.bind (delivery? policy files (calls.take i))

/-- The file that is open after several calls, with what its events made of it. -/
def openAfter (policy : ImagePolicy) (files : AnalysisSet) (calls : List HookCall) :
    Option OpenFile :=
  (openPath? calls).map fun path =>
    (Collector.opened files path).see policy (eventsSince calls)

theorem openPath?_concat_enterFile (calls : List HookCall) (context : Context) :
    openPath? (calls ++ [enterFile context]) = some context.path := by
  rw [openPath?, List.rdropWhile_concat_neg _ _ _ Bool.false_ne_true, List.getLast?_concat]

theorem openPath?_concat_leaveFile (calls : List HookCall) (context : Context) :
    openPath? (calls ++ [leaveFile context]) = none := by
  rw [openPath?, List.rdropWhile_concat_neg _ _ _ Bool.false_ne_true, List.getLast?_concat]

theorem openPath?_concat_seeEvent (calls : List HookCall) (context : Context) (e : Event) :
    openPath? (calls ++ [seeEvent context e]) = openPath? calls := by
  rw [openPath?, List.rdropWhile_concat_pos _ _ _ rfl, openPath?]

theorem eventsSince_concat_enterFile (calls : List HookCall) (context : Context) :
    eventsSince (calls ++ [enterFile context]) = [] := by
  rw [eventsSince, List.rtakeWhile_concat_neg _ _ _ Bool.false_ne_true, List.filterMap_nil]

theorem eventsSince_concat_seeEvent (calls : List HookCall) (context : Context) (e : Event) :
    eventsSince (calls ++ [seeEvent context e]) = eventsSince calls ++ [e] := by
  rw [eventsSince, List.rtakeWhile_concat_pos _ _ _ rfl, List.filterMap_append, eventsSince]
  rfl

/-- One call more hands over at most one list, after all the others. -/
theorem deliveries_concat (policy : ImagePolicy) (files : AnalysisSet) (calls : List HookCall)
    (call : HookCall) :
    deliveries policy files (calls ++ [call])
      = deliveries policy files calls ++ (delivery? policy files calls call).toList := by
  refine (filterMap_range_concat
    (fun all i => all[i]?.bind (delivery? policy files (all.take i))) calls call ?_).trans ?_
  · -- No call before the last one can tell that another one follows.
    intro i hi
    rw [List.getElem?_append_left hi, List.take_append_of_le_length (Nat.le_of_lt hi)]
  · rw [List.getElem?_concat_length, Option.bind_some, List.take_left]
    rfl

end HookCall

/-- A receiver after several lists were handed over to it, in order. -/
def receiveAll {ε : Type} [Receiver ε] (receiver : ε)
    (saves : List (SourceFile × List CloneToken)) : ε :=
  saves.foldl (fun r save => (Receiver.save save.1 save.2 r).value) receiver

theorem receiveAll_append {ε : Type} [Receiver ε] (receiver : ε)
    (first second : List (SourceFile × List CloneToken)) :
    receiveAll receiver (first ++ second) = receiveAll (receiveAll receiver first) second :=
  List.foldl_append

namespace Collector

open HookCall

variable {ε : Type}

/-- An event is passed over when no file is open. -/
theorem seeEvent_of_idle (e : Event) (context : Context) {c : Collector ε}
    (h : c.current = none) : (seeEvent e context c).value = .ok c := by
  unfold seeEvent
  rw [h]
  rfl

/-- The end of a file is passed over when no file is open. -/
theorem leaveFile_of_idle [Receiver ε] (context : Context) {c : Collector ε}
    (h : c.current = none) : (leaveFile context c).value = .ok c := by
  unfold leaveFile
  rw [h]
  rfl

/-- What the collector does at a call. -/
def answer [Receiver ε] (c : Collector ε) : HookCall → Step (Collector ε)
  | .enterFile context => (visitor.enterFile context c).value
  | .seeEvent context e => (visitor.seeEvent e context c).value
  | .leaveFile context => (visitor.leaveFile context c).value

/-- The collector after several calls, also after those that failed. -/
def afterCalls [Receiver ε] (c : Collector ε) (calls : List HookCall) : Collector ε :=
  calls.foldl (fun state call => (state.answer call).state) c

theorem afterCalls_concat [Receiver ε] (c : Collector ε) (calls : List HookCall)
    (call : HookCall) :
    c.afterCalls (calls ++ [call]) = ((c.afterCalls calls).answer call).state := by
  rw [afterCalls, List.foldl_append, afterCalls]
  rfl

/-- The state is the one that several calls lead to from an idle collector: what is open and what
    was handed over are those of the list. -/
structure Reflects [Receiver ε] (start : Collector ε) (calls : List HookCall)
    (c : Collector ε) : Prop where
  /-- The policy never changes. -/
  policy : c.policy = start.policy
  /-- Nor do the files under analysis. -/
  files : c.files = start.files
  /-- The open file is the one that the calls leave open. -/
  current : c.current = openAfter start.policy start.files calls
  /-- The receiver has what the calls handed over. -/
  receiver : c.receiver = receiveAll start.receiver (deliveries start.policy start.files calls)

/-- What the end of an open file hands over is what the calls say. -/
theorem handOver_delivery [Receiver ε] (policy : ImagePolicy) (files : AnalysisSet)
    {calls : List HookCall} {path : Path} (h : openPath? calls = some path) (context : Context)
    (receiver : ε) :
    handOver ((opened files path).see policy (eventsSince calls)).buffer receiver
      = receiveAll receiver (delivery? policy files calls (.leaveFile context)).toList := by
  rw [handOver_opened, delivery?, h, Option.bind_some]
  cases files.find? path with
  | none => rfl
  | some file => rfl

/-- One call keeps the state in step with the list, whatever the call is and whether or not it
    fits what came before. -/
theorem Reflects.answer [Receiver ε] {start c : Collector ε} {calls : List HookCall}
    (h : Reflects start calls c) (call : HookCall) :
    Reflects start (calls ++ [call]) (c.answer call).state := by
  have hcurrent := h.current
  have hreceiver := h.receiver
  cases call with
  | enterFile context =>
      -- The new file has seen nothing, and one that was open is not handed over.
      have hstep : c.answer (.enterFile context)
          = .ok { c with current := some (opened c.files context.path) } :=
        enterFile_value context c
      rw [hstep]
      refine ⟨h.policy, h.files, ?_, ?_⟩
      · rw [openAfter, openPath?_concat_enterFile, eventsSince_concat_enterFile, Option.map_some,
          OpenFile.see_nil, ← h.files]
        rfl
      · rw [deliveries_concat]
        exact hreceiver.trans (congrArg _ (List.append_nil _).symm)
  | seeEvent context e =>
      have hsame : deliveries start.policy start.files (calls ++ [.seeEvent context e])
          = deliveries start.policy start.files calls := by
        rw [deliveries_concat]
        exact List.append_nil _
      cases hopen : openPath? calls with
      | none =>
          rw [openAfter, hopen, Option.map_none] at hcurrent
          have hstep : c.answer (.seeEvent context e) = .ok c :=
            seeEvent_of_idle e context hcurrent
          rw [hstep]
          refine ⟨h.policy, h.files, ?_, ?_⟩
          · rw [openAfter, openPath?_concat_seeEvent, hopen, Option.map_none]
            exact hcurrent
          · rw [hsame]
            exact hreceiver
      | some path =>
          rw [openAfter, hopen, Option.map_some] at hcurrent
          have hstep := seeEvent_value e context c _ hcurrent
          have hstate : (c.answer (.seeEvent context e)).state
              = ((Collector.seeEvent e context c).value).state := rfl
          rw [hstate, hstep]
          refine ⟨h.policy, h.files, ?_, ?_⟩
          · rw [openAfter, openPath?_concat_seeEvent, hopen, eventsSince_concat_seeEvent,
              Option.map_some, OpenFile.see_append, h.policy]
          · rw [hsame]
            exact hreceiver
  | leaveFile context =>
      cases hopen : openPath? calls with
      | none =>
          rw [openAfter, hopen, Option.map_none] at hcurrent
          have hstep : c.answer (.leaveFile context) = .ok c :=
            leaveFile_of_idle context hcurrent
          rw [hstep]
          refine ⟨h.policy, h.files, ?_, ?_⟩
          · rw [openAfter, openPath?_concat_leaveFile, Option.map_none]
            exact hcurrent
          · rw [deliveries_concat, delivery?, hopen, Option.bind_none, Option.toList_none,
              List.append_nil]
            exact hreceiver
      | some path =>
          rw [openAfter, hopen, Option.map_some] at hcurrent
          have hstep := leaveFile_value context c _ hcurrent
          have hstate : (c.answer (.leaveFile context)).state
              = ((Collector.leaveFile context c).value).state := rfl
          rw [hstate, hstep]
          refine ⟨h.policy, h.files, ?_, ?_⟩
          · rw [openAfter, openPath?_concat_leaveFile, Option.map_none]
          · rw [deliveries_concat, receiveAll_append, ← hreceiver]
            exact handOver_delivery _ _ hopen context _

/-- Several calls keep the state in step with the list, from any collector that visits no file.
    The induction is from the end, as the open file is found by looking back. -/
theorem reflects_afterCalls [Receiver ε] {start : Collector ε} (h : start.current = none)
    (calls : List HookCall) : Reflects start calls (start.afterCalls calls) := by
  induction calls using List.reverseRecOn with
  | nil => exact ⟨rfl, rfl, h, rfl⟩
  | append_singleton calls call ih =>
      rw [afterCalls_concat]
      exact ih.answer call

/-- Ending a file leaves none open, whether a file was open or not and whether the end failed. -/
theorem current_leaveFile [Receiver ε] (context : Context) (c : Collector ε) :
    (c.answer (.leaveFile context)).state.current = none := by
  have hstate : c.answer (.leaveFile context) = (Collector.leaveFile context c).value := rfl
  cases hcurrent : c.current with
  | none =>
      rw [hstate, leaveFile_of_idle context hcurrent]
      exact hcurrent
  | some file => rw [hstate, leaveFile_value context c file hcurrent]

end Collector

/-- The hooks of a collector are called in any order, from a collector that visits no file. What
    the receiver gets are the lists of the calls, in order: one for each end of a file whose
    most recent beginning or end before it is the beginning of a file under analysis, with
    that file and the clone tokens of the events between the two. A file is open exactly when
    the most recent beginning or end is a beginning. When none is open, events and ends succeed
    and change nothing. A beginning hands nothing over and opens its file from nothing,
    whatever was open. An end leaves no file open. -/
theorem saves_of_hook_calls {ε : Type} [Receiver ε] (policy : ImagePolicy) (files : AnalysisSet)
    (receiver : ε) (channel : NoteChannel) (calls : List HookCall) :
    let c := (Collector.mk policy files receiver channel none).afterCalls calls
    c.receiver = receiveAll receiver (HookCall.deliveries policy files calls) ∧
    c.isFileOpen = (HookCall.openPath? calls).isSome ∧
    (∀ context e, HookCall.openPath? calls = none →
      c.answer (.seeEvent context e) = .ok c ∧ c.answer (.leaveFile context) = .ok c) ∧
    (∀ context, c.answer (.enterFile context)
      = .ok { c with current := some (Collector.opened files context.path) }) ∧
    ∀ context, (c.answer (.leaveFile context)).state.current = none := by
  intro c
  have hreflects : Collector.Reflects ⟨policy, files, receiver, channel, none⟩ calls c :=
    Collector.reflects_afterCalls rfl calls
  refine ⟨hreflects.receiver, ?_, ?_, ?_, fun context => Collector.current_leaveFile context c⟩
  · rw [Collector.isFileOpen, hreflects.current, HookCall.openAfter, Option.isSome_map]
  · intro context e hopen
    have hidle : c.current = none := by
      rw [hreflects.current, HookCall.openAfter, hopen, Option.map_none]
    exact ⟨Collector.seeEvent_of_idle e context hidle, Collector.leaveFile_of_idle context hidle⟩
  · intro context
    have hfiles : c.files = files := hreflects.files
    rw [← hfiles]
    exact Collector.enterFile_value context c

end CloneScan
