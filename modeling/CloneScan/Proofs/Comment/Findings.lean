import CloneScan.CommentRule
import CloneScan.Visitor.Walk
import Mathlib.Data.List.Basic

/-!
# What the Comment Rule Finds

The comment rule has no state and never fails, so a walk of it is known from the comments of the
unit alone. Each comment that the rule reports gives one finding, and nothing else gives any.

## Main definitions

* `CommentRule.findings`: The findings of several comments.

## Theorems

* `CommentRule.seeEvent_value`: What one event gives.
* `CommentRule.events_value`: What several events give.
* `CommentRule.walk_value`: A whole walk.
-/

namespace CloneScan

namespace CommentRule

/-- The findings of several comments: one for each that the rule reports, in order. -/
def findings (r : CommentRule) (comments : List Comment) : List Finding :=
  (comments.filter r.reports).map fun c => ⟨ruleName, c.line, r.message⟩

theorem findings_append (r : CommentRule) (first second : List Comment) :
    r.findings (first ++ second) = r.findings first ++ r.findings second := by
  simp only [findings, List.filter_append, List.map_append]

/-- An event gives the findings of its comment, if it is one. -/
theorem seeEvent_value (r : CommentRule) (e : Event) (context : Context) :
    (r.seeEvent e context ()).value = ⟨(), r.findings e.comment?.toList, none⟩ := by
  cases e with
  | comment c =>
      simp only [seeEvent, Logged.value_pure, Event.comment?, Option.toList_some, findings,
        List.filter_singleton]
      cases r.reports c with
      | true => rfl
      | false => rfl
  | enter kind line => rfl
  | leave kind => rfl
  | token t => rfl

/-- Several events give the findings of their comments, and the walk's fault is left as it was. -/
theorem events_value (r : CommentRule) (es : List Event) (w : Walk Unit) :
    (Walk.events r.visitor w es).value
      = ⟨(), w.context.report (r.findings (es.filterMap Event.comment?)), w.fault⟩ := by
  induction es generalizing w with
  | nil =>
      rw [List.filterMap_nil]
      exact congrArg (Walk.mk () · w.fault) w.context.report_nil.symm
  | cons e rest ih =>
      have hfault : (w.fault <|> none) = w.fault := by
        cases w.fault with
        | none => rfl
        | some fault => rfl
      have hhook : r.visitor.seeEvent e w.context w.state = r.seeEvent e w.context () := rfl
      have hcomments : (e :: rest).filterMap Event.comment?
          = e.comment?.toList ++ rest.filterMap Event.comment? := by
        rw [List.filterMap_eq_flatMap_toList, List.flatMap_cons, ← List.filterMap_eq_flatMap_toList]
      rw [Walk.events, Logged.value_bind, ih, Walk.event_value, hhook, seeEvent_value, Walk.after,
        hfault, hcomments, findings_append]
      simp only [Context.report, List.append_assoc]

/-- A walk of the rule adds the findings of the unit's comments, and never fails. -/
theorem walk_value (r : CommentRule) (unit : TranslationUnit) (context : Context) :
    (walk r.visitor unit context ()).value
      = ⟨(), context.report (r.findings unit.comments), none⟩ := by
  have hidle : ∀ (w : Walk Unit), (w.call Hook.idle).value = w := by
    rintro ⟨_, context, fault⟩
    rw [Walk.call_value]
    have hfault : (fault <|> none) = fault := by
      cases fault with
      | none => rfl
      | some fault => rfl
    simp only [Hook.idle, Logged.value_pure, Walk.after, Step.ok, Context.report_nil, hfault]
  have henter : r.visitor.enterFile = Hook.idle := rfl
  have hleave : r.visitor.leaveFile = Hook.idle := rfl
  simp only [walk_stages, henter, hleave, hidle, Option.isSome_none, Bool.false_eq_true, if_false,
    events_value, TranslationUnit.comments]

end CommentRule

end CloneScan
