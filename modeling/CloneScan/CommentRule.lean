import CloneScan.Regex.Meaning
import CloneScan.Regex.Sweep
import CloneScan.Visitor.Basic

/-!
# The Comment Rule

A rule that reports comments whose complete text matches a pattern. The pattern is put, as
it is written, into a group between the start and the end of the text, with a dot matching
line feeds too; what comes out is read as one pattern. A rule with an empty pattern reports
nothing.

## Main definitions

* `CommentRule`: A pattern, its message and the expression it is.
* `CommentRule.wholeText`: The pattern put between the ends of a text.
* `CommentRule.make`: Reads the pattern of a rule.
* `CommentRule.visitor`: The visitor that reports matching comments.
-/

namespace CloneScan

/-- A rule that reports comments by a pattern. -/
structure CommentRule where
  /-- The pattern as configured. -/
  pattern : String
  /-- What the rule says of a comment. -/
  message : String
  /-- The expression that comments are held to; nothing when no pattern is configured. -/
  regex : Option Regex

namespace CommentRule

/-- The name of the rule. -/
def ruleName : String :=
  "CommentRegularExpression"

/-- What the rule says of a comment when it is not told otherwise. -/
def defaultMessage : String :=
  "The regular expression matches this comment"

/-- The pattern put between the ends of a text. -/
def wholeText (pattern : String) : List Char :=
  "(?s)\\A(?:".toList ++ pattern.toList ++ ")\\z".toList

/-- The rule of a pattern. -/
def make (pattern message : String) : Except Fault CommentRule :=
  if pattern.isEmpty then .ok ⟨pattern, message, none⟩
  else match Regex.ofChars (wholeText pattern) with
    | .ok r => .ok ⟨pattern, message, some r⟩
    | .error cause => .error (.badPattern pattern cause)

/-- The rule has a pattern. -/
def isActive (r : CommentRule) : Bool :=
  r.regex.isSome

/-- The rule reports a comment. -/
def reports (r : CommentRule) (c : Comment) : Bool :=
  match r.regex with
  | none => false
  | some e => e.occursIn c.text.toList

/-- Reports a comment that matches. -/
def seeEvent (r : CommentRule) (e : Event) : Hook Unit := fun _ _ =>
  match e with
  | .comment c => pure ⟨(), if r.reports c then [⟨ruleName, c.line, r.message⟩] else [], none⟩
  | _ => pure (.ok ())

/-- The visitor that reports matching comments. -/
def visitor (r : CommentRule) : Visitor Unit :=
  ⟨ruleName, .idle, r.seeEvent, .idle⟩

end CommentRule

end CloneScan
