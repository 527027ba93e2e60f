import CloneScan.Fault
import CloneScan.Json.Codec
import CloneScan.Report
import CloneScan.Settings

/-!
# The JSON Forms of Records

How the records of this library look in a JSON document. Each is described once, and is
written and read by that description. Only the settings may leave fields out. A path that is
no text has no JSON form, and no other value is without one.

## Main definitions

* `Token.codec`, `CloneToken.codec`, `CloneStream.codec`: Tokens.
* `Finding.codec`, `FileReport.codec`, `Summary.codec`, `Outcome.codec`: Reports.
* `ImagePolicy.codec`, `Settings.codec`: Settings.
* `Settings.ofText`: Reads a settings document.
-/

namespace CloneScan

/-- Paths are written as strings, if they are texts. -/
def Path.codec : Codec Path :=
  (Codec.text "path string").wrap Path.ofString Path.text?

/-- Numbers that count or place something in memory. -/
def sizeCodec : Codec Nat :=
  Codec.whole "usize"

/-- Strings without a special use. -/
def stringCodec : Codec String :=
  Codec.text "a string"

/-- Sorts of token are told by their names. -/
def TokenKind.codec : Codec TokenKind :=
  Codec.variant TokenKind.label TokenKind.all

/-- The JSON form of a token. -/
def Token.codec : Codec Token :=
  Codec.record "Token"
    (.cons "kind" TokenKind.codec none <| .cons "value" stringCodec none <|
      .cons "line" sizeCodec none <| .cons "column" sizeCodec none <|
      .cons "generated" Codec.truth none .nil)
    (fun (kind, value, line, column, generated, _) => ⟨kind, value, line, column, generated⟩)
    (fun t => (t.kind, t.value, t.line, t.column, t.generated, ()))

/-- The JSON form of a place. -/
def Position.codec : Codec Position :=
  Codec.record "TextPointer"
    (.cons "line" sizeCodec none <| .cons "line_offset" sizeCodec none .nil)
    (fun (line, offset, _) => ⟨line, offset⟩)
    (fun p => (p.line, p.offset, ()))

/-- The JSON form of a span. -/
def Span.codec : Codec Span :=
  Codec.record "TextRange"
    (.cons "start" Position.codec none <| .cons "end" Position.codec none .nil)
    (fun (start, stop, _) => ⟨start, stop⟩)
    (fun s => (s.start, s.stop, ()))

/-- The JSON form of a clone token. -/
def CloneToken.codec : Codec CloneToken :=
  Codec.record "CpdToken"
    (.cons "range" Span.codec none <| .cons "image" stringCodec none .nil)
    (fun (span, image, _) => ⟨span, image⟩)
    (fun t => (t.span, t.image, ()))

/-- The JSON form of the clone tokens of a file. -/
def CloneStream.codec : Codec CloneStream :=
  Codec.record "FileTokens"
    (.cons "path" Path.codec none <| .cons "tokens" CloneToken.codec.list none .nil)
    (fun (path, tokens, _) => ⟨path, tokens⟩)
    (fun s => (s.path, s.tokens, ()))

/-- The JSON form of a finding. -/
def Finding.codec : Codec Finding :=
  Codec.record "CheckMessage"
    (.cons "rule" stringCodec none <| .cons "line" sizeCodec none <|
      .cons "message" stringCodec none .nil)
    (fun (rule, line, message, _) => ⟨rule, line, message⟩)
    (fun f => (f.rule, f.line, f.message, ()))

/-- The JSON form of a report on a file. -/
def FileReport.codec : Codec FileReport :=
  Codec.record "FileReport"
    (.cons "path" Path.codec none <| .cons "messages" Finding.codec.list none <|
      .cons "has_parse_errors" Codec.truth none <| .cons "errors" stringCodec.list none .nil)
    (fun (path, findings, hasParseErrors, errors, _) => ⟨path, findings, hasParseErrors, errors⟩)
    (fun r => (r.path, r.findings, r.hasParseErrors, r.errors, ()))

/-- The JSON form of a summary. -/
def Summary.codec : Codec Summary :=
  Codec.record "ScanSummary"
    (.cons "files_processed" (Codec.whole "u64") none <|
      .cons "files_failed" (Codec.whole "u64") none <|
      .cons "reports" FileReport.codec.list none .nil)
    (fun (processed, failed, reports, _) => ⟨processed, failed, reports⟩)
    (fun s => (s.processed, s.failed, s.reports, ()))

/-- The JSON form of an outcome. -/
def Outcome.codec : Codec Outcome :=
  Codec.record "ScanOutcome"
    (.cons "summary" Summary.codec none <| .cons "cpd" CloneStream.codec.list none .nil)
    (fun (summary, clones, _) => ⟨summary, clones⟩)
    (fun o => (o.summary, o.clones, ()))

/-- The JSON form of an image policy. What is left out is not ignored. -/
def ImagePolicy.codec : Codec ImagePolicy :=
  Codec.record "NormalizationPolicy"
    (.cons "ignore_literals" Codec.truth (some ImagePolicy.exact.ignoreLiterals) <|
      .cons "ignore_identifiers" Codec.truth (some ImagePolicy.exact.ignoreIdentifiers) .nil)
    (fun (literals, identifiers, _) => ⟨literals, identifiers⟩)
    (fun p => (p.ignoreLiterals, p.ignoreIdentifiers, ()))

/-- The JSON form of settings. What is left out is as initially. -/
def Settings.codec : Codec Settings :=
  Codec.record "AnalysisConfig"
    (.cons "cpd" ImagePolicy.codec (some Settings.initial.policy) <|
      .cons "comment_regex" stringCodec.optional (some Settings.initial.commentPattern) <|
      .cons "comment_message" stringCodec.optional (some Settings.initial.commentMessage) <|
      .cons "extensions" stringCodec.list (some Settings.initial.extensions) .nil)
    (fun (policy, pattern, message, extensions, _) => ⟨policy, pattern, message, extensions⟩)
    (fun s => (s.policy, s.commentPattern, s.commentMessage, s.extensions, ()))

/-- Reads a settings document. -/
def Settings.ofText (text : String) : Except Fault Settings :=
  match Settings.codec.decode text with
  | .ok s => .ok s
  | .error e => .error (.badSettings e.message)

end CloneScan
