import CloneScan.Exchange
import Mathlib.Data.List.Forall2

/-!
# What Can Be Written

A codec writes a value, or breaks off at a part of it that has no JSON form. Lists and records break
off where the first of their parts does, so what stands in front of that has been written whole, and
a value is written whole if all of its parts are. Among the records of this library only paths have
no JSON form now and then, which is when they are no texts. So what decides on a report are the
paths in it (`Outcome.codec_writable_iff`), and one that breaks off does so at the first of them
that is no text (`Outcome.write_of_reports`).

A text that breaks off is the beginning of a whole one, which is why the place is told by the parts
in front of it (`BrokenJson.Begins`).

## Main definitions

* `Codec.Writable`, `Fields.Writable`: All of a value has a JSON form.
* `Path.IsText`: A path is a text.
* `BrokenJson.Begins`: A value goes on where another one breaks off.
* `Outcome.begun`: An outcome that breaks off at the path of a report.

## Theorems

* `Codec.write_list_eq_ok_iff`, `Codec.write_list_eq_error`: How a list is written.
* `Codec.write_record_eq_ok_iff`: How a record is written.
* `BrokenJson.Begins.prefix_indentedAt`: A text that breaks off is the beginning of a whole one.
* `Outcome.codec_writable_iff`: An outcome is written if its paths are texts.
* `Outcome.write_of_reports`: Where an outcome breaks off.
* `Outcome.begun_prefix`: What is printed of an outcome that breaks off begins any with the same
  reports in front.
-/

namespace CloneScan

open Json

/-! ## Lists and records -/

namespace Codec

variable {α : Type} {c : Codec α}

/-- All of a value has a JSON form. -/
def Writable (c : Codec α) (a : α) : Prop :=
  ∃ v, c.write a = .ok v

theorem optional_writable {o : Option α} (h : ∀ a, o = some a → c.Writable a) :
    c.optional.Writable o := by
  cases o with
  | none => exact ⟨.null, rfl⟩
  | some a => exact h a rfl

/-- A list is written if all of its elements are. -/
theorem writeElements_eq_ok_iff {as : List α} {vs : List Json} :
    writeElements c as = .ok vs ↔ List.Forall₂ (fun a v => c.write a = .ok v) as vs := by
  induction as generalizing vs with
  | nil =>
      rw [writeElements, Except.ok.injEq, List.forall₂_nil_left_iff]
      exact eq_comm
  | cons a as ih =>
      rw [writeElements, List.forall₂_cons_left_iff]
      constructor
      · intro h
        split at h
        · cases h
        · cases h
        · exact ⟨_, _, ‹_›, ih.mp ‹_›, (Except.ok.inj h).symm⟩
      · rintro ⟨v, rest, hv, hrest, rfl⟩
        rw [hv, ih.mpr hrest]

theorem write_list_eq_ok_iff {as : List α} {v : Json} :
    c.list.write as = .ok v ↔
      ∃ vs, List.Forall₂ (fun a v => c.write a = .ok v) as vs ∧ v = .array vs := by
  simp only [← writeElements_eq_ok_iff, list]
  cases writeElements c as with
  | error part =>
      refine iff_of_false nofun ?_
      rintro ⟨vs, ⟨⟩, _⟩
  | ok vs =>
      simp only [Except.ok.injEq, exists_eq_left']
      exact eq_comm

theorem list_writable_iff {as : List α} : c.list.Writable as ↔ ∀ a ∈ as, c.Writable a := by
  simp only [Writable, write_list_eq_ok_iff]
  constructor
  · rintro ⟨_, vs, hvs, -⟩ a ha
    rcases List.mem_iff_get.mp ha with ⟨i, rfl⟩
    rcases List.forall₂_iff_get.mp hvs with ⟨hlength, hget⟩
    exact ⟨_, hget i i.isLt (hlength ▸ i.isLt)⟩
  · intro h
    induction as with
    | nil => exact ⟨_, [], .nil, rfl⟩
    | cons a as ih =>
        rcases List.forall_mem_cons.mp h with ⟨⟨v, hv⟩, hrest⟩
        rcases ih hrest with ⟨_, vs, hvs, -⟩
        exact ⟨_, v :: vs, .cons hv hvs, rfl⟩

/-- The elements in front of another one are written as they are by themselves. -/
theorem eq_append_of_written {front back : List α} {a : α} {vs all : List Json}
    (hfront : List.Forall₂ (fun a v => c.write a = .ok v) front vs)
    (hall : List.Forall₂ (fun a v => c.write a = .ok v) (front ++ a :: back) all) :
    ∃ v rest, c.write a = .ok v ∧ all = vs ++ v :: rest := by
  induction hfront generalizing all with
  | nil =>
      rcases List.forall₂_cons_left_iff.mp hall with ⟨v, rest, hv, -, rfl⟩
      exact ⟨v, rest, hv, rfl⟩
  | cons hfirst _ ih =>
      rcases List.forall₂_cons_left_iff.mp hall with ⟨first, later, hagain, hlater, rfl⟩
      obtain rfl := Except.ok.inj (hfirst.symm.trans hagain)
      rcases ih hlater with ⟨v, rest, hv, rfl⟩
      exact ⟨v, rest, hv, rfl⟩

/-- A list breaks off in the first element that does. -/
theorem write_list_eq_error {front : List α} {a : α} {vs : List Json} {part : BrokenJson}
    (hfront : c.list.write front = .ok (.array vs)) (ha : c.write a = .error part)
    (back : List α) : c.list.write (front ++ a :: back) = .error (.inArray vs part) := by
  rcases write_list_eq_ok_iff.mp hfront with ⟨_, helements, ⟨⟩⟩
  have hwrite : writeElements c (front ++ a :: back) = .error (vs, part) := by
    induction helements with
    | nil => rw [List.nil_append, writeElements, ha]
    | cons hv _ ih =>
        rw [List.cons_append, writeElements, hv, ih (write_list_eq_ok_iff.mpr ⟨_, ‹_›, rfl⟩)]
  simp only [list, hwrite]

end Codec

namespace Fields

/-- The values of all fields have a JSON form. -/
def Writable {σ τ : Type} : Fields σ τ → τ → Prop
  | nil, _ => True
  | cons _ codec _ rest, (a, later) => codec.Writable a ∧ rest.Writable later

/-- The members of a record are written if the values of all fields are. -/
theorem write_cons_eq_ok_iff {α σ τ : Type} {name : String} {codec : Codec α} {default : Option α}
    {rest : Fields σ τ} {a : α} {later : τ} {members : List (String × Json)} :
    (cons name codec default rest).write (a, later) = .ok members ↔
      ∃ v others, codec.write a = .ok v ∧ rest.write later = .ok others ∧
        members = (name, v) :: others := by
  rw [write]
  constructor
  · intro h
    split at h
    · cases h
    · cases h
    · exact ⟨_, _, ‹_›, ‹_›, (Except.ok.inj h).symm⟩
  · rintro ⟨v, others, hv, hothers, rfl⟩
    rw [hv, hothers]

theorem exists_write_iff {σ τ : Type} {fields : Fields σ τ} {values : τ} :
    (∃ members, fields.write values = .ok members) ↔ fields.Writable values := by
  induction fields with
  | nil => exact iff_of_true ⟨[], rfl⟩ trivial
  | cons name codec default rest ih =>
      rcases values with ⟨a, later⟩
      rw [Writable, ← ih]
      simp only [write_cons_eq_ok_iff]
      constructor
      · rintro ⟨_, v, others, hv, hothers, -⟩
        exact ⟨⟨v, hv⟩, others, hothers⟩
      · rintro ⟨⟨v, hv⟩, others, hothers⟩
        exact ⟨_, v, others, hv, hothers, rfl⟩

end Fields

namespace Codec

variable {α σ τ : Type} {name : String} {fields : Fields σ τ} {make : τ → α} {parts : α → τ}

theorem write_record_eq_ok_iff {a : α} {v : Json} :
    (record name fields make parts).write a = .ok v ↔
      ∃ members, fields.write (parts a) = .ok members ∧ v = .object members := by
  simp only [record]
  cases fields.write (parts a) with
  | error part =>
      refine iff_of_false nofun ?_
      rintro ⟨members, ⟨⟩, _⟩
  | ok members =>
      simp only [Except.ok.injEq, exists_eq_left']
      exact eq_comm

/-- A record is written if the values of all fields are. -/
theorem record_writable_iff {a : α} :
    (record name fields make parts).Writable a ↔ fields.Writable (parts a) := by
  simp only [Writable, write_record_eq_ok_iff]
  rw [← Fields.exists_write_iff, exists_comm]
  simp only [exists_and_left, exists_eq, and_true]

end Codec

/-! ## Texts that break off -/

namespace BrokenJson

/-- A value has all that another one has which breaks off, and goes on from there. -/
inductive Begins : BrokenJson → Json → Prop where
  | here (v : Json) : Begins .here v
  | inArray {part : BrokenJson} {v : Json} (before after : List Json) (h : Begins part v) :
      Begins (.inArray before part) (.array (before ++ v :: after))
  | inObject {part : BrokenJson} {v : Json} (before after : List (String × Json)) (name : String)
      (h : Begins part v) :
      Begins (.inObject before name part) (.object (before ++ (name, v) :: after))

/-- Elements in front of others, with the comma behind them. -/
theorem indentedItems_comma (depth : Nat) (v : Json) (before : List Json) :
    indentedItems depth (v :: before) ++ comma (v :: before)
      = newLine depth ++ Json.indentedAt depth v ++
        ',' :: (indentedItems depth before ++ comma before) := by
  cases before with
  | nil => simp only [indentedItems, comma, List.isEmpty_cons, List.isEmpty_nil, if_true,
      Bool.false_eq_true, if_false, List.append_nil]
  | cons next rest => simp only [indentedItems, comma, List.isEmpty_cons, Bool.false_eq_true,
      if_false, List.append_assoc, List.cons_append]

theorem prefix_indentedItems (depth : Nat) (before after : List Json) (v : Json) :
    indentedItems depth before ++ comma before ++ (newLine depth ++ Json.indentedAt depth v)
      <+: indentedItems depth (before ++ v :: after) := by
  induction before with
  | nil =>
      cases after with
      | nil => exact List.prefix_rfl
      | cons next rest => exact List.prefix_append _ _
  | cons first before ih =>
      have hgoes : indentedItems depth (first :: (before ++ v :: after))
          = newLine depth ++ Json.indentedAt depth first ++
            ',' :: indentedItems depth (before ++ v :: after) :=
        indentedItems.eq_3 _ _ _ (by cases before <;> exact nofun)
      rw [indentedItems_comma, List.cons_append, hgoes, List.append_assoc, List.cons_append,
        List.prefix_append_right_inj, List.cons_prefix_cons]
      exact ⟨rfl, ih⟩

/-- Members in front of others, with the comma behind them. -/
theorem indentedMembers_comma (depth : Nat) (name : String) (v : Json)
    (before : List (String × Json)) :
    indentedMembers depth ((name, v) :: before) ++ comma ((name, v) :: before)
      = newLine depth ++ quote name ++ ':' :: ' ' :: Json.indentedAt depth v ++
        ',' :: (indentedMembers depth before ++ comma before) := by
  cases before with
  | nil => simp only [indentedMembers, comma, List.isEmpty_cons, List.isEmpty_nil, if_true,
      Bool.false_eq_true, if_false, List.append_nil]
  | cons next rest => simp only [indentedMembers, comma, List.isEmpty_cons, Bool.false_eq_true,
      if_false, List.append_assoc, List.cons_append]

theorem prefix_indentedMembers (depth : Nat) (before after : List (String × Json))
    (name : String) (v : Json) :
    indentedMembers depth before ++ comma before ++
        (newLine depth ++ quote name ++ ':' :: ' ' :: Json.indentedAt depth v)
      <+: indentedMembers depth (before ++ (name, v) :: after) := by
  induction before with
  | nil =>
      cases after with
      | nil => exact List.prefix_rfl
      | cons next rest => exact List.prefix_append _ _
  | cons first before ih =>
      have hgoes : indentedMembers depth (first :: (before ++ (name, v) :: after))
          = newLine depth ++ quote first.1 ++ ':' :: ' ' :: Json.indentedAt depth first.2 ++
            ',' :: indentedMembers depth (before ++ (name, v) :: after) :=
        indentedMembers.eq_3 _ _ _ _ (by cases before <;> exact nofun)
      rw [indentedMembers_comma, List.cons_append, hgoes, List.append_assoc, List.cons_append,
        List.prefix_append_right_inj, List.cons_prefix_cons]
      exact ⟨rfl, ih⟩

theorem prefix_array (depth : Nat) {items : List Json} (h : items ≠ []) :
    '[' :: indentedItems (depth + 1) items <+: Json.indentedAt depth (.array items) := by
  rw [Json.indentedAt]
  · simp only [List.cons_append, List.append_assoc]
    exact List.prefix_append ('[' :: _) _
  · exact h

theorem prefix_object (depth : Nat) {members : List (String × Json)} (h : members ≠ []) :
    '\x7b' :: indentedMembers (depth + 1) members <+: Json.indentedAt depth (.object members) := by
  rw [Json.indentedAt]
  · simp only [List.cons_append, List.append_assoc]
    exact List.prefix_append ('\x7b' :: _) _
  · exact h

/-- A text that breaks off is the beginning of a whole one. -/
theorem Begins.prefix_indentedAt {part : BrokenJson} {v : Json} (h : Begins part v) (depth : Nat) :
    part.indentedAt depth <+: v.indentedAt depth := by
  induction h generalizing depth with
  | here v => exact List.nil_prefix
  | @inArray part v before after _ ih =>
      have hfront : part.indentedAt depth.succ <+: v.indentedAt depth.succ := ih (depth + 1)
      refine List.IsPrefix.trans ?_ (prefix_array depth (List.append_ne_nil_of_right_ne_nil _
        (List.cons_ne_nil v after)))
      rw [indentedAt]
      simp only [List.cons_append, List.append_assoc, List.cons_prefix_cons, true_and]
      refine List.IsPrefix.trans ?_ (prefix_indentedItems (depth + 1) before after v)
      simpa only [List.append_assoc, List.prefix_append_right_inj] using hfront
  | @inObject part v before after name _ ih =>
      have hfront : part.indentedAt depth.succ <+: v.indentedAt depth.succ := ih (depth + 1)
      refine List.IsPrefix.trans ?_ (prefix_object depth (List.append_ne_nil_of_right_ne_nil _
        (List.cons_ne_nil (name, v) after)))
      rw [indentedAt]
      simp only [List.cons_append, List.append_assoc, List.cons_prefix_cons, true_and]
      refine List.IsPrefix.trans ?_ (prefix_indentedMembers (depth + 1) before after name v)
      simpa only [List.append_assoc, List.prefix_append_right_inj, List.cons_prefix_cons,
        true_and] using hfront

end BrokenJson

/-! ## Paths -/

/-- A path is a text. -/
def Path.IsText (p : Path) : Prop :=
  ∃ s : String, p = ofString s

theorem Path.text?_eq_some_iff {p : Path} {s : String} : p.text? = some s ↔ p = ofString s := by
  rw [text?, RawText.text?_eq_some_iff, ofString]
  exact ⟨fun h => congrArg Path.mk h, fun h => congrArg Path.text h⟩

theorem Path.codec_write (p : Path) :
    Path.codec.write p = p.text?.elim (.error .here) fun s => .ok (.string s) :=
  rfl

theorem Path.codec_writable_iff {p : Path} : Path.codec.Writable p ↔ p.IsText := by
  simp only [Codec.Writable, Path.IsText, ← Path.text?_eq_some_iff, Path.codec_write]
  cases p.text? with
  | none => exact iff_of_false nofun nofun
  | some s => exact iff_of_true ⟨_, rfl⟩ ⟨s, rfl⟩

/-- A path that is no text is not even begun. -/
theorem Path.codec_write_eq_error {p : Path} (h : ¬ p.IsText) :
    Path.codec.write p = .error .here := by
  rw [Path.codec_write]
  cases hp : p.text? with
  | none => rfl
  | some s => exact absurd ⟨s, Path.text?_eq_some_iff.mp hp⟩ h

/-! ## Records with paths -/

theorem stringCodec_writable (s : String) : stringCodec.Writable s :=
  ⟨_, rfl⟩

theorem Token.codec_writable (t : Token) : Token.codec.Writable t :=
  ⟨_, rfl⟩

theorem Finding.codec_writable (f : Finding) : Finding.codec.Writable f :=
  ⟨_, rfl⟩

theorem CloneToken.codec_writable (t : CloneToken) : CloneToken.codec.Writable t :=
  ⟨_, rfl⟩

theorem Settings.codec_writable (s : Settings) : Settings.codec.Writable s := by
  have hoptional : ∀ o : Option String, stringCodec.optional.Writable o := fun o =>
    Codec.optional_writable fun a _ => stringCodec_writable a
  have hextensions : stringCodec.list.Writable s.extensions :=
    Codec.list_writable_iff.mpr fun e _ => stringCodec_writable e
  rw [Settings.codec, Codec.record_writable_iff]
  exact ⟨⟨_, rfl⟩, hoptional _, hoptional _, hextensions, trivial⟩

theorem CloneStream.codec_writable_iff {s : CloneStream} :
    CloneStream.codec.Writable s ↔ s.path.IsText := by
  have htokens : CloneToken.codec.list.Writable s.tokens :=
    Codec.list_writable_iff.mpr fun t _ => t.codec_writable
  rw [CloneStream.codec, Codec.record_writable_iff, ← Path.codec_writable_iff]
  exact and_iff_left ⟨htokens, trivial⟩

theorem FileReport.codec_writable_iff {r : FileReport} :
    FileReport.codec.Writable r ↔ r.path.IsText := by
  have hfindings : Finding.codec.list.Writable r.findings :=
    Codec.list_writable_iff.mpr fun f _ => f.codec_writable
  have herrors : stringCodec.list.Writable r.errors :=
    Codec.list_writable_iff.mpr fun e _ => stringCodec_writable e
  rw [FileReport.codec, Codec.record_writable_iff, ← Path.codec_writable_iff]
  exact and_iff_left ⟨hfindings, ⟨_, rfl⟩, herrors, trivial⟩

theorem Summary.codec_writable_iff {s : Summary} :
    Summary.codec.Writable s ↔ ∀ r ∈ s.reports, r.path.IsText := by
  simp only [← FileReport.codec_writable_iff, ← Codec.list_writable_iff]
  rw [Summary.codec, Codec.record_writable_iff]
  constructor
  · rintro ⟨_, _, hreports, _⟩
    exact hreports
  · intro hreports
    exact ⟨⟨_, rfl⟩, ⟨_, rfl⟩, hreports, trivial⟩

/-- An outcome is written if its paths are texts. -/
theorem Outcome.codec_writable_iff {o : Outcome} :
    Outcome.codec.Writable o ↔
      (∀ r ∈ o.summary.reports, r.path.IsText) ∧ ∀ s ∈ o.clones, s.path.IsText := by
  simp only [← CloneStream.codec_writable_iff, ← Codec.list_writable_iff,
    ← Summary.codec_writable_iff]
  rw [Outcome.codec, Codec.record_writable_iff]
  exact and_congr_right fun _ => and_iff_left trivial

/-- An outcome that breaks off at the path of a report, behind its counts and the reports in
    front. -/
def Outcome.begun (processed failed : Nat) (reports : List Json) : BrokenJson :=
  .inObject [] "summary" <|
    .inObject [("files_processed", .number processed), ("files_failed", .number failed)]
      "reports" <| .inArray reports (.inObject [] "path" .here)

section Reports

variable {o : Outcome} {before after : List FileReport} {r : FileReport} {vs : List Json}

/-- An outcome breaks off at the first report whose path is no text. -/
theorem Outcome.write_of_reports (hreports : o.summary.reports = before ++ r :: after)
    (hbefore : FileReport.codec.list.write before = .ok (.array vs)) (hr : ¬ r.path.IsText) :
    Outcome.codec.write o = .error (begun o.summary.processed o.summary.failed vs) := by
  have hreport : FileReport.codec.write r = .error (.inObject [] "path" .here) := by
    simp only [FileReport.codec, Codec.record, Fields.write, Path.codec_write_eq_error hr]
  have hlist := Codec.write_list_eq_error hbefore hreport after
  simp only [Outcome.codec, Summary.codec, Codec.record, Fields.write, Codec.whole, hreports, hlist,
    begun]

/-- Where an outcome is written whole, it begins as one that breaks off behind the same reports. -/
theorem Outcome.begun_begins {document : Json} (hreports : o.summary.reports = before ++ r :: after)
    (hbefore : FileReport.codec.list.write before = .ok (.array vs))
    (hwrite : Outcome.codec.write o = .ok document) :
    (begun o.summary.processed o.summary.failed vs).Begins document := by
  -- The document is opened member by member, down to the path of the report.
  rcases Codec.write_record_eq_ok_iff.mp hwrite with ⟨members, hmembers, rfl⟩
  rcases Fields.write_cons_eq_ok_iff.mp hmembers with ⟨summary, others, hsummary, -, rfl⟩
  rcases Codec.write_record_eq_ok_iff.mp hsummary with ⟨counts, hcounts, rfl⟩
  rcases Fields.write_cons_eq_ok_iff.mp hcounts with ⟨_, second, hprocessed, hsecond, rfl⟩
  rcases Fields.write_cons_eq_ok_iff.mp hsecond with ⟨_, third, hfailed, hthird, rfl⟩
  rcases Fields.write_cons_eq_ok_iff.mp hthird with ⟨reports, _, hwritten, hnone, rfl⟩
  rcases Codec.write_list_eq_ok_iff.mp hwritten with ⟨all, hall, rfl⟩
  rcases Codec.write_list_eq_ok_iff.mp hbefore with ⟨_, hfront, ⟨⟩⟩
  obtain rfl : Json.number o.summary.processed = _ := Except.ok.inj hprocessed
  obtain rfl : Json.number o.summary.failed = _ := Except.ok.inj hfailed
  rw [hreports] at hall
  rcases Codec.eq_append_of_written hfront hall with ⟨_, rest, hreport, rfl⟩
  rcases Codec.write_record_eq_ok_iff.mp hreport with ⟨_, hfields, rfl⟩
  rcases Fields.write_cons_eq_ok_iff.mp hfields with ⟨path, fields, -, -, rfl⟩
  exact .inObject [] others "summary" (.inObject [_, _] _ "reports"
    (.inArray vs rest (.inObject [] fields "path" (.here path))))

/-- What is printed of an outcome that breaks off is the beginning of what is printed of one with
    the same counts and the same reports in front. -/
theorem Outcome.begun_prefix {document : Json} (hreports : o.summary.reports = before ++ r :: after)
    (hbefore : FileReport.codec.list.write before = .ok (.array vs))
    (hwrite : Outcome.codec.write o = .ok document) :
    (begun o.summary.processed o.summary.failed vs).indented <+: document.indented :=
  (begun_begins hreports hbefore hwrite).prefix_indentedAt 0

end Reports

end CloneScan
