import CloneScan.CloneCollector

/-!
# What Becomes of a Token

The collector takes a token inside a function in one of three ways. It saves the token, it
leaves a remark about it, or it does neither, and which of the three depends on the token, the
policy and the file alone. `cloneTokenOf?` and `noteOf?` give what is saved and what is
remarked.

The policy decides first whether the token is code. It asks for nothing but the sort of the
token and where the token came from, so all policies agree on that. The file decides the rest:
a token of code is saved if its span lies in the file, and remarked on if it does not.

## Main definitions

* `cloneTokenOf?`, `noteOf?`: What is saved of a token and what is remarked on it.
* `Token.IsCode`: A token that has an image.

## Theorems

* `image_eq_none_iff`, `exists_image`: A token has an image exactly if it is code.
* `cloneTokenOf?_of_not_code`, `noteOf?_of_not_code`: Any other token is passed over.
* `cloneTokenOf?_or_noteOf?`: A token of code is saved or remarked on, and not both.
* `cloneTokenOf?_eq_some_iff`: When a token is saved, and as what.
-/

namespace CloneScan

/-- The clone token that a token inside a function becomes, if it is code and its span lies in
    the file. -/
def cloneTokenOf? (policy : ImagePolicy) (file : SourceFile) (t : Token) : Option CloneToken :=
  match policy.image t, file.tokenSpan t with
  | some image, .ok span => some ⟨span, image⟩
  | _, _ => none

/-- The remark about a token inside a function, if it is code and its span was refused. -/
def noteOf? (policy : ImagePolicy) (file : SourceFile) (path : Path) (t : Token) : Option Note :=
  match policy.image t, file.tokenSpan t with
  | some _, .error cause =>
    some ⟨s!"CPD token dropped: {cause.message}", path, t.line, t.column⟩
  | _, _ => none

/-- A token is code: it does not end the file, and the parser did not put it in. -/
def Token.IsCode (t : Token) : Prop :=
  t.kind ≠ .endOfFile ∧ t.generated = false

instance (t : Token) : Decidable t.IsCode :=
  inferInstanceAs (Decidable (_ ∧ _))

theorem image_eq_none_iff (policy : ImagePolicy) (t : Token) :
    policy.image t = none ↔ ¬ t.IsCode := by
  have hcode : t.IsCode ↔ ¬ (t.kind = .endOfFile ∨ t.generated = true) := by
    rw [Token.IsCode, not_or, Bool.not_eq_true]
  unfold ImagePolicy.image
  by_cases hnot : t.kind = .endOfFile ∨ t.generated = true
  · rw [if_pos hnot, hcode]
    exact ⟨fun _ h => h hnot, fun _ => rfl⟩
  · rw [if_neg hnot, hcode]
    refine ⟨fun h => ?_, fun h => absurd hnot h⟩
    split at h
    · exact absurd h (Option.some_ne_none _)
    · exact absurd h (Option.some_ne_none _)

/-- A token of code has an image, whatever the policy. -/
theorem exists_image (policy : ImagePolicy) {t : Token} (h : t.IsCode) :
    ∃ image, policy.image t = some image :=
  Option.ne_none_iff_exists'.mp fun hnone => (image_eq_none_iff policy t).mp hnone h

/-- A token that is not code is not saved. -/
theorem cloneTokenOf?_of_not_code (policy : ImagePolicy) (file : SourceFile) {t : Token}
    (h : ¬ t.IsCode) : cloneTokenOf? policy file t = none := by
  rw [cloneTokenOf?, (image_eq_none_iff policy t).mpr h]

/-- Nor is anything remarked on it. -/
theorem noteOf?_of_not_code (policy : ImagePolicy) (file : SourceFile) (path : Path) {t : Token}
    (h : ¬ t.IsCode) : noteOf? policy file path t = none := by
  rw [noteOf?, (image_eq_none_iff policy t).mpr h]

/-- A token of code is saved with the span that the file gives it and with its image, or there is
    a remark with the reason of the refusal and the place of the token; never both. -/
theorem cloneTokenOf?_or_noteOf? (policy : ImagePolicy) (file : SourceFile) (path : Path)
    {t : Token} (h : t.IsCode) :
    (∃ span image, file.tokenSpan t = .ok span ∧ policy.image t = some image ∧
      cloneTokenOf? policy file t = some ⟨span, image⟩ ∧ noteOf? policy file path t = none) ∨
    ∃ cause, file.tokenSpan t = .error cause ∧ cloneTokenOf? policy file t = none ∧
      noteOf? policy file path t
        = some ⟨s!"CPD token dropped: {cause.message}", path, t.line, t.column⟩ := by
  cases himage : policy.image t with
  | none => exact absurd h ((image_eq_none_iff policy t).mp himage)
  | some image =>
      cases hspan : file.tokenSpan t with
      | ok span =>
          refine Or.inl ⟨span, image, rfl, rfl, ?_, ?_⟩
          · rw [cloneTokenOf?, himage, hspan]
          · rw [noteOf?, himage, hspan]
      | error cause =>
          refine Or.inr ⟨cause, rfl, ?_, ?_⟩
          · rw [cloneTokenOf?, himage, hspan]
          · rw [noteOf?, himage, hspan]

/-- A token of code gives a clone token exactly if its span lies in the file. -/
theorem cloneTokenOf?_eq_some_iff {policy : ImagePolicy} {file : SourceFile} {t : Token}
    {k : CloneToken} :
    cloneTokenOf? policy file t = some k ↔
      file.tokenSpan t = .ok k.span ∧ policy.image t = some k.image := by
  unfold cloneTokenOf?
  rcases k with ⟨span, image⟩
  cases himage : policy.image t with
  | none => simp only [reduceCtorEq, and_false]
  | some text =>
      cases hspan : file.tokenSpan t with
      | error cause => simp only [reduceCtorEq, false_and]
      | ok place =>
          simp only [Option.some.injEq, CloneToken.mk.injEq, Except.ok.injEq]

end CloneScan
