import CloneScan.Proofs.Collector.TokenFate
import Mathlib.Data.List.Forall2

/-!
# When Two Sequences Have the Same Images

A search for clones sees images and nothing else, so the policy means what equality of images
means. It is meant to forget the text of the sorts it ignores and to keep everything else:
tokens of one ignored sort are alike, and so are tokens of the same text when neither is
ignored. `ImagePolicy.Alike` says this without a word about placeholders.

Placeholders are texts among texts, and there is nothing that sets them apart. Different sorts
have different ones, so two sorts that are ignored are never taken for each other. But a token
that is not ignored keeps its text, and its text may be a placeholder: with the literals ignored
and the names kept, a name `_N` has the image of every number. `ImagePolicy.Mimics` is this one
case, and `images_eq_iff` says that there is no other.

## Main definitions

* `ImagePolicy.images`: The images of several tokens.
* `ImagePolicy.Alike`: The policy does not tell two tokens apart, and is not meant to.
* `ImagePolicy.Mimics`: A token that is kept is spelled like a placeholder in use.

## Theorems

* `ImagePolicy.placeholder_injective`: No two sorts have the same placeholder.
* `ImagePolicy.imageText_eq_iff`: When two tokens have the same image.
* `ImagePolicy.images_eq_iff`: When two sequences have the same images.
* `ImagePolicy.name_like_a_number`: A name is taken for a number.
-/

namespace CloneScan

namespace ImagePolicy

/-- The images of several tokens, in order. -/
def images (p : ImagePolicy) (ts : List Token) : List String :=
  ts.filterMap p.image

/-- The text a token of code compares as. -/
def imageText (p : ImagePolicy) (t : Token) : String :=
  if p.ignores t.kind then (placeholder t.kind).getD t.value else t.value

/-- Two tokens are alike if they are of one sort that the policy ignores, or if it ignores neither
    and they have the same text. -/
def Alike (p : ImagePolicy) (t u : Token) : Prop :=
  (t.kind = u.kind ∧ p.ignores t.kind = true) ∨
    (p.ignores t.kind = false ∧ p.ignores u.kind = false ∧ t.value = u.value)

instance (p : ImagePolicy) (t u : Token) : Decidable (p.Alike t u) :=
  inferInstanceAs (Decidable (_ ∨ _))

/-- A token that the policy does not ignore is spelled like the placeholder of a sort that it
    does. -/
structure Mimics (p : ImagePolicy) (t : Token) (kind : TokenKind) : Prop where
  /-- The token keeps its text. -/
  kept : p.ignores t.kind = false
  /-- The placeholder is in use. -/
  inUse : p.ignores kind = true
  /-- The text is the placeholder. -/
  spelled : placeholder kind = some t.value

instance (p : ImagePolicy) (t : Token) (kind : TokenKind) : Decidable (p.Mimics t kind) :=
  decidable_of_iff (p.ignores t.kind = false ∧ p.ignores kind = true ∧
      placeholder kind = some t.value)
    ⟨fun h => ⟨h.1, h.2.1, h.2.2⟩, fun h => ⟨h.kept, h.inUse, h.spelled⟩⟩

/-- No two sorts of token have the same placeholder. -/
theorem placeholder_injective {a b : TokenKind} {s : String} (ha : placeholder a = some s)
    (hb : placeholder b = some s) : a = b := by
  revert hb
  rw [← ha]
  cases a with
  | endOfFile | other => exact absurd ha.symm (Option.some_ne_none s)
  | identifier | numericLiteral | stringLiteral | characterLiteral =>
      cases b with
      | endOfFile | other => decide
      | identifier | numericLiteral | stringLiteral | characterLiteral => decide

/-- A sort of token that is ignored has a placeholder. -/
theorem placeholder_of_ignores {p : ImagePolicy} {kind : TokenKind} (h : p.ignores kind = true) :
    ∃ s, placeholder kind = some s := by
  cases kind with
  | endOfFile | other => exact absurd h Bool.false_ne_true
  | identifier | numericLiteral | stringLiteral | characterLiteral => exact ⟨_, rfl⟩

/-- A token of code compares as its text. -/
theorem image_of_isCode (p : ImagePolicy) {t : Token} (h : t.IsCode) :
    p.image t = some (p.imageText t) := by
  have hcode : ¬ (t.kind = .endOfFile ∨ t.generated = true) := by
    rintro (hend | hgenerated)
    · exact h.1 hend
    · exact Bool.noConfusion (h.2.symm.trans hgenerated)
  unfold image imageText
  rw [if_neg hcode]
  split
  · rfl
  · rfl

/-- A token that is kept compares as what it is. -/
theorem imageText_of_kept {p : ImagePolicy} {t : Token} (h : p.ignores t.kind = false) :
    p.imageText t = t.value := by
  rw [imageText, h, if_neg Bool.false_ne_true]

/-- A token that is ignored compares as the placeholder of its sort. -/
theorem placeholder_imageText {p : ImagePolicy} {t : Token} (h : p.ignores t.kind = true) :
    placeholder t.kind = some (p.imageText t) := by
  rcases placeholder_of_ignores h with ⟨s, hs⟩
  rw [imageText, if_pos h, hs, Option.getD_some]

/-- Two tokens that are ignored have the same image exactly if they are of one sort. -/
theorem imageText_eq_iff_kind {p : ImagePolicy} {t u : Token} (ht : p.ignores t.kind = true)
    (hu : p.ignores u.kind = true) : p.imageText t = p.imageText u ↔ t.kind = u.kind := by
  have hfirst := placeholder_imageText ht
  have hsecond := placeholder_imageText hu
  constructor
  · intro hsame
    exact placeholder_injective hfirst (hsame ▸ hsecond)
  · intro hkind
    rw [hkind, hsecond, Option.some.injEq] at hfirst
    exact hfirst.symm

/-- A token that is ignored and one that is kept have the same image exactly if the second is
    spelled like the placeholder of the first. -/
theorem imageText_eq_iff_mimics {p : ImagePolicy} {t u : Token} (ht : p.ignores t.kind = true)
    (hu : p.ignores u.kind = false) : p.imageText t = p.imageText u ↔ p.Mimics u t.kind := by
  rw [imageText_of_kept hu]
  constructor
  · intro hsame
    exact ⟨hu, ht, hsame ▸ placeholder_imageText ht⟩
  · intro hmimics
    exact Option.some.inj ((placeholder_imageText ht).symm.trans hmimics.spelled)

/-- Two tokens have the same image if they are alike, or if one of them is spelled like the
    placeholder of the other; not otherwise. -/
theorem imageText_eq_iff (p : ImagePolicy) (t u : Token) :
    p.imageText t = p.imageText u ↔ p.Alike t u ∨ p.Mimics t u.kind ∨ p.Mimics u t.kind := by
  -- A token mimics only if it is kept, and only what is ignored.
  have hkept {a : Token} (kind : TokenKind) (ha : p.ignores a.kind = true) :
      ¬ p.Mimics a kind := fun h => Bool.noConfusion (ha.symm.trans h.kept)
  have hinUse (a : Token) {kind : TokenKind} (hkind : p.ignores kind = false) :
      ¬ p.Mimics a kind := fun h => Bool.noConfusion (hkind.symm.trans h.inUse)
  cases ht : p.ignores t.kind with
  | true =>
      cases hu : p.ignores u.kind with
      | true =>
          simp only [imageText_eq_iff_kind ht hu, Alike, ht, hu, and_true, reduceCtorEq,
            false_and, or_false, hkept u.kind ht, hkept t.kind hu]
      | false =>
          have hne : t.kind ≠ u.kind := fun h => Bool.noConfusion (ht.symm.trans (h ▸ hu))
          simp only [imageText_eq_iff_mimics ht hu, Alike, ht, hne, false_and, reduceCtorEq,
            or_false, hkept u.kind ht, false_or]
  | false =>
      cases hu : p.ignores u.kind with
      | true =>
          rw [eq_comm]
          simp only [imageText_eq_iff_mimics hu ht, Alike, ht, hu, reduceCtorEq, and_false,
            false_and, or_false, hkept t.kind hu, false_or]
      | false =>
          rw [imageText_of_kept ht, imageText_of_kept hu]
          simp only [Alike, ht, hu, reduceCtorEq, and_false, true_and, false_or, hinUse t hu,
            hinUse u ht, or_false]

/-- The images of tokens of code are their texts, one for each. -/
theorem images_of_isCode (p : ImagePolicy) {ts : List Token} (h : ∀ t ∈ ts, t.IsCode) :
    p.images ts = ts.map p.imageText := by
  rw [images, ← List.filterMap_eq_map]
  exact List.filterMap_congr fun t ht => p.image_of_isCode (h t ht)

/-- Two sequences of tokens of code have the same images exactly if they are equally long and at
    each place the tokens are alike, or one of them is spelled like the placeholder of the other.
    So if no token of either is spelled like a placeholder in use, the images are the same exactly
    if the tokens are alike place by place. -/
theorem images_eq_iff (p : ImagePolicy) (ts us : List Token) (hts : ∀ t ∈ ts, t.IsCode)
    (hus : ∀ u ∈ us, u.IsCode) :
    (p.images ts = p.images us ↔
      List.Forall₂ (fun t u => p.Alike t u ∨ p.Mimics t u.kind ∨ p.Mimics u t.kind) ts us) ∧
    ((∀ t ∈ ts ++ us, ∀ kind, ¬ p.Mimics t kind) →
      (p.images ts = p.images us ↔ List.Forall₂ p.Alike ts us)) := by
  have hsame : p.images ts = p.images us ↔
      List.Forall₂ (fun t u => p.Alike t u ∨ p.Mimics t u.kind ∨ p.Mimics u t.kind) ts us := by
    rw [images_of_isCode p hts, images_of_isCode p hus, ← List.forall₂_eq_eq_eq,
      List.forall₂_map_left_iff, List.forall₂_map_right_iff]
    simp only [imageText_eq_iff]
  refine ⟨hsame, fun hnone => ?_⟩
  rw [hsame]
  constructor
  · intro hall
    rcases List.forall₂_iff_zip.mp hall with ⟨hlength, hplaces⟩
    refine List.forall₂_iff_zip.mpr ⟨hlength, fun {t u} hpair => ?_⟩
    rcases List.of_mem_zip hpair with ⟨ht, hu⟩
    rcases hplaces hpair with halike | hmimics | hmimics
    · exact halike
    · exact absurd hmimics (hnone t (List.mem_append_left us ht) u.kind)
    · exact absurd hmimics (hnone u (List.mem_append_right ts hu) t.kind)
  · exact fun hall => hall.imp fun _ _ halike => Or.inl halike

/-- Two assignments with the literals ignored: the names are the same, and so are the images. With a
    name in the place of the second number they are not. No token is spelled like a placeholder
    in use. -/
theorem images_eq_iff_of_assignments :
    let p : ImagePolicy := ⟨true, false⟩
    let ts : List Token := [⟨.identifier, "x", 1, 1, false⟩, ⟨.other, "=", 1, 3, false⟩,
      ⟨.numericLiteral, "42", 1, 5, false⟩, ⟨.stringLiteral, "\"a\"", 1, 8, false⟩]
    let us : List Token := [⟨.identifier, "x", 7, 1, false⟩, ⟨.other, "=", 7, 3, false⟩,
      ⟨.numericLiteral, "0x1F", 7, 5, false⟩, ⟨.stringLiteral, "\"\"", 7, 10, false⟩]
    let vs : List Token := us.set 2 ⟨.identifier, "y", 7, 5, false⟩
    (∀ t ∈ ts, t.IsCode) ∧ (∀ u ∈ us, u.IsCode) ∧ (∀ v ∈ vs, v.IsCode) ∧
      (∀ t ∈ ts ++ us, ∀ kind, ¬ p.Mimics t kind) ∧
      p.images ts = p.images us ∧ p.images ts ≠ p.images vs := by
  intro p ts us vs
  have hts : ∀ t ∈ ts, t.IsCode := by
    decide
  have hus : ∀ u ∈ us, u.IsCode := by
    decide
  have hvs : ∀ v ∈ vs, v.IsCode := by
    decide
  have hnone (kind : TokenKind) : ∀ t ∈ ts ++ us, ¬ p.Mimics t kind := by
    cases kind with
    | identifier | numericLiteral | stringLiteral => decide
    | characterLiteral | endOfFile | other => decide
  refine ⟨hts, hus, hvs, fun t ht kind => hnone kind t ht, ?_, fun hsame => ?_⟩
  · have halike : List.Forall₂ p.Alike ts us := by
      decide
    exact ((images_eq_iff p ts us hts hus).2 fun t ht kind => hnone kind t ht).mpr halike
  · have hplaces := (images_eq_iff p ts vs hts hvs).1.mp hsame
    exact absurd hplaces (by decide)

/-- With the literals ignored and the names kept, a name that is spelled like the placeholder of
    numbers has the image of a number. The two are not alike: they are of different sorts, and
    only one of the sorts is ignored. -/
theorem name_like_a_number :
    let p : ImagePolicy := ⟨true, false⟩
    let name : Token := ⟨.identifier, "_N", 1, 1, false⟩
    let number : Token := ⟨.numericLiteral, "42", 1, 1, false⟩
    (∀ t ∈ [name], t.IsCode) ∧ (∀ u ∈ [number], u.IsCode) ∧
      p.images [name] = p.images [number] ∧ ¬ List.Forall₂ p.Alike [name] [number] := by
  decide

end ImagePolicy

end CloneScan
