import CloneScan.Path
import Mathlib.Data.List.Basic
import Mathlib.Tactic.Common

/-!
# Paths Put Together From Pieces

The steps of a path are read off its pieces between slashes, and a path is put together by writing
a slash between two raw texts. So what has to be known of a longer path is how its pieces come from
those of its parts, `splitSlashes_append`. The piece that stands first counts for more than the
others: an empty one is the root, and a single dot is the directory the program runs in. Anywhere
else both are nothing. So the steps of a longer path are those of its front, and behind them those
that its other pieces stand for (`Component.ofPieces_append`).

With the name of an entry at its end a path has one step more, whether or not it ended in a slash
before. That is what the names of a file system are held to: `IsEntryName` asks that a name is one
piece, and one that stands for itself.

## Main definitions

* `IsEntryName`: A name that an entry of a directory may have.

## Theorems

* `splitSlashes_append`: The pieces of a text around a slash.
* `Path.components_of_ne`: The steps of a path by its pieces.
* `Path.components_append`: The steps of two texts with a slash between them.
* `Path.splitSlashes_join`: The pieces of the path of an entry.
* `Path.components_join`: The path of an entry has its name as one more step.
* `Path.same_of_double_slash`, `Path.same_of_dot`, `Path.not_same_of_here`: What counts in a path.
-/

namespace CloneScan

/-! ## Pieces -/

theorem splitSlashes_ne_nil (bytes : List UInt8) : splitSlashes bytes ≠ [] := by
  cases bytes with
  | nil => exact List.cons_ne_nil _ _
  | cons b rest =>
      rw [splitSlashes]
      split
      · exact List.cons_ne_nil _ _
      · split
        · exact List.cons_ne_nil _ _
        · exact List.cons_ne_nil _ _

/-- The pieces around a slash are those in front of it and those behind it. -/
theorem splitSlashes_append (a b : List UInt8) :
    splitSlashes (a ++ slash :: b) = splitSlashes a ++ splitSlashes b := by
  induction a with
  | nil => exact if_pos rfl
  | cons c rest ih =>
      rw [List.cons_append, splitSlashes, splitSlashes, ih]
      by_cases hslash : c = slash
      · rw [if_pos hslash, if_pos hslash, List.cons_append]
      · -- The byte joins the first piece of what follows it, and there is one.
        rw [if_neg hslash, if_neg hslash]
        cases hrest : splitSlashes rest with
        | nil => exact absurd hrest (splitSlashes_ne_nil rest)
        | cons piece later => rfl

/-- Bytes without a slash are one piece. -/
theorem splitSlashes_of_not_mem {bytes : List UInt8} (h : slash ∉ bytes) :
    splitSlashes bytes = [bytes] := by
  induction bytes with
  | nil => rfl
  | cons b rest ih =>
      rw [List.mem_cons, not_or] at h
      rw [splitSlashes, if_neg (Ne.symm h.1), ih h.2]

/-- A name that an entry of a directory may have: one piece of a path, and one that stands for
    itself. -/
def IsEntryName (name : RawText) : Prop :=
  slash ∉ name.bytes ∧ name ≠ "" ∧ name ≠ "." ∧ name ≠ ".."

instance (name : RawText) : Decidable (IsEntryName name) :=
  inferInstanceAs (Decidable (_ ∧ _))

namespace IsEntryName

variable {name : RawText}

theorem splitSlashes_eq (h : IsEntryName name) : splitSlashes name.bytes = [name.bytes] :=
  splitSlashes_of_not_mem h.1

/-- The name of an entry is neither a piece that is passed over nor the way up. -/
theorem piece_ne (h : IsEntryName name) :
    name.bytes ≠ [] ∧ name.bytes ≠ [dot] ∧ name.bytes ≠ [dot, dot] := by
  have hbytes : ∀ {other : RawText}, name ≠ other → name.bytes ≠ other.bytes :=
    fun hne heq => hne (RawText.ext heq)
  exact ⟨hbytes h.2.1, hbytes h.2.2.1, hbytes h.2.2.2⟩

theorem ofPiece?_eq (h : IsEntryName name) :
    Component.ofPiece? name.bytes = some (.name name.bytes) := by
  rw [Component.ofPiece?, if_neg (not_or.mpr ⟨h.piece_ne.1, h.piece_ne.2.1⟩),
    if_neg h.piece_ne.2.2]

end IsEntryName

/-! ## Steps -/

theorem Component.ofPieces_append {first : List (List UInt8)} (h : first ≠ [])
    (second : List (List UInt8)) :
    ofPieces (first ++ second) = ofPieces first ++ second.filterMap ofPiece? := by
  cases first with
  | nil => exact absurd rfl h
  | cons piece rest =>
      rw [List.cons_append, ofPieces, ofPieces, List.filterMap_append, List.append_assoc]

namespace Path

/-- The steps of a path are those of its pieces, if it has any bytes. -/
theorem components_of_ne {p : Path} (h : p.text ≠ "") :
    p.components = Component.ofPieces (splitSlashes p.text.bytes) :=
  if_neg fun hempty => h (RawText.isEmpty_iff.mp hempty)

/-- The steps of two texts with a slash between them. -/
theorem components_append (a b : RawText) :
    (Path.mk (a ++ "/" ++ b)).components
      = Component.ofPieces (splitSlashes a.bytes) ++
        (splitSlashes b.bytes).filterMap Component.ofPiece? := by
  have hbytes : (a ++ "/" ++ b).bytes = a.bytes ++ slash :: b.bytes :=
    List.append_assoc a.bytes [slash] b.bytes
  have hne : (Path.mk (a ++ "/" ++ b)).text ≠ "" := by
    intro hempty
    have hnil : a.bytes ++ slash :: b.bytes = [] :=
      hbytes.symm.trans (congrArg RawText.bytes hempty)
    exact absurd hnil (List.append_ne_nil_of_right_ne_nil _ (List.cons_ne_nil _ _))
  rw [components_of_ne hne, hbytes, splitSlashes_append,
    Component.ofPieces_append (splitSlashes_ne_nil _)]

/-- The path of an entry has the name as its last piece. In front of it are the pieces of the
    directory, less the empty one that a slash at its end makes. -/
theorem splitSlashes_join {p : Path} (hp : p.text ≠ "") {name : RawText} (h : IsEntryName name) :
    ∃ front, front ≠ [] ∧ splitSlashes (p.join name).text.bytes = front ++ [name.bytes] ∧
      (splitSlashes p.text.bytes = front ∨ splitSlashes p.text.bytes = front ++ [[]]) := by
  have hfull : p.text.isEmpty = false :=
    Bool.eq_false_iff.mpr fun hempty => hp (RawText.isEmpty_iff.mp hempty)
  by_cases hslash : p.text.bytes.getLast? = some slash
  · -- The slash at the end is the one that the name comes behind.
    rcases List.getLast?_eq_some_iff.mp hslash with ⟨front, hfront⟩
    have hjoin : (p.join name).text.bytes = front ++ slash :: name.bytes := by
      have hends : (p.text.isEmpty || decide (p.text.bytes.getLast? = some slash)) = true := by
        rw [decide_eq_true hslash, Bool.or_true]
      rw [join, if_pos hends, RawText.bytes_append, hfront, List.append_assoc,
        List.singleton_append]
    refine ⟨splitSlashes front, splitSlashes_ne_nil front, ?_, Or.inr ?_⟩
    · rw [hjoin, splitSlashes_append, h.splitSlashes_eq]
    · rw [hfront, splitSlashes_append]
      rfl
  · have hjoin : (p.join name).text.bytes = p.text.bytes ++ slash :: name.bytes := by
      simp only [join, hfull, hslash, decide_false, Bool.or_false, Bool.false_eq_true, if_false,
        RawText.bytes_append, List.append_assoc]
      rfl
    refine ⟨splitSlashes p.text.bytes, splitSlashes_ne_nil _, ?_, Or.inl rfl⟩
    rw [hjoin, splitSlashes_append, h.splitSlashes_eq]

theorem text_join_ne (p : Path) {name : RawText} (h : IsEntryName name) :
    (p.join name).text ≠ "" := by
  intro hempty
  have htext : name.bytes <:+ (p.join name).text.bytes := by
    unfold join
    split
    · exact ⟨_, rfl⟩
    · exact ⟨_, rfl⟩
  rw [hempty] at htext
  exact h.piece_ne.1 (List.eq_nil_of_suffix_nil htext)

/-- The path of an entry of a directory has the name of the entry as one more step, however the path
    of the directory is spelled. -/
theorem components_join (p : Path) {name : RawText} (h : IsEntryName name) :
    (p.join name).components = p.components ++ [.name name.bytes] := by
  have hlast : [name.bytes].filterMap Component.ofPiece? = [.name name.bytes] := by
    rw [List.filterMap_cons_some h.ofPiece?_eq, List.filterMap_nil]
  rw [components_of_ne (p.text_join_ne h)]
  by_cases hempty : p.text = ""
  · -- In front of the name there is nothing, and it is no root by itself.
    have hjoin : (p.join name).text = name := by
      rw [join, if_pos (by rw [RawText.isEmpty_iff.mpr hempty, Bool.true_or]), hempty]
      rfl
    have hfirst : Component.ofFirst? name.bytes = Component.ofPiece? name.bytes := by
      rw [Component.ofFirst?, if_neg h.piece_ne.1, if_neg h.piece_ne.2.1]
    have hnone : p.components = [] := if_pos (RawText.isEmpty_iff.mpr hempty)
    rw [hjoin, h.splitSlashes_eq, Component.ofPieces, hfirst, h.ofPiece?_eq, hnone]
    rfl
  · rcases splitSlashes_join hempty h with ⟨front, hfront, hpieces, hdirectory⟩
    rw [hpieces, Component.ofPieces_append hfront, hlast, components_of_ne hempty]
    rcases hdirectory with hdirectory | hdirectory
    · rw [hdirectory]
    · rw [hdirectory, Component.ofPieces_append hfront]
      exact congrArg (· ++ _) (List.append_nil _).symm

/-! ## Spellings -/

/-- A slash more does not count. -/
theorem same_of_double_slash (a b : RawText) : Same ⟨a ++ "//" ++ b⟩ ⟨a ++ "/" ++ b⟩ := by
  have hsplit : a ++ "//" ++ b = a ++ "/" ++ ("/" ++ b) := by
    apply RawText.ext
    simp only [RawText.bytes_append, List.append_assoc]
    rfl
  rw [hsplit, Same, components_append, components_append, RawText.bytes_append]
  rfl

/-- Nor does a single dot, where it does not start the path. -/
theorem same_of_dot (a b : RawText) : Same ⟨a ++ "/./" ++ b⟩ ⟨a ++ "/" ++ b⟩ := by
  have hsplit : a ++ "/./" ++ b = a ++ "/" ++ ("./" ++ b) := by
    apply RawText.ext
    simp only [RawText.bytes_append, List.append_assoc]
    rfl
  rw [hsplit, Same, components_append, components_append, RawText.bytes_append]
  rfl

/-- At the start it does, unless there is one already. -/
theorem not_same_of_here {p : Path} (h : p.components.head? ≠ some .here) :
    ¬ Same ⟨"./" ++ p.text⟩ p := by
  intro hsame
  have hsteps : (Path.mk ("./" ++ p.text)).components
      = .here :: (splitSlashes p.text.bytes).filterMap Component.ofPiece? :=
    components_append "." p.text
  rw [Same, hsteps] at hsame
  exact h (by rw [← hsame, List.head?_cons])

end Path

end CloneScan
