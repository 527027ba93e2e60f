import CloneScan.PathMap
import Mathlib.Data.List.Basic
import Mathlib.Data.List.Induction

/-!
# Paths of Several Spellings

One file may be named several times in a run, and not always with the same letters. A map keyed
by path takes all spellings for one key. It keeps the place and the spelling of the first, and
the value of the last.

So the keys of a map are the first spellings of what was stored in it. `Path.firsts` says which
those are by recursion on the list alone: the first path stands, and the rest is thinned of what
is the same. It may also be read from the other end, where a path that comes last adds itself
unless it was there before (`Path.firsts_concat`), and that is how a map meets it.

## Main definitions

* `Path.firsts`: The first spelling of each path of a list.
* `PathMap.insertAll`: A map with several values stored in it.

## Theorems

* `Path.firsts_concat`: One path more adds at most itself.
* `Path.exists_firsts_same`, `Path.pairwise_firsts`: Every path has exactly one first spelling.
* `PathMap.find?_insert`: What is found after one value was stored.
* `PathMap.find?_congr`: All spellings find the same value.
* `PathMap.entries_insertAll`: The entries of a map whose values do not depend on the spelling.
-/

namespace CloneScan

namespace Path

theorem Same.refl (p : Path) : p.Same p :=
  rfl

theorem Same.symm {p q : Path} (h : p.Same q) : q.Same p :=
  Eq.symm h

theorem Same.trans {p q r : Path} (hfirst : p.Same q) (hsecond : q.Same r) : p.Same r :=
  Eq.trans hfirst hsecond

/-- The first spelling of each path of a list, in order. -/
def firsts : List Path → List Path
  | [] => []
  | p :: rest => p :: (firsts rest).filter fun q => ¬ p.Same q

theorem mem_of_mem_firsts {p : Path} {ps : List Path} (h : p ∈ firsts ps) : p ∈ ps := by
  induction ps with
  | nil => exact h
  | cons first rest ih =>
      rw [firsts, List.mem_cons] at h
      rcases h with rfl | hrest
      · exact List.mem_cons_self
      · exact List.mem_cons_of_mem _ (ih (List.mem_of_mem_filter hrest))

/-- Every path of a list has a first spelling. -/
theorem exists_firsts_same {p : Path} {ps : List Path} (h : p ∈ ps) :
    ∃ q ∈ firsts ps, q.Same p := by
  induction ps with
  | nil => exact absurd h List.not_mem_nil
  | cons first rest ih =>
      rw [firsts]
      by_cases hfirst : first.Same p
      · exact ⟨first, List.mem_cons_self, hfirst⟩
      · rcases List.mem_cons.mp h with rfl | hrest
        · exact absurd (Same.refl _) hfirst
        · rcases ih hrest with ⟨q, hq, hsame⟩
          refine ⟨q, List.mem_cons_of_mem _ (List.mem_filter.mpr ⟨hq, ?_⟩), hsame⟩
          exact decide_eq_true fun hboth => hfirst (hboth.trans hsame)

/-- No path has two first spellings. -/
theorem pairwise_firsts (ps : List Path) : (firsts ps).Pairwise fun p q => ¬ p.Same q := by
  induction ps with
  | nil => exact List.Pairwise.nil
  | cons first rest ih =>
      rw [firsts]
      refine List.Pairwise.cons (fun q hq => ?_) (ih.filter _)
      exact of_decide_eq_true (List.mem_filter.mp hq).2

/-- A path at the end of a list adds itself to the first spellings, unless it was there before. -/
theorem firsts_concat (ps : List Path) (p : Path) :
    firsts (ps ++ [p]) = firsts ps ++ if ∃ q ∈ ps, q.Same p then [] else [p] := by
  induction ps with
  | nil => rfl
  | cons first rest ih =>
      rw [List.cons_append, firsts, firsts, ih, List.filter_append, List.cons_append]
      congr 2
      by_cases hrest : ∃ q ∈ rest, q.Same p
      · rcases hrest with ⟨q, hq, hsame⟩
        rw [if_pos ⟨q, hq, hsame⟩, if_pos ⟨q, List.mem_cons_of_mem _ hq, hsame⟩,
          List.filter_nil]
      · rw [if_neg hrest]
        by_cases hfirst : first.Same p
        · rw [if_pos ⟨first, List.mem_cons_self, hfirst⟩, List.filter_cons_of_neg (by simpa),
            List.filter_nil]
        · rw [if_neg (by simpa [hfirst] using hrest), List.filter_cons_of_pos (by simpa),
            List.filter_nil]

end Path

namespace PathMap

variable {α : Type}

/-- All spellings of a path find the same value. -/
theorem find?_congr (m : PathMap α) {p q : Path} (h : p.Same q) : m.find? p = m.find? q := by
  rcases m with ⟨entries⟩
  simp only [find?]
  induction entries with
  | nil => rfl
  | cons e rest ih =>
      have hiff : e.1.Same p ↔ e.1.Same q := ⟨fun hp => hp.trans h, fun hq => hq.trans h.symm⟩
      rw [findIn, findIn, ih]
      exact if_congr hiff rfl rfl

/-- A stored value is found under every spelling of its path, and the other values are found as
    before. -/
theorem find?_insert (m : PathMap α) (p q : Path) (value : α) :
    (m.insert p value).find? q = if p.Same q then some value else m.find? q := by
  rcases m with ⟨entries⟩
  simp only [insert, find?]
  induction entries with
  | nil => rfl
  | cons e rest ih =>
      rw [insertIn]
      by_cases hhere : e.1.Same p
      · rw [if_pos hhere, findIn, findIn]
        by_cases hasked : p.Same q
        · rw [if_pos hasked, if_pos (hhere.trans hasked)]
        · have hother : ¬ e.1.Same q := fun h => hasked (hhere.symm.trans h)
          rw [if_neg hasked, if_neg hother, if_neg hother]
      · rw [if_neg hhere, findIn, findIn, ih]
        by_cases hasked : p.Same q
        · rw [if_pos hasked, if_pos hasked, if_neg fun h => hhere (h.trans hasked.symm)]
        · rw [if_neg hasked, if_neg hasked]

/-- Storing the value that every spelling of the path has already changes nothing. -/
theorem insertIn_of_present {p : Path} {value : α} {entries : List (Path × α)}
    (hpresent : ∃ e ∈ entries, e.1.Same p) (hvalue : ∀ e ∈ entries, e.1.Same p → e.2 = value) :
    insertIn p value entries = entries := by
  induction entries with
  | nil => exact absurd hpresent (by simp only [List.not_mem_nil, false_and, exists_false,
      not_false_eq_true])
  | cons e rest ih =>
      rw [insertIn]
      by_cases hhere : e.1.Same p
      · rw [if_pos hhere, ← hvalue e List.mem_cons_self hhere]
      · rw [if_neg hhere, ih ?_ fun a ha => hvalue a (List.mem_cons_of_mem _ ha)]
        rcases hpresent with ⟨a, ha, hsame⟩
        rcases List.mem_cons.mp ha with rfl | hrest
        · exact absurd hsame hhere
        · exact ⟨a, hrest, hsame⟩

/-- Storing under a path that is new adds an entry at the end. -/
theorem insertIn_of_absent {p : Path} {value : α} {entries : List (Path × α)}
    (h : ∀ e ∈ entries, ¬ e.1.Same p) : insertIn p value entries = entries ++ [(p, value)] := by
  induction entries with
  | nil => rfl
  | cons e rest ih =>
      rw [insertIn, if_neg (h e List.mem_cons_self),
        ih fun a ha => h a (List.mem_cons_of_mem _ ha), List.cons_append]

/-- Stores several values, one after the other. -/
def insertAll (m : PathMap α) (stored : List (Path × α)) : PathMap α :=
  stored.foldl (fun m e => m.insert e.1 e.2) m

theorem insertAll_concat (m : PathMap α) (stored : List (Path × α)) (e : Path × α) :
    m.insertAll (stored ++ [e]) = (m.insertAll stored).insert e.1 e.2 := by
  rw [insertAll, List.foldl_append]
  rfl

/-- Where key and value are the same for all spellings of a path, the entries are those of the
    first spellings. -/
theorem entries_insertAll (f : Path → Path × α) (ps : List Path)
    (hkey : ∀ p ∈ ps, (f p).1.Same p)
    (hspelling : ∀ p ∈ ps, ∀ q ∈ ps, p.Same q → f p = f q) :
    (insertAll empty (ps.map f)).entries = (Path.firsts ps).map f := by
  induction ps using List.reverseRecOn with
  | nil => rfl
  | append_singleton ps p ih =>
      have hbefore := ih (fun q hq => hkey q (List.mem_append_left _ hq))
        (fun q hq r hr => hspelling q (List.mem_append_left _ hq) r (List.mem_append_left _ hr))
      have hlast : p ∈ ps ++ [p] := List.mem_append_right _ List.mem_cons_self
      have hfound : ∀ q ∈ ps, (f q).1.Same (f p).1 → f q = f p := by
        intro q hq hsame
        have hearlier := List.mem_append_left [p] hq
        exact hspelling q hearlier p hlast
          (((hkey q hearlier).symm.trans hsame).trans (hkey p hlast))
      rw [List.map_append, List.map_singleton, insertAll_concat, insert, hbefore,
        Path.firsts_concat]
      by_cases hseen : ∃ q ∈ ps, q.Same p
      · rw [if_pos hseen, List.append_nil]
        refine insertIn_of_present ?_ fun e he hsame => ?_
        · rcases hseen with ⟨q, hq, hsame⟩
          rcases Path.exists_firsts_same hq with ⟨r, hr, hfirst⟩
          refine ⟨f r, List.mem_map_of_mem hr, ?_⟩
          have hr' := List.mem_append_left [p] (Path.mem_of_mem_firsts hr)
          exact ((hkey r hr').trans (hfirst.trans hsame)).trans (hkey p hlast).symm
        · rcases List.mem_map.mp he with ⟨r, hr, rfl⟩
          exact congrArg Prod.snd (hfound r (Path.mem_of_mem_firsts hr) hsame)
      · rw [if_neg hseen, List.map_append, List.map_singleton]
        refine insertIn_of_absent fun e he hsame => hseen ?_
        rcases List.mem_map.mp he with ⟨r, hr, rfl⟩
        have hr' := Path.mem_of_mem_firsts hr
        exact ⟨r, hr', ((hkey r (List.mem_append_left _ hr')).symm.trans hsame).trans
          (hkey p hlast)⟩

end PathMap

end CloneScan
