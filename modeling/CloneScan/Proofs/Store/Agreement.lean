import CloneScan.Proofs.Collector.Calls
import CloneScan.Proofs.Path.Pieces
import CloneScan.Proofs.Scan.Files
import Mathlib.Algebra.Ring.Nat

/-!
# The Store and Its Log

The store keeps what was saved in two ways. A map holds the last tokens of each path, and a log has
the path of every save. Nothing in the types keeps the two together: each save writes to both. Here
both are known from the list of saves alone, so that they agree.

The map is the harder one, as a save may find its path there under another spelling. It then
replaces the tokens, and leaves the spelling and the place where they are. So the keys of a map and
the values found in it are followed apart. A new value adds at most one key at the end
(`PathMap.keys_insert`), which is how the first spellings of a longer list come about. It changes
what is found under the spellings of its path and nothing else (`PathMap.find?_insert`), which is
how the last value of a longer list does.

That the counts of all first spellings add up to the length of the log is a matter of paths alone:
no path of a list has two first spellings, so each is counted once (`Path.countP_firsts`).

## Main definitions

* `PathMap.lastStored`: The last value of a list that goes by a path.
* `CloneStore.Keeps`: A store has what several saves brought.

## Theorems

* `Path.sum_counts_firsts`: A list of paths, counted by first spellings.
* `PathMap.keys_insertAll`, `PathMap.find?_insertAll`: A map after several values were stored.
* `CloneStore.keeps_receiveAll`: A store after several saves.
* `store_agrees_with_log`: The store, and what counts as one path.
-/

namespace CloneScan

namespace Path

theorem same_equivalence : Equivalence Path.Same :=
  ⟨Same.refl, Same.symm, Same.trans⟩

theorem exists_mem_firsts_iff {p : Path} {ps : List Path} :
    (∃ q ∈ firsts ps, q.Same p) ↔ ∃ q ∈ ps, q.Same p := by
  constructor
  · rintro ⟨q, hq, hsame⟩
    exact ⟨q, mem_of_mem_firsts hq, hsame⟩
  · rintro ⟨q, hq, hsame⟩
    rcases exists_firsts_same hq with ⟨r, hr, hfirst⟩
    exact ⟨r, hr, hfirst.trans hsame⟩

/-- A path has one first spelling in a list that it is in, and none in any other. -/
theorem countP_firsts (p : Path) (ps : List Path) :
    (firsts ps).countP (fun q => p.Same q) = if ∃ q ∈ ps, q.Same p then 1 else 0 := by
  induction ps using List.reverseRecOn with
  | nil => rfl
  | append_singleton ps last ih =>
      have hlast : (∃ q ∈ ps ++ [last], q.Same p) ↔ (∃ q ∈ ps, q.Same p) ∨ last.Same p := by
        simp only [List.mem_append, List.mem_singleton, or_and_right, exists_or, exists_eq_left]
      rw [firsts_concat, List.countP_append, ih]
      by_cases hseen : ∃ q ∈ ps, q.Same last
      · -- The last path has a first spelling already, so it brings nothing new for `p` either.
        have hearlier : last.Same p → ∃ q ∈ ps, q.Same p := by
          rcases hseen with ⟨q, hq, hsame⟩
          exact fun hp => ⟨q, hq, hsame.trans hp⟩
        rw [if_pos hseen, List.countP_nil, Nat.add_zero]
        exact if_congr (hlast.trans (or_iff_left_of_imp hearlier)).symm rfl rfl
      · rw [if_neg hseen, List.countP_singleton]
        by_cases hp : last.Same p
        · have hnone : ¬ ∃ q ∈ ps, q.Same p := by
            rintro ⟨q, hq, hsame⟩
            exact hseen ⟨q, hq, hsame.trans hp.symm⟩
          rw [if_neg hnone, if_pos (decide_eq_true hp.symm), if_pos (hlast.mpr (Or.inr hp))]
        · have hother : ¬ decide (p.Same last) = true := fun h => hp (of_decide_eq_true h).symm
          rw [if_neg hother, Nat.add_zero]
          exact if_congr (hlast.trans (or_iff_left hp)).symm rfl rfl

/-- One path more raises the counts of those spellings that it goes by. -/
theorem sum_counts_concat (spellings ps : List Path) (last : Path) :
    (spellings.map fun p => (ps ++ [last]).countP fun q => q.Same p).sum
      = (spellings.map fun p => ps.countP fun q => q.Same p).sum
        + spellings.countP fun p => last.Same p := by
  induction spellings with
  | nil => rfl
  | cons p rest ih =>
      rw [List.map_cons, List.sum_cons, ih, List.map_cons, List.sum_cons, List.countP_append,
        List.countP_singleton, List.countP_cons]
      omega

/-- Every path of a list is counted under one first spelling. -/
theorem sum_counts_firsts (ps : List Path) :
    ((firsts ps).map fun p => ps.countP fun q => q.Same p).sum = ps.length := by
  induction ps using List.reverseRecOn with
  | nil => rfl
  | append_singleton ps last ih =>
      -- Either the last path raises one count, or it is a first spelling with a count of its own.
      rw [firsts_concat, List.map_append, List.sum_append, sum_counts_concat, ih, countP_firsts,
        List.length_append, List.length_singleton]
      by_cases hseen : ∃ q ∈ ps, q.Same last
      · rw [if_pos hseen, if_pos hseen]
        rfl
      · have hzero : ps.countP (fun q => q.Same last) = 0 := by
          rw [List.countP_eq_zero]
          exact fun q hq hsame => hseen ⟨q, hq, of_decide_eq_true hsame⟩
        rw [if_neg hseen, if_neg hseen, List.map_singleton, List.sum_singleton,
          List.countP_append, hzero, List.countP_singleton,
          if_pos (decide_eq_true (Same.refl last))]

end Path

namespace PathMap

variable {α : Type}

theorem map_fst_insertIn (p : Path) (value : α) (entries : List (Path × α)) :
    (insertIn p value entries).map Prod.fst
      = entries.map Prod.fst ++ if ∃ q ∈ entries.map Prod.fst, q.Same p then [] else [p] := by
  induction entries with
  | nil => rfl
  | cons e rest ih =>
      rw [insertIn]
      by_cases hhere : e.1.Same p
      · have hsome : ∃ q ∈ (e :: rest).map Prod.fst, q.Same p :=
          ⟨e.1, List.mem_cons_self, hhere⟩
        rw [if_pos hhere, if_pos hsome, List.append_nil]
        rfl
      · have hrest : (∃ q ∈ rest.map Prod.fst, q.Same p) ↔
            ∃ q ∈ (e :: rest).map Prod.fst, q.Same p := by
          rw [List.map_cons]
          simp only [List.mem_cons, or_and_right, exists_or, exists_eq_left, hhere, false_or]
        rw [if_neg hhere, List.map_cons, ih]
        exact congrArg (fun l => e.1 :: (rest.map Prod.fst ++ l)) (if_congr hrest rfl rfl)

/-- A value that is stored adds its path to the keys, unless the path is one in some spelling. -/
theorem keys_insert (m : PathMap α) (p : Path) (value : α) :
    (m.insert p value).keys = m.keys ++ if ∃ q ∈ m.keys, q.Same p then [] else [p] :=
  map_fst_insertIn p value m.entries

/-- The keys after several values were stored are the first spellings of their paths. -/
theorem keys_insertAll (stored : List (Path × α)) :
    (insertAll empty stored).keys = Path.firsts (stored.map Prod.fst) := by
  induction stored using List.reverseRecOn with
  | nil => rfl
  | append_singleton stored e ih =>
      rw [insertAll_concat, keys_insert, ih, List.map_append, List.map_singleton,
        Path.firsts_concat]
      exact congrArg _ (if_congr Path.exists_mem_firsts_iff rfl rfl)

/-- The last value of a list that goes by a path. -/
def lastStored (stored : List (Path × α)) (p : Path) : Option α :=
  (stored.filter fun e => e.1.Same p).getLast?.map Prod.snd

theorem lastStored_concat (stored : List (Path × α)) (e : Path × α) (p : Path) :
    lastStored (stored ++ [e]) p = if e.1.Same p then some e.2 else lastStored stored p := by
  rw [lastStored, List.filter_append, List.filter_singleton]
  by_cases hsame : e.1.Same p
  · rw [decide_eq_true hsame, if_pos hsame]
    exact congrArg (Option.map Prod.snd) List.getLast?_concat
  · rw [decide_eq_false hsame, if_neg hsame]
    exact congrArg (fun l => Option.map Prod.snd l.getLast?) (List.append_nil _)

/-- What is found after several values were stored is the last one, under every spelling. -/
theorem find?_insertAll (stored : List (Path × α)) (p : Path) :
    (insertAll empty stored).find? p = lastStored stored p := by
  induction stored using List.reverseRecOn with
  | nil => rfl
  | append_singleton stored e ih =>
      rw [insertAll_concat, find?_insert, ih, lastStored_concat]

theorem lastStored_eq_none_iff {stored : List (Path × α)} {p : Path} :
    lastStored stored p = none ↔ (stored.map Prod.fst).countP (fun q => q.Same p) = 0 := by
  rw [lastStored, Option.map_eq_none_iff, List.getLast?_eq_none_iff, List.filter_eq_nil_iff,
    List.countP_eq_zero, List.forall_mem_map]

/-- Where no key has two spellings, an entry is what is found under its key. -/
theorem find?_of_mem {m : PathMap α} (h : m.keys.Pairwise fun p q => ¬ p.Same q)
    {e : Path × α} (he : e ∈ m.entries) : m.find? e.1 = some e.2 := by
  rcases m with ⟨entries⟩
  simp only [keys, find?] at h he ⊢
  induction entries with
  | nil => exact absurd he List.not_mem_nil
  | cons first rest ih =>
      rw [List.map_cons, List.pairwise_cons] at h
      rw [findIn]
      rcases List.mem_cons.mp he with rfl | hrest
      · exact if_pos (Path.Same.refl _)
      · rw [if_neg (h.1 e.1 (List.mem_map_of_mem hrest))]
        exact ih h.2 hrest

end PathMap

namespace CloneStore

/-- A store has what several saves brought: in its log the path of each, and in its map the last
    tokens of each path. -/
structure Keeps (store : CloneStore) (saves : List (Path × List CloneToken)) : Prop where
  /-- The log is the paths of all saves, in order. -/
  flushes : store.flushes = saves.map Prod.fst
  /-- A path has the tokens of the last save that goes by it. -/
  tokens : ∀ p, store.tokens? p = (saves.filter fun save => save.1.Same p).getLast?.map Prod.snd
  /-- It has none exactly if it was never flushed. -/
  absent : ∀ p, store.tokens? p = none ↔ store.flushCount p = 0
  /-- The report has the paths in the order of their first saves, as they were spelled there. -/
  paths : store.report.map CloneStream.path = Path.firsts (saves.map Prod.fst)
  /-- No path is reported twice. -/
  apart : store.report.Pairwise fun a b => ¬ a.path.Same b.path
  /-- Every path that was saved is reported. -/
  complete : ∀ save ∈ saves, ∃ stream ∈ store.report, stream.path.Same save.1
  /-- What is reported of a path are its tokens. -/
  reported : ∀ stream ∈ store.report, store.tokens? stream.path = some stream.tokens
  fileCount : store.fileCount = store.report.length
  tokenCount : store.tokenCount = (store.report.map fun stream => stream.tokens.length).sum
  /-- Every flush is that of one reported path. -/
  flushCounts :
    (store.report.map fun stream => store.flushCount stream.path).sum = store.flushes.length

theorem flushes_saveAll (store : CloneStore) (saves : List (Path × List CloneToken)) :
    (store.saveAll saves).flushes = store.flushes ++ saves.map Prod.fst := by
  induction saves generalizing store with
  | nil => exact (List.append_nil _).symm
  | cons save rest ih =>
      have hsave : store.saveAll (save :: rest)
          = (store.saveTokens save.1 save.2).saveAll rest := rfl
      rw [hsave, ih, List.map_cons]
      exact List.append_assoc store.flushes [save.1] _

theorem tokenCount_eq_sum (store : CloneStore) :
    store.tokenCount = (store.report.map fun stream => stream.tokens.length).sum := by
  rw [tokenCount, PathMap.values, List.foldl_map, report, List.map_map, List.sum_eq_foldl,
    List.foldl_map]
  rfl

/-- The paths of a report are the keys of the map. -/
theorem map_path_report (store : CloneStore) :
    store.report.map CloneStream.path = store.files.keys := by
  rw [report, List.map_map]
  rfl

/-- A store that several saves were made to has what they brought, if it was empty before. -/
theorem keeps_saveAll (saves : List (Path × List CloneToken)) :
    (empty.saveAll saves).Keeps saves := by
  have hflushes : (empty.saveAll saves).flushes = saves.map Prod.fst := flushes_saveAll empty saves
  have hfiles : (empty.saveAll saves).files = .insertAll .empty saves := files_saveAll empty saves
  have htokens : ∀ p, (empty.saveAll saves).tokens? p = PathMap.lastStored saves p := by
    intro p
    rw [tokens?, hfiles, PathMap.find?_insertAll]
  have hpaths : (empty.saveAll saves).report.map CloneStream.path
      = Path.firsts (saves.map Prod.fst) := by
    rw [map_path_report, hfiles, PathMap.keys_insertAll]
  have hcount : ∀ p, (empty.saveAll saves).flushCount p
      = (saves.map Prod.fst).countP fun q => q.Same p := by
    intro p
    rw [flushCount, hflushes]
  have hapart : (empty.saveAll saves).files.keys.Pairwise fun p q => ¬ p.Same q := by
    rw [← map_path_report, hpaths]
    exact Path.pairwise_firsts _
  refine ⟨hflushes, htokens, fun p => ?_, hpaths, ?_, fun save hsave => ?_,
    fun stream hstream => ?_, ?_, tokenCount_eq_sum _, ?_⟩
  · rw [htokens, hcount, PathMap.lastStored_eq_none_iff]
  · rw [← map_path_report] at hapart
    exact List.pairwise_map.mp hapart
  · rcases Path.exists_firsts_same (List.mem_map_of_mem hsave) with ⟨p, hp, hsame⟩
    rw [← hpaths] at hp
    rcases List.mem_map.mp hp with ⟨stream, hstream, rfl⟩
    exact ⟨stream, hstream, hsame⟩
  · rcases List.mem_map.mp hstream with ⟨e, he, rfl⟩
    exact PathMap.find?_of_mem hapart he
  · rw [fileCount, PathMap.size, report, List.length_map]
  · -- The sum is one over paths, and these are the first spellings of the log.
    have hsum := Path.sum_counts_firsts (saves.map Prod.fst)
    simp only [← hpaths, List.map_map, Function.comp_def, ← hcount] at hsum
    rw [hsum, hflushes]

/-- What a receiver is handed over, a store saves under the path of the file. -/
theorem receiveAll_eq_saveAll (store : CloneStore) (saves : List (SourceFile × List CloneToken)) :
    receiveAll store saves = store.saveAll (saves.map fun save => (save.1.path, save.2)) := by
  induction saves generalizing store with
  | nil => rfl
  | cons save rest ih => exact ih _

end CloneStore

/-- A store that was empty at first agrees with the list of its saves, whatever they are: the log
    with all of them, and the map with the last one of each path. What counts as one path is an
    equivalence: a slash more does not count, nor does a single dot, unless it stands at the
    start. -/
theorem store_agrees_with_log :
    (∀ saves : List (SourceFile × List CloneToken),
      (receiveAll CloneStore.empty saves).Keeps (saves.map fun save => (save.1.path, save.2))) ∧
    Equivalence Path.Same ∧
    (∀ a b : RawText, Path.Same ⟨a ++ "//" ++ b⟩ ⟨a ++ "/" ++ b⟩) ∧
    (∀ a b : RawText, Path.Same ⟨a ++ "/./" ++ b⟩ ⟨a ++ "/" ++ b⟩) ∧
    ∀ p : Path, p.components.head? ≠ some .here → ¬ Path.Same ⟨"./" ++ p.text⟩ p := by
  refine ⟨fun saves => ?_, Path.same_equivalence, Path.same_of_double_slash, Path.same_of_dot,
    fun p => Path.not_same_of_here⟩
  rw [CloneStore.receiveAll_eq_saveAll]
  exact CloneStore.keeps_saveAll _

end CloneScan
