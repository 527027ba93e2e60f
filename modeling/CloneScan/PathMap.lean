import CloneScan.Path

/-!
# Maps Keyed by Path

A small map from paths to values that remembers the order in which its keys first came. Keys
are compared by their steps, so `a//b` finds what was stored under `a/b`. Storing under a
key that is present replaces the value and keeps both the place and the first spelling of
the key.

## Main definitions

* `PathMap`: Entries in the order their keys first came.
* `PathMap.find?`: The value stored under a path.
* `PathMap.insert`: Store a value under a path.
-/

namespace CloneScan

/-- A map from paths to values, in the order its keys first came. -/
structure PathMap (α : Type) where
  /-- The keys as first spelled, with their values. -/
  entries : List (Path × α)
  deriving Repr

namespace PathMap

variable {α : Type}

/-- The map with no entries. -/
def empty : PathMap α :=
  ⟨[]⟩

instance : Inhabited (PathMap α) :=
  ⟨empty⟩

/-- The value of the first entry whose key is the same path. -/
def findIn (p : Path) : List (Path × α) → Option α
  | [] => none
  | (q, value) :: rest => if q.Same p then some value else findIn p rest

/-- The value stored under a path. -/
def find? (m : PathMap α) (p : Path) : Option α :=
  findIn p m.entries

/-- Replaces the value of the first entry whose key is the same path, or adds an entry at the
    end. -/
def insertIn (p : Path) (value : α) : List (Path × α) → List (Path × α)
  | [] => [(p, value)]
  | (q, old) :: rest =>
    if q.Same p then (q, value) :: rest else (q, old) :: insertIn p value rest

/-- Stores a value under a path. -/
def insert (m : PathMap α) (p : Path) (value : α) : PathMap α :=
  ⟨insertIn p value m.entries⟩

/-- The keys in the order they first came, as first spelled. -/
def keys (m : PathMap α) : List Path :=
  m.entries.map Prod.fst

/-- The values, in the order of their keys. -/
def values (m : PathMap α) : List α :=
  m.entries.map Prod.snd

/-- The number of entries. -/
def size (m : PathMap α) : Nat :=
  m.entries.length

end PathMap

end CloneScan
