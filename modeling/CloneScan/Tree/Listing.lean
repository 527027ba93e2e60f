import CloneScan.Tree.Basic

/-!
# Listings

A syntax tree as a flat list of its nodes, each before its children and with their number.
That is how a parser hands a tree over: the numbers alone say where every subtree ends.

A listing is read from its end. What has been read is then a list of complete trees, and a
node takes the first of them as its children.

## Main definitions

* `Listed`: A node with the number of its children.
* `SyntaxTree.listing`: The listing of a tree.
* `SyntaxTree.forestOf`: The trees of a listing.
* `SyntaxTree.ofListing?`: The tree of a listing.

## Theorems

* `SyntaxTree.forestOf_listing`: A listing in front adds its tree in front.
* `SyntaxTree.ofListing_listing`: A tree can be had back from its listing.
-/

namespace CloneScan

/-- A node with the number of its children. -/
structure Listed where
  node : Node
  /-- The number of its children. -/
  childCount : Nat
  deriving Repr, DecidableEq

namespace SyntaxTree

mutual

/-- The nodes of a tree, each before its children. -/
def listing : SyntaxTree → List Listed
  | mk n cs => ⟨n, cs.length⟩ :: listingAll cs

/-- The nodes of several trees, one tree after the other. -/
def listingAll : List SyntaxTree → List Listed
  | [] => []
  | t :: ts => listing t ++ listingAll ts

end

/-- The trees of a listing; nothing when a node has too few trees after it. -/
def forestOf : List Listed → Option (List SyntaxTree)
  | [] => some []
  | l :: rest => do
    let forest ← forestOf rest
    let children := forest.take l.childCount
    if children.length < l.childCount then none
    else some (mk l.node children :: forest.drop l.childCount)

/-- The tree of a listing. -/
def ofListing? (l : List Listed) : Option SyntaxTree :=
  match forestOf l with
  | some [t] => some t
  | _ => none

mutual

/-- A listing in front adds its tree in front. -/
theorem forestOf_listing (t : SyntaxTree) (rest : List Listed) :
    forestOf (t.listing ++ rest) = (forestOf rest).map (t :: ·) := by
  cases t with
  | mk n cs =>
    rw [listing, List.cons_append, forestOf, forestOf_listingAll cs rest]
    cases forestOf rest <;> simp

/-- Listings in front add their trees in front. -/
theorem forestOf_listingAll (ts : List SyntaxTree) (rest : List Listed) :
    forestOf (listingAll ts ++ rest) = (forestOf rest).map (ts ++ ·) := by
  cases ts with
  | nil => simp [listingAll]
  | cons t ts =>
    rw [listingAll, List.append_assoc, forestOf_listing t, forestOf_listingAll ts rest,
      Option.map_map]
    rfl

end

/-- A tree can be had back from its listing. -/
theorem ofListing_listing (t : SyntaxTree) : ofListing? t.listing = some t := by
  have h := forestOf_listing t []
  rw [List.append_nil] at h
  simp [ofListing?, h, forestOf]

end SyntaxTree

end CloneScan
