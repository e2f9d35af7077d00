import ExploitReplay.Text.Columns

/-!
# Clusters

A cluster is what a terminal draws in one place: a character that takes columns, with the marks,
selectors and joined characters after it. A text is cut between clusters, never inside one.

## Main definitions

* `Cluster`, `clusters cs`: the clusters of a text
* `fitted w cs`: the text in exactly `w` columns

## Main results

* `flatten_clusters`: the clusters of a text make up the text
-/

namespace ExploitReplay.Text

/-- Characters that are drawn in one place, and the columns they take. -/
structure Cluster where
  text : List Char
  columns : Nat
deriving DecidableEq, Repr

/-! ### The clusters of a text -/

/-- The clusters of the part of a text that has been read. -/
structure Clustering where
  /-- The clusters before the last one. -/
  done : List Cluster := []
  last : Option Cluster := none
  /-- The last character that takes columns, unless a selector has widened it. -/
  base : Option Char := none
  /-- The part ends with a joiner. -/
  joins : Bool := false

namespace Clustering

/-- All clusters. -/
def all (k : Clustering) : List Cluster :=
  k.done ++ k.last.toList

/-- One more character in the last cluster, which takes some more columns then; the first character
of a text is a cluster of its own. -/
def extend (k : Clustering) (c : Char) (more : Nat) : Clustering :=
  match k.last with
  | none => { k with last := some ⟨[c], 0⟩ }
  | some g => { k with last := some ⟨g.text ++ [c], g.columns + more⟩ }

/-- One more character. -/
def step (k : Clustering) (c : Char) : Clustering :=
  if k.joins then { k.extend c 0 with joins := false }
  else if c = joiner then { k.extend c 0 with joins := k.last.isSome }
  else if c = selector then
    if k.last.isSome && k.base.any isWidened then { k.extend c 1 with base := none }
    else k.extend c 0
  else if Text.columns c = 0 then k.extend c 0
  else { done := k.all, last := some ⟨[c], Text.columns c⟩, base := some c }

end Clustering

/-- The clusters of a text. -/
def clusters (cs : List Char) : List Cluster :=
  (cs.foldl Clustering.step {}).all

theorem Clustering.flatMap_all_extend (k : Clustering) (c : Char) (more : Nat) :
    (k.extend c more).all.flatMap Cluster.text = k.all.flatMap Cluster.text ++ [c] := by
  unfold extend all
  cases k.last <;> simp

theorem Clustering.flatMap_all_step (k : Clustering) (c : Char) :
    (k.step c).all.flatMap Cluster.text = k.all.flatMap Cluster.text ++ [c] := by
  have extended := fun more => flatMap_all_extend k c more
  unfold step
  split
  · exact extended 0
  split
  · exact extended 0
  split
  · split
    · exact extended 1
    · exact extended 0
  split
  · exact extended 0
  · simp [all]

/-- **The clusters of a text make up the text.** -/
theorem flatten_clusters (cs : List Char) : (clusters cs).flatMap Cluster.text = cs := by
  have general : ∀ (cs : List Char) (k : Clustering),
      (cs.foldl Clustering.step k).all.flatMap Cluster.text =
        k.all.flatMap Cluster.text ++ cs := by
    intro cs
    induction cs with
    | nil => simp
    | cons c cs ih =>
      intro k
      rw [List.foldl_cons, ih, Clustering.flatMap_all_step]
      simp
  rw [clusters, general]
  rfl

/-! ### Cutting -/

/-- The clusters that take `n` columns; a blank stands for half of one. -/
def takeColumns : Nat → List Cluster → List Char
  | 0, _ => []
  | _, [] => []
  | n + 1, g :: rest =>
    if g.columns ≤ n + 1 then g.text ++ takeColumns (n + 1 - g.columns) rest else [' ']

/-- A text with blanks after it, up to `w` columns. -/
def padded (w : Nat) (cs : List Char) : List Char :=
  cs ++ List.replicate (w - columnsOf cs) ' '

/-- The text in exactly `w` columns: cut short, or with blanks after it. -/
def fitted (w : Nat) (cs : List Char) : List Char :=
  if columnsOf cs ≤ w then padded w cs else takeColumns w (clusters cs)

end ExploitReplay.Text
