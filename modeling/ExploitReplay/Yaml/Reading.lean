import ExploitReplay.Yaml.Node
import ExploitReplay.Yaml.Value

/-!
# Values of nodes

The value of a node follows from what it is taken for. Collections are made first and filled later,
those further out before those further in; of several nodes without a value the first one in this
order counts.

## Main definitions

* `Yaml.Reading`: a value, or why and how deep inside there is none
* `Yaml.scalarValue tag text`: the value of a scalar
* `Yaml.ofNode n`: the value of a node
* `Yaml.read text`: the value that a text holds

## Main results

* `both_ok`: two values together
* `scalarValue_text`: a scalar taken for a text is that text
-/

namespace ExploitReplay.Yaml

/-! ### Readings -/

/-- Why there is no value, and how many collections inside that is found. -/
structure Misfit where
  depth : Nat := 0
  fault : Fault
deriving DecidableEq, Repr

/-- A value, or why there is none. -/
abbrev Reading (α : Type) := Except Misfit α

/-- There is no value. -/
def fail {α : Type} (fault : Fault) : Reading α :=
  .error { fault }

/-- Two values together. If both are missing, the one less deep inside counts. -/
def both {α β : Type} (a : Reading α) (b : Reading β) : Reading (α × β) :=
  match a, b with
  | .ok x, .ok y => .ok (x, y)
  | .ok _, .error f => .error f
  | .error e, .ok _ => .error e
  | .error e, .error f => .error (if f.depth < e.depth then f else e)

@[simp] theorem both_ok {α β : Type} (x : α) (y : β) :
    both (.ok x : Reading α) (.ok y : Reading β) = .ok (x, y) := rfl

/-- A reading inside a collection. -/
def inside {α : Type} (r : Reading α) : Reading α :=
  r.mapError fun m => { m with depth := m.depth + 1 }

/-- A value in front of others. -/
def cons {α : Type} (a : Reading α) (rest : Reading (List α)) : Reading (List α) :=
  (both a rest).map fun p => p.1 :: p.2

/-- Some values in front of others. -/
def append {α : Type} (a b : Reading (List α)) : Reading (List α) :=
  (both a b).map fun p => p.1 ++ p.2

/-! ### Scalars -/

/-- The truth that a word stands for, in letters of either size. -/
def truth? (cs : List Char) : Option Bool :=
  let s := String.ofList (cs.map Char.toLower)
  if ["yes", "true", "on"].contains s then some true
  else if ["no", "false", "off"].contains s then some false
  else none

/-- The value of a text that is read as a double. -/
def floatValue (cs : List Char) (d : Double) : Yaml :=
  if d = .nan ∧ !isNanWord cs then .strayNan else .float d

/-- The value of a scalar. -/
def scalarValue (tag : Tag) (text : String) : Except Fault Yaml :=
  let cs := text.toList
  match tag with
  | .null => .ok .null
  | .bool => if let some b := truth? cs then .ok (.bool b) else .error .notTruth
  | .int => (wholeValue cs).map .int
  | .float => (doubleValue cs).map (floatValue cs)
  | .moment => (Moment.ofChars (withoutLastFeed cs)).map .moment
  | .binary => if let some bytes := Binary.ofChars? cs then .ok (.binary bytes) else .error .notYaml
  | .text => .ok (.text text)
  | _ => .error .notYaml

@[simp] theorem scalarValue_text (text : String) : scalarValue .text text = .ok (.text text) := rfl

/-- The value of a node that is taken for a scalar, as a reading. -/
def scalarReading (tag : Tag) (text : String) : Reading Yaml :=
  (scalarValue tag text).mapError fun fault => { fault }

/-- The scalar that stands for a mapping where a scalar is wanted: the value of the key for that,
which may be a mapping too. -/
def standIn? : Node → Option String
  | .scalar _ s => some s
  | .mapping _ pairs => standInOf? pairs
  | _ => none
where
  standInOf? : List (Node × Node) → Option String
    | [] => none
    | (k, v) :: rest => if k.tag = .default then standIn? v else standInOf? rest

/-! ### Merged mappings -/

mutual

/-- The value of a merging key brings pairs: it is a mapping that can be filled, or a list of
those. -/
def canMerge : Node → Bool
  | .scalar .. => false
  | .sequence _ items => canMergeAll items
  | .mapping _ pairs => areMergesGood pairs
  | .again _ => true

/-- All nodes are mappings that can be filled. -/
def canMergeAll : List Node → Bool
  | [] => true
  | .mapping _ pairs :: rest => areMergesGood pairs && canMergeAll rest
  | .again isMapping :: rest => isMapping && canMergeAll rest
  | _ :: _ => false

/-- All values of merging keys bring pairs. -/
def areMergesGood : List (Node × Node) → Bool
  | [] => true
  | (k, v) :: rest => (k.tag != .merge || canMerge v) && areMergesGood rest

end

/-! ### Nodes -/

/-- The pairs of a mapping, from those that it merges and its own, which count more. -/
def filled (mergesGood : Bool) (merged own : Reading (List (Yaml × Yaml))) :
    Reading (List (Yaml × Yaml)) :=
  if mergesGood then (append merged own).map settled else fail .notYaml

mutual

/-- The value of a node. -/
def valueOf : Node → Reading Yaml
  | .again isMapping => .ok (.again isMapping)
  | .scalar tag s => if tag.isCollection then inside (fail .notYaml) else scalarReading tag s
  | .sequence tag items =>
    match tag with
    | .sequence => inside ((valuesOf items).map .list)
    | .pairs => inside ((couplesOf items).map .couples)
    | tag => if tag.isCollection then inside (fail .notYaml) else fail .notYaml
  | .mapping tag pairs =>
    match tag with
    | .mapping =>
      inside ((filled (areMergesGood pairs) (mergedPairs pairs) (ownPairs pairs)).map .mapping)
    | .set =>
      inside ((filled (areMergesGood pairs) (mergedPairs pairs) (ownPairs pairs)).map fun ps =>
        .set (ps.map Prod.fst))
    | tag =>
      if tag.isCollection then inside (fail .notYaml)
      else
        match standIn? (.mapping tag pairs) with
        | some s => scalarReading tag s
        | none => fail .notYaml

/-- The values of several nodes. -/
def valuesOf : List Node → Reading (List Yaml)
  | [] => .ok []
  | n :: rest => cons (valueOf n) (valuesOf rest)

/-- Pairs in a row: every member of the list is a mapping of one pair. -/
def couplesOf : List Node → Reading (List (Yaml × Yaml))
  | [] => .ok []
  | .mapping _ [(k, v)] :: rest => cons (both (valueOf k) (valueOf v)) (couplesOf rest)
  | _ :: rest => cons (fail .notYaml) (couplesOf rest)

/-- The pairs of a mapping that are its own. A key must not be a collection; the key for the value
that stands for the mapping is a text here. -/
def ownPairs : List (Node × Node) → Reading (List (Yaml × Yaml))
  | [] => .ok []
  | (k, v) :: rest =>
    if k.tag = .merge then ownPairs rest
    else
      let key :=
        match k with
        | .scalar .default s => .ok (.text s)
        | n => if n.tag.isCollection then fail .notYaml else valueOf n
      cons (both key (valueOf v)) (ownPairs rest)

/-- The pairs that a mapping merges. -/
def mergedPairs : List (Node × Node) → Reading (List (Yaml × Yaml))
  | [] => .ok []
  | (k, v) :: rest =>
    if k.tag = .merge then append (broughtBy v) (mergedPairs rest) else mergedPairs rest

/-- The pairs that the value of a merging key brings. Of several mappings the first ones count
more. -/
def broughtBy : Node → Reading (List (Yaml × Yaml))
  | .mapping _ pairs => append (mergedPairs pairs) (ownPairs pairs)
  | .sequence _ items => broughtByAll items
  | _ => .ok []

/-- The pairs that several mappings bring, those of the last one first. -/
def broughtByAll : List Node → Reading (List (Yaml × Yaml))
  | [] => .ok []
  | n :: rest => append (broughtByAll rest) (broughtBy n)

end

/-- The value of a node. -/
def ofNode (n : Node) : Except Fault Yaml :=
  (valueOf n).mapError Misfit.fault

/-- The value that a text holds; null if it holds no document. -/
def read (text : String) : Except Fault Yaml :=
  (tokens text.toList).bind fun ts =>
    (Node.ofTokens? ts).bind fun n => (n.map ofNode).getD (.ok .null)

end ExploitReplay.Yaml
