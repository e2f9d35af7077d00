import ExploitReplay.Json.Value
import ExploitReplay.Yaml.Binary
import ExploitReplay.Yaml.Moment

/-!
# YAML values

## Main definitions

* `Yaml`: a value
* `Yaml.listing v`, `Yaml.display v`: a value inside others, and as a text of its own
* `Yaml.isWritable v`: no number in a value is too long to be written
* `Yaml.put`: a mapping with one more pair

## Main results

* `display_text`: a text stands for itself
-/

namespace ExploitReplay

/-- A YAML value. The pairs of a mapping have different keys, and so have the members of a set. -/
inductive Yaml where
  | null
  | bool (value : Bool)
  | int (value : Int)
  | float (value : Double)
  /-- What is no number, but has not been written as the usual one of that kind. As a key it is the
  same as no other. -/
  | strayNan
  | moment (value : Moment)
  | binary (bytes : List Nat)
  | text (value : String)
  | list (items : List Yaml)
  | set (items : List Yaml)
  /-- Pairs in a row, which may have keys of any kind. -/
  | couples (items : List (Yaml × Yaml))
  | mapping (pairs : List (Yaml × Yaml))
  /-- A collection around this place, a mapping or a list. -/
  | again (isMapping : Bool)
deriving Inhabited

namespace Yaml

/-! ### Values as text -/

mutual

/-- The value inside others, where texts are quoted. -/
def listing : Yaml → String
  | .null => "None"
  | .bool b => if b then "True" else "False"
  | .int n => toString n
  | .float d => d.text
  | .strayNan => Double.text .nan
  | .moment m => m.listing
  | .binary bytes => Binary.listing bytes
  | .text s => Text.quoted s
  | .list items => "[" ++ Json.commaSeparated (listings items) ++ "]"
  | .set [] => "set()"
  | .set items => "\x7b" ++ Json.commaSeparated (listings items) ++ "\x7d"
  | .couples items => "[" ++ Json.commaSeparated (coupleListings items) ++ "]"
  | .mapping pairs => "\x7b" ++ Json.commaSeparated (pairListings pairs) ++ "\x7d"
  | .again isMapping => if isMapping then "\x7b...\x7d" else "[...]"

/-- The listings of the members of a list. -/
def listings : List Yaml → List String
  | [] => []
  | v :: rest => listing v :: listings rest

/-- The listings of pairs in a row. -/
def coupleListings : List (Yaml × Yaml) → List String
  | [] => []
  | (k, v) :: rest => ("(" ++ listing k ++ ", " ++ listing v ++ ")") :: coupleListings rest

/-- The listings of the pairs of a mapping. -/
def pairListings : List (Yaml × Yaml) → List String
  | [] => []
  | (k, v) :: rest => (listing k ++ ": " ++ listing v) :: pairListings rest

end

/-- The text that stands for a value where a text is wanted. -/
def display : Yaml → String
  | .text s => s
  | .moment m => m.text
  | v => listing v

@[simp] theorem display_text (s : String) : display (.text s) = s := rfl

mutual

/-- No number in the value is too long to be written. -/
def isWritable : Yaml → Bool
  | .int n => Text.isWritable n
  | .list items | .set items => areWritable items
  | .couples items | .mapping items => arePairsWritable items
  | _ => true

/-- No number in the values is too long to be written. -/
def areWritable : List Yaml → Bool
  | [] => true
  | v :: rest => isWritable v && areWritable rest

/-- No number in the pairs is too long to be written. -/
def arePairsWritable : List (Yaml × Yaml) → Bool
  | [] => true
  | (k, v) :: rest => isWritable k && isWritable v && arePairsWritable rest

end

@[simp] theorem isWritable_text (s : String) : isWritable (.text s) = true := by
  simp [isWritable]

/-! ### Keys -/

/-- The number that a value is as a key, where truth is one and falsehood zero. -/
def number? : Yaml → Option (Int × Option Double)
  | .bool b => some (if b then 1 else 0, none)
  | .int n => some (n, none)
  | .float (.finite s m e) =>
    let n : Int := if s then -m else m
    if 0 ≤ e then some (n * Nat.pow 2 e.toNat, none)
    else if n % Nat.pow 2 (-e).toNat = 0 then some (n / Nat.pow 2 (-e).toNat, none)
    else some (0, some (.finite s m e))
  | .float (.infinite s) => some (0, some (.infinite s))
  | _ => none

/-- Two keys are the same: equal numbers are, in whatever form, and so is what is no number if it is
the usual one both times. -/
def sameKey (a b : Yaml) : Bool :=
  match a, b with
  | .null, .null => true
  | .text s, .text t => s == t
  | .moment m, .moment n => m.same n
  | .binary bs, .binary cs => bs == cs
  | .float .nan, .float .nan => true
  | a, b =>
    match number? a, number? b with
    | some x, some y => x == y
    | _, _ => false

/-- The pairs with one more: a key that is there already keeps its place and gets the new value. -/
def put : List (Yaml × Yaml) → Yaml → Yaml → List (Yaml × Yaml)
  | [], key, value => [(key, value)]
  | (k, v) :: rest, key, value =>
    if sameKey k key then (k, value) :: rest else (k, v) :: put rest key value

/-- The pairs of a mapping, from pairs that come one after the other. -/
def settled (pairs : List (Yaml × Yaml)) : List (Yaml × Yaml) :=
  pairs.foldl (fun ps (k, v) => put ps k v) []

end Yaml

end ExploitReplay
