/-!
# Tags

The tag of a node says what it is taken for. All tags with a meaning share the beginning of their
names.

## Main definitions

* `Yaml.Tag`: what a node is taken for
* `Yaml.Tag.ofName s`: the tag with a name
* `Yaml.Tag.isCollection t`: the value of the tag holds others
-/

namespace ExploitReplay.Yaml

/-- What a node is taken for. -/
inductive Tag where
  | null
  | bool
  | int
  | float
  | moment
  | binary
  | text
  | sequence
  | mapping
  | set
  /-- Pairs in a row, which may have keys of any kind. -/
  | pairs
  /-- The key whose value is merged into the mapping. -/
  | merge
  /-- The key of the value that stands for the whole mapping. -/
  | default
  /-- A tag without a meaning. -/
  | other
deriving DecidableEq, Repr

namespace Tag

/-- The beginning of the names of all tags with a meaning. -/
def commonStart : String := "tag:yaml.org,2002:"

/-- The names of the tags with a meaning, after their common beginning. -/
def names : List (String × Tag) :=
  [("null", .null), ("bool", .bool), ("int", .int), ("float", .float), ("timestamp", .moment),
    ("binary", .binary), ("str", .text), ("seq", .sequence), ("map", .mapping), ("set", .set),
    ("omap", .pairs), ("pairs", .pairs), ("merge", .merge), ("value", .default)]

/-- The tag with a name. -/
def ofName (s : String) : Tag :=
  ((names.find? fun p => commonStart ++ p.1 = s).map Prod.snd).getD .other

/-- The value of the tag holds others, so that it cannot be a key. -/
def isCollection : Tag → Bool
  | .sequence | .mapping | .set | .pairs => true
  | _ => false

@[simp] theorem ofName_str : ofName "tag:yaml.org,2002:str" = .text := by decide

@[simp] theorem ofName_map : ofName "tag:yaml.org,2002:map" = .mapping := by decide

end Tag

end ExploitReplay.Yaml
