import ExploitReplay.Preferences.Codec
import ExploitReplay.Yaml.Reading
import ExploitReplay.Yaml.Writer

/-!
# The codec for YAML

Preferences are read and written with the YAML of this library. The pairs of a mapping are written in
the order of their keys.

## Main definitions

* `Yaml.document v`: a value, as far as preferences are concerned
* `Yaml.codec`: documents of preferences as YAML
-/

namespace ExploitReplay.Yaml

open Preferences (Key Value Codec)

/-- A value as a key. -/
def asKey : Yaml → Key
  | .text name => .text name
  | _ => .other

/-- A value, with its text unless a number in it is too long. -/
def asValue : Yaml → Value
  | .null => .null
  | v => .given (if v.isWritable then some v.display else none)

/-- A value, as far as preferences are concerned. -/
def document : Yaml → Preferences.Document
  | .mapping pairs => .mapping (pairs.map fun pair => (pair.1.asKey, pair.2.asValue))
  | _ => .other

/-- A pair in its place among others that are in the order of their keys. -/
def placed (pair : String × String) : List (String × String) → List (String × String)
  | [] => [pair]
  | other :: rest =>
    if other.1 < pair.1 then other :: placed pair rest else pair :: other :: rest

/-- Pairs in the order of their keys. -/
def sorted (pairs : List (String × String)) : List (String × String) :=
  pairs.foldr placed []

/-- Documents of preferences as YAML. -/
def codec : Codec where
  read text :=
    match read text with
    | .ok v => .ok v.document
    | .error .notYaml => .error (.notYaml Fault.notYaml.message)
    | .error fault => .error (.badValue fault.message)
  write pairs := mappingText (sorted pairs)

end ExploitReplay.Yaml
