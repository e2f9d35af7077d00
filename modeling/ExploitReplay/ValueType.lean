/-!
# The catalog of value types

The types a declared return value may have. A type is a word or two: its name and, for texts and
byte strings, where the value is stored. Everything outside the catalog is not understood.

## Main definitions

* `ValueType.catalog`: the types that are understood
* `ValueType.isKnown t`: the type is in the catalog
* `ValueType.expand t`: the full form of a shorthand
* `ValueType.declared t`: the type as a local declaration writes it
* `ValueType.isLocation w`: the word says where a value is stored
-/

namespace ExploitReplay.ValueType

/-- The byte strings of a fixed size, `bytes1` to `bytes32`. -/
def fixedBytes : List String :=
  (List.range 32).map fun n => "bytes" ++ toString (n + 1)

/-- The unsigned integers. -/
def unsigned : List String :=
  ["uint8", "uint16", "uint24", "uint32", "uint64", "uint112", "uint128", "uint160", "uint256"]

/-- The signed integers. -/
def signed : List String :=
  ["int8", "int16", "int24", "int32", "int64", "int128", "int256"]

/-- The types that are understood in a list of return values. -/
def catalog : List String :=
  ["contract"] ++ fixedBytes ++ ["bytes", "bytes memory"] ++ unsigned ++ signed ++
    ["address", "bool", "string", "string memory"]

/-- The type is in the catalog. -/
def isKnown (t : String) : Bool :=
  catalog.contains t

/-- The shorthands and what each stands for; a value of the call data is read as one in memory. -/
def shorthands : List (String × String) :=
  [("uint", "uint256"), ("int", "int256"),
    ("string calldata", "string memory"), ("bytes calldata", "bytes memory")]

/-- The full form of a shorthand; any other text is its own. -/
def expand (t : String) : String :=
  (shorthands.lookup t).getD t

/-- The words that say where a value is stored. -/
def locations : List String :=
  ["memory", "calldata", "storage"]

/-- The word says where a value is stored. -/
def isLocation (w : String) : Bool :=
  locations.contains w

/-- The types without a fixed size, whose local declarations must say where the value is stored. -/
def unsized : List String :=
  ["string", "bytes"]

/-- The type as a local declaration writes it: one without a fixed size is kept in memory. -/
def declared (t : String) : String :=
  if unsized.contains t then t ++ " memory" else t

end ExploitReplay.ValueType
