import ExploitReplay.Preferences.Codec
import ExploitReplay.Sequence.Step

/-!
# Preferences

What a user may set once for all generated tests: the parts of the test that do not come from the
sequence, and the directory that tests are saved in. Every setting is a text.

## Main definitions

* `Setting`, `Setting.key`: the settings, and their names in a file
* `Preferences`: a text for every setting
* `Preferences.get`, `Preferences.set`: the text of one setting
* `Preferences.ofDocument v`: the preferences that a document asks for
* `Preferences.template`: what they say about a generated test

## Main results

* `ofKey?_key`: a setting is found by its name
* `get_set_self`, `get_set_of_ne`: a set text is the one that is got
-/

namespace ExploitReplay

/-- What can be set. -/
inductive Setting where
  | license
  | solidityVersion
  | testImport
  | contractName
  | exploitName
  | usualFunds
  | outputDirectory
deriving DecidableEq, Repr

namespace Setting

/-- All settings, in the order they are listed in. -/
def all : List Setting :=
  [.license, .solidityVersion, .testImport, .contractName, .exploitName, .usualFunds,
    .outputDirectory]

/-- The name of a setting. -/
def key : Setting → String
  | .license => "license"
  | .solidityVersion => "solidity_version"
  | .testImport => "forge_std_import"
  | .contractName => "test_contract_name"
  | .exploitName => "exploit_function_name"
  | .usualFunds => "default_funds"
  | .outputDirectory => "output_dir"

/-- The setting with a name. -/
def ofKey? (name : String) : Option Setting :=
  all.find? (·.key = name)

theorem mem_all (s : Setting) : s ∈ all := by
  cases s <;> simp [all]

/-- A setting is found by its name. -/
@[simp] theorem ofKey?_key (s : Setting) : ofKey? s.key = some s := by
  cases s <;> rfl

theorem key_eq_of_ofKey? {name : String} {s : Setting} (h : ofKey? name = some s) :
    s.key = name := by
  simpa using List.find?_some h

theorem key_injective {s t : Setting} (h : s.key = t.key) : s = t := by
  simpa [h] using (ofKey?_key s).symm

end Setting

/-- A text for every setting. -/
structure Preferences where
  license : String := "UNLICENSED"
  solidityVersion : String := "0.8.19"
  testImport : String := "forge-std/Test.sol"
  contractName : String := "TestContract"
  exploitName : String := "testExploit"
  /-- The amount for callers that are always funded. -/
  usualFunds : String := "100 ether"
  /-- The directory that tests are saved in. -/
  outputDirectory : String := "./test"
deriving DecidableEq, Repr

namespace Preferences

/-! ### One setting -/

/-- The text of a setting. -/
def get (p : Preferences) : Setting → String
  | .license => p.license
  | .solidityVersion => p.solidityVersion
  | .testImport => p.testImport
  | .contractName => p.contractName
  | .exploitName => p.exploitName
  | .usualFunds => p.usualFunds
  | .outputDirectory => p.outputDirectory

/-- The preferences with another text for a setting. -/
def set (p : Preferences) (s : Setting) (text : String) : Preferences :=
  match s with
  | .license => { p with license := text }
  | .solidityVersion => { p with solidityVersion := text }
  | .testImport => { p with testImport := text }
  | .contractName => { p with contractName := text }
  | .exploitName => { p with exploitName := text }
  | .usualFunds => { p with usualFunds := text }
  | .outputDirectory => { p with outputDirectory := text }

@[simp] theorem get_set_self (p : Preferences) (s : Setting) (text : String) :
    (p.set s text).get s = text := by
  cases s <;> rfl

theorem get_set_of_ne (p : Preferences) {s t : Setting} (h : t ≠ s) (text : String) :
    (p.set s text).get t = p.get t := by
  cases s <;> cases t <;> simp_all [get, set]

/-- Preferences are what is got from them. -/
theorem ext_get {p q : Preferences} (h : ∀ s, p.get s = q.get s) : p = q := by
  cases p; cases q
  simp only [Preferences.mk.injEq]
  exact ⟨h .license, h .solidityVersion, h .testImport, h .contractName, h .exploitName,
    h .usualFunds, h .outputDirectory⟩

/-- The names and texts of all settings. -/
def pairs (p : Preferences) : List (String × String) :=
  Setting.all.map fun s => (s.key, p.get s)

/-! ### Preferences in a document -/

/-- Why a document may not have a pair. -/
inductive BadPair where
  /-- The key is no text. -/
  | notText
  /-- The key names a part of every record that is no text. -/
  | noText (name : String)
  /-- The key names a part of every record that cannot be changed. -/
  | fixed (name : String)
  /-- There is no text for the value of the key. -/
  | unwritable (name : String)
deriving DecidableEq, Repr

/-- The bad pair in words. -/
def BadPair.message : BadPair → String
  | .notText => "there is a key that is no text"
  | .noText name | .fixed name => "there is a value for " ++ name
  | .unwritable name => "there is no text for the value of " ++ name

/-- The names that every record has of its own, whatever its settings are. -/
def ownNames : List String :=
  ["__annotations__", "__class__", "__dataclass_fields__", "__dataclass_params__", "__delattr__",
    "__dict__", "__dir__", "__doc__", "__eq__", "__format__", "__ge__", "__getattribute__",
    "__getstate__", "__gt__", "__hash__", "__init__", "__init_subclass__", "__le__", "__lt__",
    "__match_args__", "__module__", "__ne__", "__new__", "__reduce__", "__reduce_ex__",
    "__repr__", "__setattr__", "__sizeof__", "__str__", "__subclasshook__", "__weakref__"]

/-- A record has a part of this name: a setting, or one of its own. -/
def isPart (name : String) : Bool :=
  (Setting.ofKey? name).isSome || ownNames.contains name

/-- Why a name that every record has of its own takes no text. -/
def reserved? (name : String) : Option BadPair :=
  if ["__class__", "__dict__"].contains name then some (.noText name)
  else if name = "__weakref__" then some (.fixed name)
  else none

/-- The preferences with one more pair of a document. Null sets nothing, and neither does a key that
names no part. -/
def setPair (p : Preferences) : Key → Value → Except BadPair Preferences
  | .other, _ => .error .notText
  | .text _, .null => .ok p
  | .text name, .given text =>
    if !isPart name then .ok p
    else
      match text, Setting.ofKey? name, reserved? name with
      | none, _, _ => .error (.unwritable name)
      | some text, some s, _ => .ok (p.set s text)
      | some _, none, some cause => .error cause
      | some _, none, none => .ok p

@[simp] theorem setPair_null (p : Preferences) (name : String) :
    p.setPair (.text name) .null = .ok p := rfl

@[simp] theorem reserved?_key (s : Setting) : reserved? s.key = none := by
  cases s <;> rfl

/-- A text sets the setting of its key. -/
@[simp] theorem setPair_text (p : Preferences) (s : Setting) (text : String) :
    p.setPair (.text s.key) (.given (some text)) = .ok (p.set s text) := by
  simp [setPair, isPart]

/-- The preferences with the pairs of a document, up to the first bad one. -/
def setPairs (p : Preferences) : List (Key × Value) → Except BadPair Preferences
  | [] => .ok p
  | (k, v) :: rest => (p.setPair k v).bind fun q => q.setPairs rest

/-- The preferences that a document asks for. One that is no mapping asks for nothing. -/
def ofDocument : Document → Except BadPair Preferences
  | .mapping pairs => setPairs {} pairs
  | .other => .ok {}

/-- The name that every record has for the list of its parts. -/
def listName : String := "__dataclass_fields__"

/-- The pair gives a text to the list of settings, so that they cannot be listed any more. -/
def hidesSettings : Key × Value → Bool
  | (.text name, .given _) => name = listName
  | _ => false

/-- The settings can still be listed after a document has been read. -/
def leavesListed : Document → Bool
  | .mapping pairs => !pairs.any hidesSettings
  | .other => true

/-- The text of a document that asks for these preferences. -/
def fileText (p : Preferences) (codec : Codec) : String :=
  codec.write p.pairs

/-! ### What they say -/

/-- What the preferences say about a generated test. -/
def template (p : Preferences) : Template where
  license := p.license
  solidityVersion := p.solidityVersion
  testImport := p.testImport
  contractName := p.contractName
  exploitName := p.exploitName
  usualFunds := p.usualFunds

end Preferences

end ExploitReplay
