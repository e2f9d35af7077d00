import ExploitReplay.Scope
import ExploitReplay.Sequence.Step
import ExploitReplay.Solidity.Layout

/-!
# Lines of a test

The single lines of a generated test: its head, the declarations of contracts and accounts, and the
cheat codes that fund an account or choose the caller of the next call.

## Main definitions

* `Solidity.interfaceName`, `Solidity.contractName`, `Solidity.accountName`: generated names
* `Solidity.contractBinding`, `Solidity.accountBinding`: what a generated name is bound to
* `Solidity.interfaceBlock`: the interface of a called contract
* `Solidity.prankLine`, `Solidity.dealLine`: the cheat codes
-/

namespace ExploitReplay.Solidity

/-! ### Head of the file -/

/-- The line that states the license. -/
def licenseLine (license : String) : String :=
  "// SPDX-License-Identifier: " ++ license

/-- The line that states the language version. -/
def pragmaLine (version : String) : String :=
  "pragma solidity " ++ version ++ ";"

/-- The line that imports a symbol. -/
def importLine (symbol path : String) : String :=
  "import \x7b " ++ symbol ++ " \x7d from \"" ++ path ++ "\";"

/-! ### Generated names -/

/-- The interface of the contract with a number. -/
def interfaceName (index : Int) : String :=
  "Contract" ++ toString index

/-- The variable of the contract with a number. -/
def contractName (index : Int) : String :=
  "contract" ++ toString index

/-- The variable of the account with a number. -/
def accountName (index : Int) : String :=
  "account" ++ toString index

/-- The variable of a contract is bound to its address. -/
def contractBinding (address : String) (index : Int) : Binding :=
  ⟨contractName index, address, "contract"⟩

/-- The variable of an account is bound to its address. -/
def accountBinding (address : String) (index : Int) : Binding :=
  ⟨accountName index, address, "address"⟩

/-! ### Declarations -/

/-- The interface of a called contract, with a line for every signature. -/
def interfaceBlock (i : Indent) (index : Int) (signatures : List String) : String :=
  block i ("interface " ++ interfaceName index)
    (group (signatures.map fun s => i.deeper.line (s ++ ";")))

/-- The declaration of a variable, with its value unless that is empty. -/
def variableLine (i : Indent) (b : Binding) : String :=
  i.line (b.type ++ " " ++ b.name ++ (if b.value = "" then "" else " = " ++ b.value) ++ ";")

/-- The declaration of the variable of a contract. -/
def contractLine (i : Indent) (address : String) (index : Int) : String :=
  i.line (interfaceName index ++ " " ++ contractName index ++ " = " ++ interfaceName index ++ "(" ++
    address ++ ");")

/-- The declaration of the variable of an account. -/
def accountLine (i : Indent) (address : String) (index : Int) : String :=
  variableLine i (accountBinding address index)

/-! ### Cheat codes -/

/-- The line that lets an account, given by its reference, make the next call. -/
def prankLine (i : Indent) (reference : String) : String :=
  i.line ("vm.prank(" ++ reference ++ ");")

/-- The line that gives an account, given by its reference, an amount. -/
def dealLine (i : Indent) (reference amount : String) : String :=
  i.line ("vm.deal(" ++ reference ++ ", " ++ amount ++ ");")

/-! ### Definitions -/

/-- A function definition around a body. -/
def functionBlock (i : Indent) (name : String) (modifiers : List String) (body : String) : String :=
  block i ("function " ++ name ++ "() " ++ " ".intercalate modifiers) body

/-- The modifiers of the functions of a test. -/
def usualModifiers : List String := ["public"]

/-- What a test contract inherits from. -/
def usualBase : String := "Test"

/-- A contract definition around a body. Without a base it inherits from nothing. -/
def contractBlock (i : Indent) (name : String) (base : Option String) (body : String) : String :=
  block i ("contract " ++ name ++ if base.getD "" = "" then "" else " is " ++ base.getD "") body

end ExploitReplay.Solidity
