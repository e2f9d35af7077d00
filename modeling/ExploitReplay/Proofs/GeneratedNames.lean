import ExploitReplay.Proofs.AddressBook
import ExploitReplay.TestContract

/-!
# Generated names

The names of a test are numbered in decimal, so different numbers give different names, and no
contract has the name of an account. Before the first call, a test has declared exactly the
generated names of its sequence.

## Main definitions

* `generatedNames steps`: the names of the contracts, then those of the accounts
* `accountBindingsFrom n addresses`: the accounts numbered from `n`

## Main results

* `contractName_inj`, `accountName_inj`, `contractName_ne_accountName`
* `generatedBindings_ofSteps`, `names_generatedBindings`: what is declared before the first call
-/

namespace ExploitReplay

namespace Solidity

/-! ### Numbers in names -/

/-- A number has one decimal text. -/
theorem toString_natCast_inj {m n : Nat} : toString (m : Int) = toString (n : Int) ↔ m = n := by
  constructor
  · intro h
    have h : Nat.repr m = Nat.repr n := h
    have hdigits := congrArg (fun s => Nat.ofDigitChars 10 s.toList 0) h
    simpa using hdigits
  · rintro rfl
    rfl

theorem interfaceName_inj {m n : Nat} : interfaceName m = interfaceName n ↔ m = n := by
  rw [interfaceName, interfaceName, String.append_right_inj, toString_natCast_inj]

theorem contractName_inj {m n : Nat} : contractName m = contractName n ↔ m = n := by
  rw [contractName, contractName, String.append_right_inj, toString_natCast_inj]

theorem accountName_inj {m n : Nat} : accountName m = accountName n ↔ m = n := by
  rw [accountName, accountName, String.append_right_inj, toString_natCast_inj]

/-- No contract has the name of an account: they differ in their first letter. -/
theorem contractName_ne_accountName (i j : Int) : contractName i ≠ accountName j := by
  intro h
  have hhead := congrArg (fun s => s.toList.head?) h
  simp [contractName, accountName] at hhead

end Solidity

/-! ### The names of a sequence -/

/-- The generated names of a sequence: one for each target, then one for each caller. -/
def generatedNames (steps : List Step) : List String :=
  (List.range' 1 (targets steps).length).map (fun n : Nat => Solidity.contractName n) ++
    (List.range' 1 (callers steps).length).map fun n : Nat => Solidity.accountName n

/-- The contracts at the addresses, numbered from `n`. -/
def contractBindingsFrom (n : Nat) (addresses : List String) : List Binding :=
  (addresses.zipIdx n).map fun (a, i) => Solidity.contractBinding a i

/-- The accounts at the addresses, numbered from `n`. -/
def accountBindingsFrom (n : Nat) (addresses : List String) : List Binding :=
  (addresses.zipIdx n).map fun (a, i) => Solidity.accountBinding a i

@[simp] theorem accountBindingsFrom_nil (n : Nat) : accountBindingsFrom n [] = [] := rfl

@[simp] theorem accountBindingsFrom_cons (n : Nat) (a : String) (addresses : List String) :
    accountBindingsFrom n (a :: addresses) =
      Solidity.accountBinding a n :: accountBindingsFrom (n + 1) addresses := rfl

/-- **What is declared before the first call**: the targets as contracts, then the callers as
accounts. -/
theorem generatedBindings_ofSteps (steps : List Step) :
    TestContract.generatedBindings (AddressBook.ofSteps steps) =
      contractBindingsFrom 1 (targets steps) ++ accountBindingsFrom 1 (callers steps) := by
  simp only [TestContract.generatedBindings, AddressBook.contracts_ofSteps,
    AddressBook.accounts_ofSteps, List.zipIdx_map, List.map_map]
  rfl

/-- What depends on the numbers only. -/
theorem map_zipIdx_snd {α : Type} (f : Nat → α) (addresses : List String) (n : Nat) :
    ((addresses.zipIdx n).map fun p => f p.2) = (List.range' n addresses.length).map f := by
  rw [← List.zipIdx_map_snd n addresses, List.map_map]
  rfl

theorem names_contractBindingsFrom (n : Nat) (addresses : List String) :
    (contractBindingsFrom n addresses).map (·.name) =
      (List.range' n addresses.length).map fun i : Nat => Solidity.contractName i := by
  rw [contractBindingsFrom, List.map_map]
  exact map_zipIdx_snd (fun i : Nat => Solidity.contractName i) addresses n

theorem names_accountBindingsFrom (n : Nat) (addresses : List String) :
    (accountBindingsFrom n addresses).map (·.name) =
      (List.range' n addresses.length).map fun i : Nat => Solidity.accountName i := by
  rw [accountBindingsFrom, List.map_map]
  exact map_zipIdx_snd (fun i : Nat => Solidity.accountName i) addresses n

/-- The names that are declared before the first call are the generated ones. -/
theorem names_generatedBindings (steps : List Step) :
    (TestContract.generatedBindings (AddressBook.ofSteps steps)).map (·.name) =
      generatedNames steps := by
  rw [generatedBindings_ofSteps, List.map_append, names_contractBindingsFrom,
    names_accountBindingsFrom, generatedNames]

end ExploitReplay
