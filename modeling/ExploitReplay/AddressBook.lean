import ExploitReplay.Sequence.Step

/-!
# Address books

Before anything is written, the whole sequence is searched for addresses. The contracts that are
called and the accounts that call are numbered from one, in the order in which they first appear.

## Main definitions

* `AddressBook`: the contracts with the signatures called on each, and the accounts
* `AddressBook.register b caller target signature`: the book after one more call; whoever is new gets
  the next number
* `AddressBook.ofSteps steps`: the book of a sequence
* `AddressBook.contracts`, `AddressBook.accounts`: the entries in the order of their numbers
* `AddressBook.contractIndex?`, `AddressBook.accountIndex?`, `AddressBook.signaturesFor?`: look-ups

## Main results

* `byNumber_of_pairwise`: entries that are in order stay so
-/

namespace ExploitReplay

/-- A called contract and the signatures that are called on it. -/
structure ContractEntry where
  address : String
  signatures : List String
deriving DecidableEq, Repr

/-- The contracts and the accounts of a sequence with their numbers, each in the order of their first
appearance. -/
structure AddressBook where
  contractEntries : List (ContractEntry × Nat) := []
  accountEntries : List (String × Nat) := []
deriving DecidableEq, Repr

namespace AddressBook

/-- The book without an entry. -/
def empty : AddressBook := {}

/-! ### Registering -/

/-- A list with one more member, unless it is there already. -/
def addNew {α : Type} [DecidableEq α] (xs : List α) (x : α) : List α :=
  if x ∈ xs then xs else xs ++ [x]

/-- The contracts after a call of a signature on a target. A new contract gets the number. -/
def noteCall (number : Nat) (target signature : String) :
    List (ContractEntry × Nat) → List (ContractEntry × Nat)
  | [] => [(⟨target, [signature]⟩, number)]
  | (e, n) :: es =>
    if e.address = target then ({ e with signatures := addNew e.signatures signature }, n) :: es
    else (e, n) :: noteCall number target signature es

/-- The accounts after a call. An empty caller is no account; a new one gets the next number. -/
def noteCaller (caller : String) (accounts : List (String × Nat)) : List (String × Nat) :=
  if caller = "" ∨ caller ∈ accounts.map (·.1) then accounts
  else accounts ++ [(caller, accounts.length + 1)]

/-- The book after one more call. -/
def register (b : AddressBook) (caller target signature : String) : AddressBook where
  contractEntries := noteCall (b.contractEntries.length + 1) target signature b.contractEntries
  accountEntries := noteCaller caller b.accountEntries

/-- The book after one more step. -/
def registerStep (b : AddressBook) (step : Step) : AddressBook :=
  b.register step.call.caller step.call.target step.call.signature

/-- The book of a sequence. -/
def ofSteps (steps : List Step) : AddressBook :=
  steps.foldl registerStep empty

/-! ### Reading -/

section ByNumber

variable {α : Type}

/-- A numbered member among others, in front of the first that has no smaller number. -/
def insertByNumber (x : α × Nat) : List (α × Nat) → List (α × Nat)
  | [] => [x]
  | y :: ys => if x.2 ≤ y.2 then x :: y :: ys else y :: insertByNumber x ys

/-- Numbered members in the order of their numbers. -/
def byNumber (xs : List (α × Nat)) : List (α × Nat) :=
  xs.foldr insertByNumber []

end ByNumber

/-- The contracts with their numbers, in the order of these. -/
def contracts (b : AddressBook) : List (ContractEntry × Nat) :=
  byNumber b.contractEntries

/-- The accounts with their numbers, in the order of these. -/
def accounts (b : AddressBook) : List (String × Nat) :=
  byNumber b.accountEntries

/-- The entry of a contract, with its number. -/
def contract? (b : AddressBook) (address : String) : Option (ContractEntry × Nat) :=
  b.contractEntries.find? (·.1.address == address)

/-- The number of a contract. -/
def contractIndex? (b : AddressBook) (address : String) : Option Nat :=
  (b.contract? address).map (·.2)

/-- The signatures that are called on a contract. -/
def signaturesFor? (b : AddressBook) (address : String) : Option (List String) :=
  (b.contract? address).map (·.1.signatures)

/-- The number of an account. -/
def accountIndex? (b : AddressBook) (address : String) : Option Nat :=
  (b.accountEntries.find? (·.1 == address)).map (·.2)

/-- Members whose numbers do not decrease are in order. -/
theorem byNumber_of_pairwise {α : Type} {xs : List (α × Nat)}
    (h : xs.Pairwise fun x y => x.2 ≤ y.2) : byNumber xs = xs := by
  induction xs with
  | nil => rfl
  | cons x xs ih =>
    obtain ⟨hx, hxs⟩ := List.pairwise_cons.mp h
    rw [byNumber, List.foldr_cons, ← byNumber, ih hxs]
    cases xs with
    | nil => rfl
    | cons y ys => rw [insertByNumber, if_pos (hx y (by simp))]

/-! ### Lists without repetitions -/

theorem nodup_addNew {α : Type} [DecidableEq α] {xs : List α} (h : xs.Nodup) (x : α) :
    (addNew xs x).Nodup := by
  unfold addNew
  split
  · exact h
  · rename_i hx
    refine List.nodup_append.mpr ⟨h, by simp, fun a ha b hb => ?_⟩
    rintro rfl
    exact hx (by simpa using List.mem_singleton.mp hb ▸ ha)

end AddressBook

end ExploitReplay
