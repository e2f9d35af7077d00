import ExploitReplay.Proofs.AddressBook
import Mathlib.Data.List.Nodup

/-!
# Address books after any history

A book is filled by registering calls one after another, in any order of callers and targets. Read
as a whole, it lists the distinct targets, each with the distinct signatures that were called on it,
and the distinct callers, all in the order of their first appearance and numbered from one. A look-up
finds what is listed, and fails for everything else.

## Main definitions

* `Registration`: a call that is registered
* `AddressBook.ofRegistrations history`: the book after a history of registrations
* `FirstSeen xs ys`: the members of a list without repetitions, in the order of their first
  appearance

## Main results

* `firstSeen_eraseDups`: repetitions are erased behind the first appearance
* `map_find?_eq_some_iff`: what is found under a key is what is listed
* `ofRegistrations_records`: what is listed and what is found after any history
-/

namespace ExploitReplay

/-- A call that is registered: who calls, what is called, and the signature. -/
structure Registration where
  caller : String
  target : String
  signature : String
deriving DecidableEq, Repr

/-- A step that makes the call. -/
def Registration.step (r : Registration) : Step where
  call := ⟨r.caller, r.target, r.signature, none, none⟩

/-! ### Order of first appearance -/

/-- The second list has the members of the first, each once, in the order in which they first
appear there. -/
structure FirstSeen {α : Type} [DecidableEq α] (xs ys : List α) : Prop where
  mem : ∀ x, x ∈ ys ↔ x ∈ xs
  order : ys.Pairwise fun a b => xs.idxOf a < xs.idxOf b

section FirstSeen

variable {α : Type} [DecidableEq α]

/-- **Repetitions are erased behind the first appearance.** -/
theorem firstSeen_eraseDups (xs : List α) : FirstSeen xs xs.eraseDups := by
  refine ⟨fun x => List.mem_eraseDups, ?_⟩
  -- on the last member: the places of those before it stay, and a new one comes behind them all
  induction xs using List.reverseRecOn with
  | nil => simp
  | append_singleton xs x ih =>
    have hplace : ∀ a ∈ xs, (xs ++ [x]).idxOf a = xs.idxOf a := fun a ha =>
      List.idxOf_append_of_mem ha
    have hold : xs.eraseDups.Pairwise fun a b => (xs ++ [x]).idxOf a < (xs ++ [x]).idxOf b := by
      refine ih.imp_of_mem fun {a b} ha hb hlt => ?_
      rwa [hplace a (List.mem_eraseDups.mp ha), hplace b (List.mem_eraseDups.mp hb)]
    rw [AddressBook.eraseDups_append_singleton, AddressBook.addNew]
    split
    · exact hold
    · rename_i hnew
      rw [List.mem_eraseDups] at hnew
      refine List.pairwise_append.mpr ⟨hold, List.pairwise_singleton _ _, fun a ha b hb => ?_⟩
      obtain rfl := List.mem_singleton.mp hb
      have ha := List.mem_eraseDups.mp ha
      have hlast : (xs ++ [b]).idxOf b = xs.length := by
        rw [List.idxOf_append_of_notMem hnew]
        simp
      rw [hplace a ha, hlast]
      exact List.idxOf_lt_length_iff.mpr ha

end FirstSeen

namespace AddressBook

/-! ### Look-ups -/

section Lookups

variable {α : Type}

/-- A member is numbered by one number iff it is a member. -/
theorem exists_mem_zipIdx_iff {xs : List α} {x : α} {k : Nat} :
    (∃ n, (x, n) ∈ xs.zipIdx k) ↔ x ∈ xs := by
  have hmem : (∃ n, (x, n) ∈ xs.zipIdx k) ↔ x ∈ (xs.zipIdx k).map (·.1) := by
    simp only [List.mem_map, Prod.exists, exists_and_right, exists_eq_right]
  rw [hmem, List.zipIdx_map_fst]

/-- What is found under a key is the only one that has it. -/
theorem find?_eq_some_iff {key : α → String} {xs : List α} (h : (xs.map key).Nodup)
    {address : String} {x : α} :
    xs.find? (key · == address) = some x ↔ x ∈ xs ∧ key x = address := by
  constructor
  · intro hfind
    exact ⟨List.mem_of_find?_eq_some hfind, by simpa using List.find?_some hfind⟩
  · rintro ⟨hmem, rfl⟩
    obtain ⟨y, hy⟩ := Option.isSome_iff_exists.mp
      (List.find?_isSome (p := (key · == key x)) |>.mpr ⟨x, hmem, by simp⟩)
    have hkey : key y = key x := by simpa using List.find?_some hy
    rw [hy, List.inj_on_of_nodup_map h (List.mem_of_find?_eq_some hy) hmem hkey]

/-- **What is found under a key is what is listed**, as the keys are all different. -/
theorem map_find?_eq_some_iff {β : Type} {key : α → String} {xs : List α} (h : (xs.map key).Nodup)
    {f : α → β} {address : String} {y : β} :
    (xs.find? (key · == address)).map f = some y ↔ ∃ x ∈ xs, key x = address ∧ f x = y := by
  simp only [Option.map_eq_some_iff, find?_eq_some_iff h, and_assoc]

end Lookups

/-! ### Any history -/

/-- The book after a history of registrations, the earliest first. -/
def ofRegistrations (history : List Registration) : AddressBook :=
  history.foldl (fun b r => b.register r.caller r.target r.signature) empty

/-- A history is registered as the steps that make its calls. -/
theorem ofRegistrations_eq_ofSteps (history : List Registration) :
    ofRegistrations history = ofSteps (history.map Registration.step) := by
  rw [ofSteps, List.foldl_map]
  rfl

section History

variable (history : List Registration)

theorem targets_map_step :
    targets (history.map Registration.step) = (history.map (·.target)).eraseDups := by
  rw [targets, List.map_map]
  rfl

theorem callers_map_step :
    callers (history.map Registration.step) =
      ((history.map (·.caller)).filter (· ≠ "")).eraseDups := by
  rw [callers, List.map_map]
  rfl

theorem signaturesOn_map_step (address : String) :
    signaturesOn (history.map Registration.step) address =
      ((history.filter (·.target = address)).map (·.signature)).eraseDups := by
  rw [signaturesOn, List.filter_map, List.map_map]
  rfl

/-- The contracts are stored in the order of their numbers. -/
theorem contracts_ofRegistrations :
    (ofRegistrations history).contracts = (ofRegistrations history).contractEntries := by
  rw [ofRegistrations_eq_ofSteps, contracts_ofSteps, contractEntries_ofSteps]

theorem accounts_ofRegistrations :
    (ofRegistrations history).accounts = (ofRegistrations history).accountEntries := by
  rw [ofRegistrations_eq_ofSteps, accounts_ofSteps, accountEntries_ofSteps]

theorem contractEntries_ofRegistrations :
    (ofRegistrations history).contractEntries =
      ((history.map (·.target)).eraseDups.map
        (entryOf (history.map Registration.step))).zipIdx 1 := by
  rw [ofRegistrations_eq_ofSteps, contractEntries_ofSteps, targets_map_step]

theorem accountEntries_ofRegistrations :
    (ofRegistrations history).accountEntries =
      (((history.map (·.caller)).filter (· ≠ "")).eraseDups).zipIdx 1 := by
  rw [ofRegistrations_eq_ofSteps, accountEntries_ofSteps, callers_map_step]

/-- The contracts have the addresses of the targets. -/
theorem addresses_ofRegistrations :
    (ofRegistrations history).contractEntries.map (·.1.address) =
      (history.map (·.target)).eraseDups := by
  have hmap : (ofRegistrations history).contractEntries.map (·.1.address) =
      ((ofRegistrations history).contractEntries.map (·.1)).map (·.address) := List.map_map.symm
  rw [hmap, contractEntries_ofRegistrations, List.zipIdx_map_fst, List.map_map]
  exact List.map_id _

/-- The accounts are the callers. -/
theorem callers_ofRegistrations :
    (ofRegistrations history).accountEntries.map (·.1) =
      ((history.map (·.caller)).filter (· ≠ "")).eraseDups := by
  rw [accountEntries_ofRegistrations, List.zipIdx_map_fst]

/-- Every contract has the signatures that were registered for it. -/
theorem signatures_of_mem {e : ContractEntry} {n : Nat}
    (h : (e, n) ∈ (ofRegistrations history).contractEntries) :
    e.signatures = ((history.filter (·.target = e.address)).map (·.signature)).eraseDups := by
  rw [contractEntries_ofRegistrations] at h
  obtain ⟨address, -, rfl⟩ := List.mem_map.mp (exists_mem_zipIdx_iff.mp ⟨n, h⟩)
  exact signaturesOn_map_step history address

theorem nodup_addresses_ofRegistrations :
    ((ofRegistrations history).contractEntries.map (·.1.address)).Nodup := by
  rw [addresses_ofRegistrations]
  exact nodup_eraseDups _

theorem nodup_callers_ofRegistrations :
    ((ofRegistrations history).accountEntries.map (·.1)).Nodup := by
  rw [callers_ofRegistrations]
  exact nodup_eraseDups _

/-- There is no contract for an address iff it was never registered as a target. -/
theorem contract?_eq_none_iff {address : String} :
    (ofRegistrations history).contract? address = none ↔ ∀ r ∈ history, r.target ≠ address := by
  have hmem : address ∈ (ofRegistrations history).contractEntries.map (·.1.address) ↔
      address ∈ history.map (·.target) := by
    rw [addresses_ofRegistrations, List.mem_eraseDups]
  rw [contract?, List.find?_eq_none, ← not_iff_not]
  simpa using hmem

/-- There is no number for an account iff it was never registered as a caller, or is empty. -/
theorem accountIndex?_eq_none_iff {address : String} :
    (ofRegistrations history).accountIndex? address = none ↔
      ∀ r ∈ history, r.caller = address → address = "" := by
  have hmem : address ∈ (ofRegistrations history).accountEntries.map (·.1) ↔
      address ∈ (history.map (·.caller)).filter (· ≠ "") := by
    rw [callers_ofRegistrations, List.mem_eraseDups]
  rw [accountIndex?, Option.map_eq_none_iff, List.find?_eq_none, ← not_iff_not]
  simpa [← and_assoc] using hmem

/-- What a book lists and finds after a history of registrations. -/
structure Records (b : AddressBook) : Prop where
  /-- The contracts are the distinct targets, in the order of their first appearance. -/
  targets : FirstSeen (history.map (·.target)) (b.contracts.map fun (e, _) => e.address)
  /-- They are numbered from one without a gap. -/
  contractNumbers : b.contracts.map (·.2) = List.range' 1 b.contracts.length
  /-- Each lists the distinct signatures that were registered for it, in the order of their first
  appearance. -/
  signatures : ∀ e n, (e, n) ∈ b.contracts →
    FirstSeen ((history.filter (·.target = e.address)).map (·.signature)) e.signatures
  /-- The accounts are the distinct callers that are not empty, in the order of their first
  appearance. -/
  callers : FirstSeen ((history.map (·.caller)).filter (· ≠ "")) (b.accounts.map (·.1))
  /-- They are numbered from one without a gap. -/
  accountNumbers : b.accounts.map (·.2) = List.range' 1 b.accounts.length
  /-- The number of a contract is found iff it is listed. -/
  contractIndex : ∀ address n, b.contractIndex? address = some n ↔
    ∃ e, (e, n) ∈ b.contracts ∧ e.address = address
  /-- The signatures of a contract are found iff they are listed. -/
  signaturesFor : ∀ address signatures, b.signaturesFor? address = some signatures ↔
    ∃ n, (⟨address, signatures⟩, n) ∈ b.contracts
  /-- The number of an account is found iff it is listed. -/
  accountIndex : ∀ address n, b.accountIndex? address = some n ↔ (address, n) ∈ b.accounts
  /-- There is no number just for what was never registered as a target. -/
  noContractIndex : ∀ address, b.contractIndex? address = none ↔
    ∀ r ∈ history, r.target ≠ address
  /-- There are no signatures just for what was never registered as a target. -/
  noSignatures : ∀ address, b.signaturesFor? address = none ↔ ∀ r ∈ history, r.target ≠ address
  /-- There is no number just for what was never registered as a caller, or is empty. -/
  noAccountIndex : ∀ address, b.accountIndex? address = none ↔
    ∀ r ∈ history, r.caller = address → address = ""

/-- **What a book lists and finds after any history.** The contracts are the distinct targets, each
with its distinct signatures, and the accounts are the distinct callers, all in the order of their
first appearance and numbered from one; the look-ups find what is listed and nothing else. The
accounts depend on the callers only. -/
theorem ofRegistrations_records :
    (ofRegistrations history).Records history ∧
      ∀ other : List Registration, other.map (·.caller) = history.map (·.caller) →
        (ofRegistrations other).accounts = (ofRegistrations history).accounts := by
  have haddresses := nodup_addresses_ofRegistrations history
  have hcallers := nodup_callers_ofRegistrations history
  have hcontracts := contracts_ofRegistrations history
  have haccounts := accounts_ofRegistrations history
  constructor
  · refine ⟨?_, ?_, ?_, ?_, ?_, ?_, ?_, ?_, ?_, ?_, fun _ => accountIndex?_eq_none_iff history⟩
    · rw [hcontracts]
      exact addresses_ofRegistrations history ▸ firstSeen_eraseDups _
    · rw [hcontracts, contractEntries_ofRegistrations, List.length_zipIdx, List.zipIdx_map_snd]
    · intro e n he
      rw [signatures_of_mem history (hcontracts ▸ he)]
      exact firstSeen_eraseDups _
    · rw [haccounts, callers_ofRegistrations]
      exact firstSeen_eraseDups _
    · rw [haccounts, accountEntries_ofRegistrations, List.length_zipIdx, List.zipIdx_map_snd]
    · intro address n
      rw [contractIndex?, contract?, map_find?_eq_some_iff haddresses, hcontracts]
      simp [and_comm]
    · intro address signatures
      rw [signaturesFor?, contract?, map_find?_eq_some_iff haddresses, hcontracts]
      constructor
      · rintro ⟨⟨e, n⟩, he, rfl, rfl⟩
        exact ⟨n, he⟩
      · rintro ⟨n, he⟩
        exact ⟨_, he, rfl, rfl⟩
    · intro address n
      rw [accountIndex?, map_find?_eq_some_iff hcallers, haccounts]
      simp
    · intro address
      rw [contractIndex?, Option.map_eq_none_iff]
      exact contract?_eq_none_iff history
    · intro address
      rw [signaturesFor?, Option.map_eq_none_iff]
      exact contract?_eq_none_iff history
  · intro other hothers
    rw [haccounts, accounts_ofRegistrations, accountEntries_ofRegistrations,
      accountEntries_ofRegistrations, hothers]

end History

end AddressBook

end ExploitReplay
