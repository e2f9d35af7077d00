import ExploitReplay.AddressBook
import Mathlib.Data.List.Induction

/-!
# The address book of a sequence

The book of a sequence is built step by step. Read as a whole, it lists the distinct targets and the
distinct callers in the order of their first appearance, and under every target the distinct
signatures that are called on it.

## Main definitions

* `targets steps`, `callers steps`: the distinct addresses that are called, and those that call
* `signaturesOn steps address`: the distinct signatures called on an address

## Main results

* `contractEntries_ofSteps`, `accountEntries_ofSteps`: the book in terms of these, numbered from one
* `contracts_ofSteps`, `accounts_ofSteps`: what it lists
* `find?_zipIdx`: a look-up finds a member with the number of its place
* `contractIndex?_ofSteps`: the number of a target is its place among the targets
-/

namespace ExploitReplay

/-- The distinct addresses that are called, in the order of their first appearance. -/
def targets (steps : List Step) : List String :=
  (steps.map (·.call.target)).eraseDups

/-- The distinct addresses that call, in the order of their first appearance; the empty text is
none. -/
def callers (steps : List Step) : List String :=
  ((steps.map (·.call.caller)).filter (· ≠ "")).eraseDups

/-- The distinct signatures that are called on an address, in the order of their first
appearance. -/
def signaturesOn (steps : List Step) (address : String) : List String :=
  ((steps.filter (·.call.target = address)).map (·.call.signature)).eraseDups

theorem target_mem_targets {steps : List Step} {step : Step} (h : step ∈ steps) :
    step.call.target ∈ targets steps :=
  List.mem_eraseDups.mpr (List.mem_map.mpr ⟨step, h, rfl⟩)

theorem caller_mem_callers {steps : List Step} {step : Step} (h : step ∈ steps)
    (hcaller : step.call.caller ≠ "") : step.call.caller ∈ callers steps := by
  rw [callers, List.mem_eraseDups, List.mem_filter]
  exact ⟨List.mem_map.mpr ⟨step, h, rfl⟩, by simpa using hcaller⟩

theorem ne_empty_of_mem_callers {steps : List Step} {address : String}
    (h : address ∈ callers steps) : address ≠ "" := by
  rw [callers, List.mem_eraseDups, List.mem_filter] at h
  simpa using h.2

namespace AddressBook

/-! ### Lists without repetitions -/

section Distinct

variable {α : Type} [DecidableEq α]

/-- One more member appears for the first time, or changes nothing. -/
theorem eraseDups_append_singleton (xs : List α) (x : α) :
    (xs ++ [x]).eraseDups = addNew xs.eraseDups x := by
  rw [List.eraseDups_append]
  by_cases h : x ∈ xs
  · simp [addNew, h, List.removeAll]
  · simp [addNew, h, List.removeAll, List.eraseDups_cons]

theorem nodup_eraseDups (xs : List α) : xs.eraseDups.Nodup := by
  induction xs using List.reverseRecOn with
  | nil => simp
  | append_singleton xs x ih =>
    rw [eraseDups_append_singleton]
    exact nodup_addNew ih x

end Distinct

theorem nodup_targets (steps : List Step) : (targets steps).Nodup :=
  nodup_eraseDups _

theorem nodup_callers (steps : List Step) : (callers steps).Nodup :=
  nodup_eraseDups _

theorem ofSteps_append_singleton (steps : List Step) (step : Step) :
    ofSteps (steps ++ [step]) = (ofSteps steps).registerStep step := by
  simp [ofSteps]

/-! ### The accounts -/

/-- The accounts of a sequence are its callers, numbered from one. -/
theorem accountEntries_ofSteps (steps : List Step) :
    (ofSteps steps).accountEntries = (callers steps).zipIdx 1 := by
  induction steps using List.reverseRecOn with
  | nil => rfl
  | append_singleton steps step ih =>
    rw [ofSteps_append_singleton]
    change noteCaller step.call.caller (ofSteps steps).accountEntries = _
    rw [ih, noteCaller, List.zipIdx_map_fst]
    by_cases hnone : step.call.caller = ""
    · simp [callers, hnone]
    · have hcallers : callers (steps ++ [step]) = addNew (callers steps) step.call.caller := by
        simp [callers, hnone, eraseDups_append_singleton]
      rw [hcallers, addNew]
      by_cases hold : step.call.caller ∈ callers steps
      · simp [hold]
      · -- the number of a new account is that of its place
        simp [hnone, hold, List.zipIdx_append, Nat.add_comm]

/-! ### The contracts -/

/-- The entry of an address after the steps. -/
def entryOf (steps : List Step) (address : String) : ContractEntry :=
  ⟨address, signaturesOn steps address⟩

theorem signaturesOn_append_singleton (steps : List Step) (step : Step) (address : String) :
    signaturesOn (steps ++ [step]) address =
      if step.call.target = address then
        addNew (signaturesOn steps address) step.call.signature
      else signaturesOn steps address := by
  by_cases h : step.call.target = address
  · simp [signaturesOn, h, eraseDups_append_singleton]
  · simp [signaturesOn, h]

theorem signaturesOn_eq_nil {steps : List Step} {address : String} (h : address ∉ targets steps) :
    signaturesOn steps address = [] := by
  have hf : steps.filter (·.call.target = address) = [] := by
    simp only [targets, List.mem_eraseDups, List.mem_map, not_exists, not_and] at h
    simpa [List.filter_eq_nil_iff] using h
  simp [signaturesOn, hf]

/-- One more step changes the entry of its own target only. -/
theorem entryOf_append_singleton_of_ne {steps : List Step} {step : Step} {address : String}
    (h : step.call.target ≠ address) :
    entryOf (steps ++ [step]) address = entryOf steps address := by
  simp [entryOf, signaturesOn_append_singleton, h]

/-- Noting a call on contracts that are numbered from `k`: the entry of its target changes, or is
added at the end with the next number. -/
theorem noteCall_map_entryOf (steps : List Step) (step : Step) {addresses : List String} (k : Nat)
    (hn : addresses.Nodup)
    (hs : step.call.target ∉ addresses → signaturesOn steps step.call.target = []) :
    noteCall (k + addresses.length) step.call.target step.call.signature
        ((addresses.map (entryOf steps)).zipIdx k) =
      ((addNew addresses step.call.target).map (entryOf (steps ++ [step]))).zipIdx k := by
  -- on the listed addresses, up to the one that is called
  induction addresses generalizing k with
  | nil =>
    have hnil := hs (by simp)
    simp [noteCall, addNew, entryOf, signaturesOn_append_singleton, hnil]
  | cons a as ih =>
    obtain ⟨ha, hn⟩ := List.nodup_cons.mp hn
    by_cases h : a = step.call.target
    · -- the entry is found; it is listed once, so the entries after it stay
      subst h
      have hrest : as.map (entryOf steps) = as.map (entryOf (steps ++ [step])) :=
        List.map_congr_left fun x hx =>
          (entryOf_append_singleton_of_ne fun he => ha (he ▸ hx)).symm
      simp [noteCall, addNew, hrest, entryOf, signaturesOn_append_singleton]
    · have h' : ¬step.call.target = a := fun he => h he.symm
      have hhead : entryOf steps a = entryOf (steps ++ [step]) a :=
        (entryOf_append_singleton_of_ne h').symm
      have haddress : (entryOf steps a).address ≠ step.call.target := h
      have hnumber : k + (a :: as).length = k + 1 + as.length := by
        simp only [List.length_cons]
        omega
      rw [hnumber, List.map_cons, List.zipIdx_cons, noteCall, if_neg haddress,
        ih (k + 1) hn fun hm => hs (by simp [h', hm]), hhead]
      by_cases hm : step.call.target ∈ as <;> simp [addNew, hm, h']

/-- The contracts of a sequence are its targets, each with the signatures called on it, numbered from
one. -/
theorem contractEntries_ofSteps (steps : List Step) :
    (ofSteps steps).contractEntries = ((targets steps).map (entryOf steps)).zipIdx 1 := by
  induction steps using List.reverseRecOn with
  | nil => rfl
  | append_singleton steps step ih =>
    rw [ofSteps_append_singleton]
    change noteCall ((ofSteps steps).contractEntries.length + 1) step.call.target
      step.call.signature (ofSteps steps).contractEntries = _
    have hnumber : (ofSteps steps).contractEntries.length + 1 = 1 + (targets steps).length := by
      rw [ih, List.length_zipIdx, List.length_map, Nat.add_comm]
    rw [hnumber, ih, noteCall_map_entryOf steps step 1 (nodup_targets steps) signaturesOn_eq_nil]
    simp [targets, eraseDups_append_singleton]

/-! ### Numbers -/

/-- Members that are numbered along a list are in the order of their numbers. -/
theorem byNumber_zipIdx {α : Type} (xs : List α) (k : Nat) :
    byNumber (xs.zipIdx k) = xs.zipIdx k := by
  refine byNumber_of_pairwise ?_
  have hnumbers : ((xs.zipIdx k).map (·.2)).Pairwise (· ≤ ·) := by
    rw [List.zipIdx_map_snd]
    exact (List.pairwise_lt_range' 1).imp Nat.le_of_lt
  exact List.pairwise_map.mp hnumbers

theorem contracts_ofSteps (steps : List Step) :
    (ofSteps steps).contracts = ((targets steps).map (entryOf steps)).zipIdx 1 := by
  rw [contracts, contractEntries_ofSteps, byNumber_zipIdx]

theorem accounts_ofSteps (steps : List Step) :
    (ofSteps steps).accounts = (callers steps).zipIdx 1 := by
  rw [accounts, accountEntries_ofSteps, byNumber_zipIdx]

/-- What is looked for by a key among numbered members is found under the number of its place. -/
theorem find?_zipIdx {α : Type} (key : α → String) (address : String) (xs : List α) (k : Nat) :
    (xs.zipIdx k).find? (fun p => key p.1 == address) =
      (xs.find? (key · == address)).map fun x => (x, k + (xs.map key).idxOf address) := by
  induction xs generalizing k with
  | nil => rfl
  | cons x xs ih =>
    by_cases h : key x = address
    · simp [h]
    · have hkey : (key x == address) = false := by simpa using h
      simp only [List.zipIdx_cons, List.find?_cons, List.map_cons, List.idxOf_cons, hkey, ih, cond_false,
        Nat.add_assoc, Nat.add_comm 1]

/-- The number of a target is its place among the targets. -/
theorem contractIndex?_ofSteps {steps : List Step} {address : String} (h : address ∈ targets steps) :
    (ofSteps steps).contractIndex? address = some ((targets steps).idxOf address + 1) := by
  have hkeys : ((targets steps).map (entryOf steps)).map (·.address) = targets steps := by
    rw [List.map_map]
    exact List.map_id _
  have hfound : ∃ e, ((targets steps).map (entryOf steps)).find? (·.address == address) = some e :=
    Option.isSome_iff_exists.mp (List.find?_isSome.mpr ⟨_, List.mem_map_of_mem h, by simp [entryOf]⟩)
  obtain ⟨e, he⟩ := hfound
  have hplace := find?_zipIdx (·.address) address ((targets steps).map (entryOf steps)) 1
  rw [he, hkeys] at hplace
  rw [contractIndex?, contract?, contractEntries_ofSteps, hplace, Option.map_some, Option.map_some,
    Nat.add_comm]

end AddressBook

end ExploitReplay
