import ExploitReplay.Proofs.Calls

/-!
# How accounts are written

In a scope, the accounts of all sequences written so far stand in the order of their numbers; a new
sequence puts its own callers in front and leaves what is behind them. As no other binding holds an
address, every caller is written by its own account, whatever was declared before.

## Main definitions

* `HoldsAccounts scope accounts`: the addresses a scope holds are those of `accounts`, in order
* `KeepsNoAccount steps`: no value is kept under the name of an account

## Main results

* `HoldsAccounts.reference`: an account is written by the number of its place
* `HoldsAccounts.readyScope`: the callers of a sequence come before what was held
* `HoldsAccounts.calls`: calls hold no further address
* `Scope.WritesAs.calls`: calls write an address as before, unless they take its name
-/

namespace ExploitReplay

open Solidity

/-- The addresses a scope holds are those of the accounts, numbered from one, and only they have the
name of an account. -/
structure HoldsAccounts (scope : Scope) (accounts : List String) : Prop where
  addresses : scope.addresses.bindings = accountBindingsFrom 1 accounts
  names : ∀ b ∈ scope.bindings, ∀ n : Nat, 0 < n → b.name = accountName n →
    Scope.holdsAddress b = true

/-- No value is kept under the name of an account. -/
def KeepsNoAccount (steps : List Step) : Prop :=
  ∀ step ∈ steps, ∀ output ∈ step.outputs, ∀ n : Nat, 0 < n → Text.trim output ≠ accountName n

/-- The name of an account begins with a letter that no kept name begins with. -/
theorem keepsNoAccount_of_head {steps : List Step}
    (h : ∀ step ∈ steps, ∀ output ∈ step.outputs,
      (Text.trim output).toList.head? ≠ some 'a') : KeepsNoAccount steps := by
  intro step hstep output houtput n _ he
  refine h step hstep output houtput ?_
  simp [he, accountName]

/-! ### Numbered accounts -/

theorem find?_accountBindingsFrom {addresses : List String} {a : String} (h : a ∈ addresses)
    (n : Nat) : (accountBindingsFrom n addresses).find? (·.value == a) =
      some (accountBinding a (n + addresses.idxOf a : Nat)) := by
  induction addresses generalizing n with
  | nil => simp at h
  | cons x xs ih =>
    by_cases hx : x = a
    · simp [hx, accountBinding]
    · have hne : (x == a) = false := by simpa using hx
      have hmem : a ∈ xs := (List.mem_cons.mp h).resolve_left fun he => hx he.symm
      rw [accountBindingsFrom_cons, List.find?_cons_of_neg (by simpa [accountBinding] using hx),
        ih hmem, List.idxOf_cons, hne, cond_false, Nat.add_right_comm, Nat.add_assoc]

theorem name_mem_accountBindingsFrom {n : Nat} {addresses : List String} {b : Binding}
    (h : b ∈ accountBindingsFrom n addresses) : ∃ i : Nat, n ≤ i ∧ b.name = accountName i := by
  obtain ⟨⟨a, i⟩, hmem, rfl⟩ := List.mem_map.mp h
  exact ⟨i, (List.mem_zipIdx hmem).1, rfl⟩

/-- The account with the number of a place takes that place. -/
theorem overwrite_accountBindingsFrom (a : String) (n : Nat) (done old : List String) :
    Scope.overwrite (accountBinding a (n + done.length : Nat))
        (accountBindingsFrom n (done ++ old)) =
      accountBindingsFrom n (done ++ a :: old.tail) := by
  -- on the accounts before the place; their numbers are smaller, so none has the name
  induction done generalizing n with
  | nil =>
    cases old with
    | nil => rfl
    | cons o old => simp [Scope.overwrite, accountBinding]
  | cons d done ih =>
    have hne : (accountBinding d n).name ≠ (accountBinding a (n + (d :: done).length : Nat)).name := by
      intro h
      have := accountName_inj.mp h
      simp at this
    have ih := ih (n + 1)
    rw [Nat.add_right_comm n 1, Nat.add_assoc n] at ih
    simp only [List.cons_append, accountBindingsFrom_cons, Scope.overwrite, if_neg hne]
    exact congrArg _ ih

namespace HoldsAccounts

variable {scope : Scope} {accounts : List String}

/-- The first binding that holds an account has the number of its place. -/
theorem writesAs (h : HoldsAccounts scope accounts) {a : String} (ha : a ∈ accounts) :
    scope.WritesAs a (accountName (1 + accounts.idxOf a : Nat)) := by
  have hfind := find?_accountBindingsFrom ha 1
  rw [← h.addresses] at hfind
  exact ⟨_, hfind, rfl⟩

/-- An account is written by the number of its place. -/
theorem reference (h : HoldsAccounts scope accounts) {a : String} (ha : a ∈ accounts) :
    scope.reference a = accountName (1 + accounts.idxOf a : Nat) :=
  (h.writesAs ha).reference

theorem empty : HoldsAccounts {} [] :=
  ⟨rfl, by simp⟩

/-! ### What declarations change -/

/-- A declaration that is no account leaves the accounts alone. -/
theorem define_other (h : HoldsAccounts scope accounts) {b : Binding}
    (hb : Scope.holdsAddress b = false) (hn : ∀ n : Nat, 0 < n → b.name ≠ accountName n) :
    HoldsAccounts (scope.define b) accounts where
  addresses := by
    rw [Scope.addresses_define_of_not_holds hb, h.addresses]
    intro x hx hname
    -- a binding of that name that held an address would be one of the accounts
    by_contra hholds
    have hmem : x ∈ scope.addresses.bindings := List.mem_filter.mpr ⟨hx, by simpa using hholds⟩
    rw [h.addresses] at hmem
    obtain ⟨i, hi, hxi⟩ := name_mem_accountBindingsFrom hmem
    exact hn i hi (hname.symm.trans hxi)
  names := by
    intro x hx n hpos hname
    rcases Scope.mem_overwrite hx with rfl | hx
    · exact absurd hname (hn n hpos)
    · exact h.names x hx n hpos hname

theorem defineAll_other (h : HoldsAccounts scope accounts) {bs : List Binding}
    (hbs : ∀ b ∈ bs, Scope.holdsAddress b = false ∧ ∀ n : Nat, 0 < n → b.name ≠ accountName n) :
    HoldsAccounts (scope.defineAll bs) accounts := by
  induction bs generalizing scope with
  | nil => exact h
  | cons b bs ih =>
    obtain ⟨hb, hn⟩ := hbs b (by simp)
    exact ih (h.define_other hb hn) fun x hx => hbs x (List.mem_cons_of_mem _ hx)

/-- An account that is declared under the next number takes the next place. -/
theorem define_account {done old : List String} (h : HoldsAccounts scope (done ++ old)) {a : String}
    (ha : a ≠ "") :
    HoldsAccounts (scope.define (accountBinding a (1 + done.length : Nat)))
      (done ++ a :: old.tail) where
  addresses := by
    have hb : Scope.holdsAddress (accountBinding a (1 + done.length : Nat)) = true := by
      simp [Scope.holdsAddress, accountBinding, ha]
    rw [Scope.addresses_define_of_holds hb fun x hx hname =>
      h.names x hx (1 + done.length) (by omega) hname]
    change Scope.overwrite _ scope.addresses.bindings = _
    rw [h.addresses, overwrite_accountBindingsFrom]
  names := by
    intro x hx n hpos hname
    rcases Scope.mem_overwrite hx with rfl | hx
    · simp [Scope.holdsAddress, accountBinding, ha]
    · exact h.names x hx n hpos hname

/-- Accounts that are declared under the next numbers take the next places, and what is behind them
stays. -/
theorem defineAll_accounts {done old new : List String} (h : HoldsAccounts scope (done ++ old))
    (hnew : ∀ a ∈ new, a ≠ "") :
    HoldsAccounts (scope.defineAll (accountBindingsFrom (1 + done.length) new))
      (done ++ new ++ old.drop new.length) := by
  -- every new account joins those that are done and takes the place of one that is left over
  induction new generalizing scope done old with
  | nil => simpa using h
  | cons a new ih =>
    have hstep := h.define_account (hnew a (by simp))
    rw [← List.singleton_append, ← List.append_assoc] at hstep
    have ih := ih hstep fun x hx => hnew x (List.mem_cons_of_mem _ hx)
    simpa [accountBindingsFrom_cons, Nat.add_assoc] using ih

/-- **The callers of a sequence come first**, before the accounts that were held already. -/
theorem readyScope (h : HoldsAccounts scope accounts) (steps : List Step) :
    HoldsAccounts (ExploitReplay.readyScope steps scope)
      (callers steps ++ accounts.drop (callers steps).length) := by
  rw [ExploitReplay.readyScope, generatedBindings_ofSteps, Scope.defineAll_append]
  have hcontracts : HoldsAccounts (scope.defineAll (contractBindingsFrom 1 (targets steps)))
      ([] ++ accounts) := by
    refine h.defineAll_other fun b hb => ?_
    obtain ⟨⟨a, i⟩, -, rfl⟩ := List.mem_map.mp hb
    exact ⟨by simp [Scope.holdsAddress, contractBinding], fun n _ =>
      contractName_ne_accountName i n⟩
  exact hcontracts.defineAll_accounts fun a => ne_empty_of_mem_callers

end HoldsAccounts

/-! ### Calls -/

/-- A variable that keeps a returned value holds no address, and has a name its step asks for. -/
theorem of_mem_captures {scope : Scope} {step : Step} {target : String} {c : CallStatement}
    (hc : CallStatement.ofStep scope step target = .ok c) {b : Binding} (hb : b ∈ c.captures) :
    Scope.holdsAddress b = false ∧ b.name ∈ keptNames step := by
  constructor
  · obtain ⟨-, signature, -, rfl⟩ := CallStatement.ofStep_eq_ok_iff.mp hc
    obtain ⟨-, -, hvalue⟩ := CallStatement.of_mem_capturesOf hb
    simp [Scope.holdsAddress, hvalue]
  · rw [← names_captures_of_ofStep hc]
    exact List.mem_map.mpr ⟨b, hb, rfl⟩

/-- A variable that keeps a returned value holds no address, and has the name of no account unless
its step asks for it. -/
theorem capture_is_no_account {scope : Scope} {step : Step} {target : String} {c : CallStatement}
    (hc : CallStatement.ofStep scope step target = .ok c)
    (hstep : ∀ output ∈ step.outputs, ∀ n : Nat, 0 < n → Text.trim output ≠ accountName n) :
    ∀ b ∈ c.captures, Scope.holdsAddress b = false ∧ ∀ n : Nat, 0 < n → b.name ≠ accountName n := by
  intro b hb
  obtain ⟨haddress, hname⟩ := of_mem_captures hc hb
  refine ⟨haddress, fun n hn => ?_⟩
  obtain ⟨hmem, -⟩ := List.mem_filter.mp hname
  obtain ⟨output, houtput, heq⟩ := List.mem_map.mp hmem
  exact heq ▸ hstep output houtput n hn

/-- **Calls hold no further address.** -/
theorem HoldsAccounts.calls {all steps : List Step} {scope left : Scope} {accounts : List String}
    {cs : List CallStatement} (hcalls : Calls (AddressBook.ofSteps all) scope steps cs left)
    (hsub : ∀ s ∈ steps, s ∈ all) (hkept : KeepsNoAccount steps)
    (h : HoldsAccounts scope accounts) : HoldsAccounts left accounts := by
  induction hcalls with
  | nil => exact h
  | @cons scope left step steps c cs head tail ih =>
    rw [callOf_ofSteps (hsub step (by simp))] at head
    refine ih (fun s hs => hsub s (List.mem_cons_of_mem _ hs))
      (fun s hs => hkept s (List.mem_cons_of_mem _ hs)) ?_
    exact h.defineAll_other (capture_is_no_account head (hkept step (by simp)))

/-- **Calls write an address as before**, unless one of them keeps a value under its name. -/
theorem Scope.WritesAs.calls {all steps : List Step} {scope left : Scope} {address name : String}
    {cs : List CallStatement} (hcalls : Calls (AddressBook.ofSteps all) scope steps cs left)
    (hsub : ∀ s ∈ steps, s ∈ all) (hkept : name ∉ keptNamesOf steps)
    (h : scope.WritesAs address name) : left.WritesAs address name := by
  induction hcalls with
  | nil => exact h
  | @cons scope left step steps c cs head tail ih =>
    rw [callOf_ofSteps (hsub step (by simp))] at head
    rw [keptNamesOf, List.flatMap_cons, List.mem_append, not_or] at hkept
    refine ih (fun s hs => hsub s (List.mem_cons_of_mem _ hs)) hkept.2 (h.defineAll ?_)
    intro b hb
    obtain ⟨haddress, hname⟩ := of_mem_captures head hb
    exact ⟨haddress, fun he => hkept.1 (he ▸ hname)⟩

end ExploitReplay
