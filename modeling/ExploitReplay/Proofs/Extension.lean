import ExploitReplay.Proofs.Callers
import ExploitReplay.Proofs.History

/-!
# Longer sequences

Steps that are added at the end of a sequence do not change what is written for the steps before
them. The addresses and the signatures of the longer sequence begin with those of the shorter one, so
its contracts, its accounts and what these get keep their places; the longer sequence declares more
names before the first call, and every step is settled there as it was.

## Main definitions

* `TestContract.Begins t t'`: a test begins with the calls, accounts, deals and contracts of another

## Main results

* `prefix_targets`, `prefix_callers`, `prefix_signaturesOn`: added steps come last
* `Calls.ofBook`, `Calls.unique`: a run does not depend on what its steps do not look up
* `Calls.prefix_of_append`: every step is settled as in the shorter sequence
* `compile_append`: what is written for a sequence stays when steps are added
-/

namespace ExploitReplay

/-! ### The addresses and signatures of a longer sequence -/

theorem prefix_eraseDups {α : Type} [DecidableEq α] {xs ys : List α} (h : xs <+: ys) :
    xs.eraseDups <+: ys.eraseDups := by
  obtain ⟨zs, rfl⟩ := h
  rw [List.eraseDups_append]
  exact List.prefix_append _ _

section Longer

variable (before after : List Step)

theorem prefix_targets : targets before <+: targets (before ++ after) := by
  rw [targets, targets, List.map_append]
  exact prefix_eraseDups (List.prefix_append _ _)

theorem prefix_callers : callers before <+: callers (before ++ after) := by
  rw [callers, callers, List.map_append, List.filter_append]
  exact prefix_eraseDups (List.prefix_append _ _)

theorem prefix_signaturesOn (address : String) :
    signaturesOn before address <+: signaturesOn (before ++ after) address := by
  rw [signaturesOn, signaturesOn, List.filter_append, List.map_append]
  exact prefix_eraseDups (List.prefix_append _ _)

/-- A contract keeps its variable. -/
theorem contractOf_append {step : Step} (h : step ∈ before) :
    contractOf (before ++ after) step = contractOf before step := by
  obtain ⟨rest, hrest⟩ := prefix_targets before after
  rw [contractOf, contractOf, ← hrest, List.idxOf_append_of_mem (target_mem_targets h)]

/-- Names that are generated for a sequence are generated for a longer one. -/
theorem generatedNames_subset : generatedNames before ⊆ generatedNames (before ++ after) := by
  have hrange : ∀ {m n : Nat}, m ≤ n → List.range' 1 m ⊆ List.range' 1 n := by
    intro m n hle i hi
    rw [List.mem_range'_1] at hi ⊢
    omega
  intro name hname
  rw [generatedNames, List.mem_append] at hname ⊢
  rcases hname with hcontract | haccount
  · exact .inl (List.map_subset _ (hrange (prefix_targets before after).length_le) hcontract)
  · exact .inr (List.map_subset _ (hrange (prefix_callers before after).length_le) haccount)

end Longer

/-! ### The calls of a longer sequence -/

namespace Calls

variable {book book' : AddressBook} {scope left left' : Scope} {steps : List Step}
  {cs cs' : List CallStatement}

/-- A run is one in every book where its steps find the same contracts. -/
theorem ofBook (h : Calls book scope steps cs left)
    (hbook : ∀ step ∈ steps, ∀ s, TestContract.callOf book' s step = TestContract.callOf book s step) :
    Calls book' scope steps cs left := by
  induction h with
  | nil => exact .nil
  | @cons scope left step steps c cs head tail ih =>
    refine .cons ((hbook step (by simp) scope).trans head) (ih ?_)
    intro s hs
    exact hbook s (List.mem_cons_of_mem _ hs)

/-- There is one run of some steps from a scope. -/
theorem unique (h : Calls book scope steps cs left) (h' : Calls book scope steps cs' left') :
    cs = cs' := by
  have hresults := h.callsOf_eq.symm.trans h'.callsOf_eq
  exact Except.ok.inj (congrArg Outcome.result hresults)

end Calls

/-- Before its first call, a longer sequence has declared more names, and the accounts come in the
same order. -/
theorem extends_readyScope_append (before after : List Step) :
    Extends before (readyScope before {}) (readyScope (before ++ after) {}) where
  names := by
    intro name hname
    rw [mem_names_readyScope] at hname ⊢
    exact hname.imp_right fun h => generatedNames_subset before after h
  accounts := ⟨_, HoldsAccounts.empty.readyScope before⟩
  accounts' := by
    obtain ⟨rest, hrest⟩ := prefix_callers before after
    refine ⟨rest, ?_⟩
    simpa [hrest] using HoldsAccounts.empty.readyScope (before ++ after)

/-- **Every step is settled as in the shorter sequence.** -/
theorem Calls.prefix_of_append {before after : List Step} {cs cs' : List CallStatement}
    {left left' : Scope}
    (h : Calls (AddressBook.ofSteps before) (readyScope before {}) before cs left)
    (h' : Calls (AddressBook.ofSteps (before ++ after)) (readyScope (before ++ after) {})
      (before ++ after) cs' left')
    (hkept : KeepsNoAccount before) : cs <+: cs' := by
  -- the run of the shorter sequence, in the scope and in the book of the longer one
  obtain ⟨left₁, hlonger⟩ :=
    h.transfer (fun _ => id) hkept (extends_readyScope_append before after)
  have hbook : ∀ step ∈ before, ∀ s,
      TestContract.callOf (AddressBook.ofSteps (before ++ after)) s step =
        TestContract.callOf (AddressBook.ofSteps before) s step := by
    intro step hstep s
    rw [callOf_ofSteps (List.mem_append_left after hstep), callOf_ofSteps hstep,
      contractOf_append before after hstep]
  -- it is the first part of the run of the longer sequence
  obtain ⟨cs₁, mid, cs₂, rfl, hbefore, -⟩ := append_iff.mp h'
  obtain rfl := (hlonger.ofBook hbook).unique hbefore
  exact List.prefix_append _ _

/-! ### The plan of a longer sequence -/

namespace TestContract

/-- The second test begins with the calls, the accounts and the deals of the first. It begins with
its contracts as well, under which more signatures may be listed at the end. -/
structure Begins (t t' : TestContract) : Prop where
  calls : t.calls <+: t'.calls
  accounts : t.accounts <+: t'.accounts
  deals : t.deals <+: t'.deals
  contracts : ∀ (k : Nat) (e : ContractEntry) (n : Nat), t.contracts[k]? = some (e, n) →
    ∃ e', t'.contracts[k]? = some (e', n) ∧ e'.address = e.address ∧ e.signatures <+: e'.signatures

/-- The variables of the contracts depend on their addresses only. -/
theorem Begins.contractLines {t t' : TestContract} (h : t.Begins t') (i : Indent) :
    t.contractLines i <+: t'.contractLines i := by
  rw [List.prefix_iff_getElem?]
  intro k hk
  rw [TestContract.contractLines, List.length_map] at hk
  obtain ⟨e', he', haddress, -⟩ :=
    h.contracts k t.contracts[k].1 t.contracts[k].2 (List.getElem?_eq_getElem hk)
  simp [TestContract.contractLines, he', haddress]

end TestContract

theorem prefix_zipIdx {α : Type} {xs ys : List α} (h : xs <+: ys) (n : Nat) :
    xs.zipIdx n <+: ys.zipIdx n := by
  obtain ⟨zs, rfl⟩ := h
  rw [List.zipIdx_append]
  exact List.prefix_append _ _

/-- A contract keeps its number, and signatures are added at the end of its interface. -/
theorem contracts_append (before after : List Step) (k : Nat) (e : ContractEntry) (n : Nat)
    (h : (AddressBook.ofSteps before).contracts[k]? = some (e, n)) :
    ∃ e', (AddressBook.ofSteps (before ++ after)).contracts[k]? = some (e', n) ∧
      e'.address = e.address ∧ e.signatures <+: e'.signatures := by
  rw [AddressBook.contracts_ofSteps, List.getElem?_zipIdx, List.getElem?_map] at h
  cases ha : (targets before)[k]? with
  | none => simp [ha] at h
  | some address =>
    obtain ⟨rfl, rfl⟩ : AddressBook.entryOf before address = e ∧ 1 + k = n := by
      simpa [ha] using h
    obtain ⟨rest, hrest⟩ := prefix_targets before after
    have hplace : (targets (before ++ after))[k]? = some address := by
      obtain ⟨hlt, -⟩ := List.getElem?_eq_some_iff.mp ha
      rw [← hrest, List.getElem?_append_left hlt, ha]
    refine ⟨AddressBook.entryOf (before ++ after) address, ?_, rfl,
      prefix_signaturesOn before after address⟩
    rw [AddressBook.contracts_ofSteps, List.getElem?_zipIdx, List.getElem?_map, hplace]
    rfl

theorem accounts_append (before after : List Step) :
    (AddressBook.ofSteps before).accounts <+: (AddressBook.ofSteps (before ++ after)).accounts := by
  rw [AddressBook.accounts_ofSteps, AddressBook.accounts_ofSteps]
  exact prefix_zipIdx (prefix_callers before after) 1

/-- An account is funded as before. -/
theorem dealsOf_append (before after : List Step) (funds : Option String) :
    TestContract.dealsOf (readyScope before {}) (AddressBook.ofSteps before).accounts funds <+:
      TestContract.dealsOf (readyScope (before ++ after) {})
        (AddressBook.ofSteps (before ++ after)).accounts funds := by
  -- the accounts are funded in the order of their numbers, in both sequences
  rw [dealsOf_readyScope, dealsOf_readyScope]
  cases CallStatement.filled funds with
  | none => exact List.prefix_refl []
  | some amount =>
    obtain ⟨rest, hrest⟩ := prefix_callers before after
    have hrange : List.range' 1 (callers before).length <+:
        List.range' 1 (callers (before ++ after)).length := by
      rw [← hrest, List.length_append, ← List.range'_append_1]
      exact List.prefix_append _ _
    exact hrange.map _

/-- **What is written for a sequence stays when steps are added.** If no step of the shorter sequence
keeps a value under the name of an account, then the test of the longer sequence has the same text
for each of its calls. The variables of its contracts, those of its accounts and the lines that fund
these come first in the longer test; its contracts keep their numbers, and the interface of each
lists its signatures first. Both tests are written as documents that have all these parts. -/
theorem compile_append {template : Template} {funding : Funding} {before after : List Step}
    {i : Indent} {source source' : String} (hkept : KeepsNoAccount before)
    (h : (compile template funding before { indent := i }).result = .ok source)
    (h' : (compile template funding (before ++ after) { indent := i }).result = .ok source') :
    ∃ t t' : TestContract,
      (TestContract.ofSteps template funding before {}).result = .ok t ∧ source = t.render i ∧
      (TestContract.ofSteps template funding (before ++ after) {}).result = .ok t' ∧
      source' = t'.render i ∧
      (∃ d d' : Document, t.WrittenAs d ∧ t'.WrittenAs d') ∧
      t.calls.length = before.length ∧
      (∀ j, t.callTexts j <+: t'.callTexts j ∧ t.contractLines j <+: t'.contractLines j ∧
        t.accountLines j <+: t'.accountLines j ∧ t.dealLines j <+: t'.dealLines j) ∧
      ∀ (k : Nat) (e : ContractEntry) (n : Nat), t.contracts[k]? = some (e, n) →
        ∃ e', t'.contracts[k]? = some (e', n) ∧ e'.address = e.address ∧
          e.signatures <+: e'.signatures := by
  obtain ⟨cs, left, hcalls, hplan, hsource⟩ := exists_planned h
  obtain ⟨cs', left', hcalls', hplan', hsource'⟩ := exists_planned h'
  have hbegins : (planned template funding before {} cs).Begins
      (planned template funding (before ++ after) {} cs') := by
    constructor
    · exact hcalls.prefix_of_append hcalls' hkept
    · exact accounts_append before after
    · exact dealsOf_append before after _
    · exact contracts_append before after
  obtain ⟨d, hd⟩ := hcalls.exists_writtenAs template funding
  obtain ⟨d', hd'⟩ := hcalls'.exists_writtenAs template funding
  refine ⟨_, _, hplan, hsource, hplan', hsource', ⟨d, d', hd, hd'⟩, hcalls.length_eq, ?_,
    hbegins.contracts⟩
  intro j
  exact ⟨hbegins.calls.map _, hbegins.contractLines j, hbegins.accounts.map _,
    hbegins.deals.map _⟩

/-- A call that keeps a value, and one of a contract that is itself a caller. -/
def earlierSteps : List Step :=
  [{ call := ⟨"0xA", "0xF", "function f() external returns (uint256)", none, none⟩,
     outputs := ["x"] },
   { call := ⟨"0xF", "0xE", "function g(uint256) external", none, none⟩,
     inputs := [.captured "x"] }]

/-- Calls of a known contract by a new account, and of an account that is known. -/
def addedSteps : List Step :=
  [{ call := ⟨"0xB", "0xF", "function h() external returns (uint256)", none, none⟩,
     outputs := ["account1"] },
   { call := ⟨"0xE", "0xA", "function k() external", none, none⟩ }]

theorem compile_append_addedSteps :
    KeepsNoAccount earlierSteps ∧ ∃ source source',
      (compile {} { amount := some "1 ether" } earlierSteps {}).result = .ok source ∧
      (compile {} { amount := some "1 ether" } (earlierSteps ++ addedSteps) {}).result =
        .ok source' ∧
      ∃ t t' : TestContract, source = t.render {} ∧ source' = t'.render {} ∧
        t.callTexts {} <+: t'.callTexts {} ∧ t.contractLines {} <+: t'.contractLines {} := by
  have hkept : KeepsNoAccount earlierSteps := keepsNoAccount_of_head (by decide +kernel)
  obtain ⟨source, h⟩ := exists_ok_of_isOk
    (show (compile {} { amount := some "1 ether" } earlierSteps {}).result.isOk = true by
      decide +kernel)
  obtain ⟨source', h'⟩ := exists_ok_of_isOk
    (show (compile {} { amount := some "1 ether" } (earlierSteps ++ addedSteps) {}).result.isOk =
      true by decide +kernel)
  obtain ⟨t, t', -, hsource, -, hsource', -, -, hlines, -⟩ := compile_append hkept h h'
  obtain ⟨hcalls, hcontracts, -, -⟩ := hlines {}
  exact ⟨hkept, source, source', h, h', t, t', hsource, hsource', hcalls, hcontracts⟩

end ExploitReplay
