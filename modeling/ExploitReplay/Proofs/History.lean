import ExploitReplay.Proofs.Accounts

/-!
# Writing in a used context

Sequences may be written one after another in one context, which keeps what they declared, also when
they fail. A sequence that has a test from scratch has the same test in any context that was used
before: it declares its own generated names again, and every caller is still written by its own
account.

## Main definitions

* `Job`: a sequence to write, with its template and its funding
* `contextAfter history`: the context after a history of jobs

## Main results

* `HoldsAccounts.compile`: every job leaves the accounts in order
* `Calls.transfer`: calls that are settled in one scope are settled alike in one that knows more
* `compile_contextAfter`: a used context changes nothing
-/

namespace ExploitReplay

/-- A sequence to write, with its template and its funding. -/
structure Job where
  template : Template := {}
  funding : Funding := {}
  steps : List Step
deriving DecidableEq, Repr

/-- The outcome of a job in a context. -/
def Job.writtenIn (job : Job) (context : Context) : Outcome Context String :=
  compile job.template job.funding job.steps context

/-- The context after a history of jobs, the earliest first, that started from scratch. -/
def contextAfter (history : List Job) : Context :=
  history.foldl (fun context job => (job.writtenIn context).state) {}

theorem contextAfter_append_singleton (history : List Job) (job : Job) :
    contextAfter (history ++ [job]) = (job.writtenIn (contextAfter history)).state := by
  simp [contextAfter]

/-! ### What a history leaves -/

/-- The context after a job: the scope that the steps up to its end leave, and the depth as it
was. -/
theorem state_writtenIn (job : Job) (context : Context) :
    ∃ before after cs left, job.steps = before ++ after ∧
      Calls (AddressBook.ofSteps job.steps) (readyScope job.steps context.scope) before cs left ∧
      (job.writtenIn context).state = { context with scope := left } := by
  rcases compile_cases job.template job.funding job.steps context with
    ⟨cs, left, hcalls⟩ | ⟨before, step, after, cs, left, e, hsteps, hcalls, -, hof⟩
  · exact ⟨job.steps, [], cs, left, by simp, hcalls, by
      rw [Job.writtenIn, compile_of_calls _ _ hcalls]⟩
  · exact ⟨before, step :: after, cs, left, hsteps, hcalls, by rw [Job.writtenIn, hof]⟩

/-- **Every job leaves the accounts in order**, whether it fails or not. -/
theorem HoldsAccounts.writtenIn {context : Context} {accounts : List String}
    (h : HoldsAccounts context.scope accounts) {job : Job} (hkept : KeepsNoAccount job.steps) :
    HoldsAccounts (job.writtenIn context).state.scope
      (callers job.steps ++ accounts.drop (callers job.steps).length) := by
  obtain ⟨before, after, cs, left, hsteps, hcalls, hstate⟩ := state_writtenIn job context
  have hsub : ∀ s ∈ before, s ∈ job.steps := fun s hs => by simp [hsteps, hs]
  rw [hstate]
  exact (h.readyScope job.steps).calls hcalls hsub fun s hs => hkept s (hsub s hs)

/-- A history leaves accounts in order, and the depth at zero. -/
theorem holdsAccounts_contextAfter {history : List Job}
    (hkept : ∀ job ∈ history, KeepsNoAccount job.steps) :
    (∃ accounts, HoldsAccounts (contextAfter history).scope accounts) ∧
      (contextAfter history).indent = {} := by
  -- from the last job back: what it leaves depends on the accounts it found only
  induction history using List.reverseRecOn with
  | nil => exact ⟨⟨[], .empty⟩, rfl⟩
  | append_singleton history job ih =>
    obtain ⟨⟨accounts, haccounts⟩, hindent⟩ := ih fun j hj => hkept j (by simp [hj])
    rw [contextAfter_append_singleton]
    refine ⟨⟨_, haccounts.writtenIn (hkept job (by simp))⟩, ?_⟩
    obtain ⟨_, _, _, _, -, -, hstate⟩ := state_writtenIn job (contextAfter history)
    rw [hstate]
    exact hindent

/-! ### Calls in two scopes -/

/-- The second scope knows the names of the first, and both hold the callers of the sequence
first. -/
structure Extends (all : List Step) (s s' : Scope) : Prop where
  names : s.names ⊆ s'.names
  accounts : ∃ rest, HoldsAccounts s (callers all ++ rest)
  accounts' : ∃ rest, HoldsAccounts s' (callers all ++ rest)

namespace Extends

variable {all : List Step} {s s' : Scope}

/-- Every caller of the sequence is written alike in both. -/
theorem reference (h : Extends all s s') {a : String} (ha : a ∈ callers all) :
    s.reference a = s'.reference a := by
  obtain ⟨rest, hs⟩ := h.accounts
  obtain ⟨rest', hs'⟩ := h.accounts'
  rw [hs.reference (List.mem_append_left _ ha), hs'.reference (List.mem_append_left _ ha),
    List.idxOf_append_of_mem ha, List.idxOf_append_of_mem ha]

/-- A step that is settled in the first scope has the same statement in the second. -/
theorem ofStep (h : Extends all s s') {step : Step} (hstep : step ∈ all) {target : String}
    {c : CallStatement} (hc : CallStatement.ofStep s step target = .ok c) :
    CallStatement.ofStep s' step target = .ok c := by
  obtain ⟨ha, signature, hparse, rfl⟩ := CallStatement.ofStep_eq_ok_iff.mp hc
  refine CallStatement.ofStep_eq_ok_iff.mpr ⟨ha.mono h.names, signature, hparse, ?_⟩
  by_cases hcaller : step.call.caller = ""
  · simp [CallStatement.settled, hcaller]
  · simp [CallStatement.settled, h.reference (caller_mem_callers hstep hcaller)]

/-- Both scopes declare what the statement of a step keeps. -/
theorem declareIn (h : Extends all s s') {step : Step} {target : String} {c : CallStatement}
    (hc : CallStatement.ofStep s step target = .ok c)
    (hkept : ∀ output ∈ step.outputs, ∀ n : Nat, 0 < n →
      Text.trim output ≠ Solidity.accountName n) :
    Extends all (c.declareIn s) (c.declareIn s') where
  names := by
    intro name hname
    rw [CallStatement.declareIn, Scope.mem_names_defineAll] at hname ⊢
    exact hname.imp_left fun hn => h.names hn
  accounts := h.accounts.imp fun _ hs => hs.defineAll_other (capture_is_no_account hc hkept)
  accounts' := h.accounts'.imp fun _ hs => hs.defineAll_other (capture_is_no_account hc hkept)

end Extends

/-- **Calls that are settled in one scope are settled alike in one that knows more.** -/
theorem Calls.transfer {all steps : List Step} {s s' left : Scope} {cs : List CallStatement}
    (hcalls : Calls (AddressBook.ofSteps all) s steps cs left) (hsub : ∀ step ∈ steps, step ∈ all)
    (hkept : KeepsNoAccount steps) (h : Extends all s s') :
    ∃ left', Calls (AddressBook.ofSteps all) s' steps cs left' := by
  -- on the run in the first scope; both scopes declare the same after every step
  induction hcalls generalizing s' with
  | nil => exact ⟨s', .nil⟩
  | @cons s left step steps c cs head tail ih =>
    have hstep := hsub step (by simp)
    rw [callOf_ofSteps hstep] at head
    obtain ⟨left', htail⟩ := ih (fun s hs => hsub s (List.mem_cons_of_mem _ hs))
      (fun s hs => hkept s (List.mem_cons_of_mem _ hs)) (h.declareIn head (hkept step (by simp)))
    exact ⟨left', .cons ((callOf_ofSteps hstep s').trans (h.ofStep hstep head)) htail⟩

/-- A context that was used before knows more than a fresh one once a sequence is ready. -/
theorem extends_readyScope {scope : Scope} {accounts : List String}
    (h : HoldsAccounts scope accounts) (steps : List Step) :
    Extends steps (readyScope steps {}) (readyScope steps scope) where
  names := by
    intro name hname
    rw [mem_names_readyScope] at hname ⊢
    exact hname.elim (fun hn => by simp [Scope.names] at hn) Or.inr
  accounts := ⟨_, HoldsAccounts.empty.readyScope steps⟩
  accounts' := ⟨_, h.readyScope steps⟩

theorem dealsOf_congr {steps : List Step} {s s' : Scope} (h : Extends steps s s')
    (funds : Option String) :
    TestContract.dealsOf s (AddressBook.ofSteps steps).accounts funds =
      TestContract.dealsOf s' (AddressBook.ofSteps steps).accounts funds := by
  unfold TestContract.dealsOf
  cases CallStatement.filled funds with
  | none => rfl
  | some amount =>
    refine List.map_congr_left ?_
    rintro ⟨a, n⟩ hp
    have hmem : a ∈ callers steps := by
      rw [AddressBook.accounts_ofSteps] at hp
      exact (List.mem_zipIdx hp).2.2 ▸ List.getElem_mem _
    exact congrArg (·, amount) (h.reference hmem)

/-- **A used context changes nothing.** If no sequence keeps a value under the name of an account,
then a sequence that has a test from scratch has the same test after any history of sequences,
successful or failing. -/
theorem compile_contextAfter {history : List Job} {job : Job}
    (hhistory : ∀ j ∈ history, KeepsNoAccount j.steps) (hjob : KeepsNoAccount job.steps)
    {source : String} (h : (job.writtenIn {}).result = .ok source) :
    (job.writtenIn (contextAfter history)).result = .ok source := by
  obtain ⟨⟨accounts, haccounts⟩, hindent⟩ := holdsAccounts_contextAfter hhistory
  have hextends := extends_readyScope haccounts job.steps
  rcases compile_cases job.template job.funding job.steps {} with
    ⟨cs, left, hcalls⟩ | ⟨before, step, after, cs, left, e, hsteps, hcalls, -, hof⟩
  · obtain ⟨left', hcalls'⟩ := hcalls.transfer (fun _ => id) hjob hextends
    have hplanned : planned job.template job.funding job.steps {} cs =
        planned job.template job.funding job.steps (contextAfter history).scope cs := by
      rw [planned, planned, dealsOf_congr hextends]
    rw [Job.writtenIn, compile_of_calls _ _ hcalls] at h
    rw [Job.writtenIn, compile_of_calls _ _ hcalls', ← h, hplanned, hindent]
  · rw [Job.writtenIn, hof] at h
    cases h

/-! ### A history and a job after it -/

/-- Two jobs that leave accounts, contracts and captures behind; the second fails after that. -/
def staleHistory : List Job :=
  [{ steps :=
      [{ call := ⟨"0xA", "0xF", "function f() external returns (uint256)", none, none⟩,
         outputs := [" x "] },
       { call := ⟨"0xB", "0xE", "function g() external", none, none⟩ }] },
   { steps :=
      [{ call := ⟨"0xC", "0xB", "function h() external", none, none⟩,
         inputs := [.captured "y"] }] }]

/-- A job whose callers have other numbers than in the history, and that keeps a known name again. -/
def laterJob : Job where
  funding := { amount := some "1 ether" }
  steps :=
    [{ call := ⟨"0xB", "0xE", "function g() external returns (address)", none, none⟩,
       outputs := ["x"] },
     { call := ⟨"0xA", "0xA", "function k(address, address) external", none, none⟩,
       inputs := [.captured "x", .captured "account1"] }]

theorem compile_laterJob_contextAfter_staleHistory :
    (∀ j ∈ staleHistory, KeepsNoAccount j.steps) ∧ KeepsNoAccount laterJob.steps ∧
      ∃ source, (laterJob.writtenIn {}).result = .ok source ∧
        (laterJob.writtenIn (contextAfter staleHistory)).result = .ok source := by
  have hhistory : ∀ j ∈ staleHistory, KeepsNoAccount j.steps := fun j hj =>
    keepsNoAccount_of_head <| by
      revert j
      decide +kernel
  have hjob : KeepsNoAccount laterJob.steps := keepsNoAccount_of_head (by decide +kernel)
  obtain ⟨source, h⟩ := exists_ok_of_isOk
    (show (laterJob.writtenIn {}).result.isOk = true by decide +kernel)
  exact ⟨hhistory, hjob, source, h, compile_contextAfter hhistory hjob h⟩

end ExploitReplay
