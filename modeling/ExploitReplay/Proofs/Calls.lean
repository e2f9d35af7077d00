import ExploitReplay.Proofs.CallStatement
import ExploitReplay.Proofs.GeneratedNames

/-!
# The calls of a sequence

The calls of a sequence are settled one after another, each in the scope that the calls before it
leave. A run either settles every step, or stops at the first step that fails; in both cases the
scope it leaves has grown by what the settled steps keep.

## Main definitions

* `Calls book scope steps cs left`: the steps are settled in order as `cs`, from one scope to
  another
* `keptNamesOf steps`: the names that steps keep returned values under
* `readyScope steps scope`: the scope before the first call of a sequence

## Main results

* `callsOf_cases`: how a run ends
* `Calls.append_iff`: a run of two sequences is one run after the other
* `Calls.mem_names`: the names that are declared after a run
* `Calls.settled_at`: the step at a place is settled in the scope that the steps before it leave
* `compile_cases`: a sequence is written as a whole, or fails at the first step that does
* `exists_planned`: a text is written from a plan, whose calls settle every step
-/

namespace ExploitReplay

/-- The names that the steps keep returned values under. -/
def keptNamesOf (steps : List Step) : List String :=
  steps.flatMap keptNames

/-- The steps are settled in order as statements, each in the scope the ones before it leave. -/
inductive Calls (book : AddressBook) :
    Scope → List Step → List CallStatement → Scope → Prop where
  | nil {scope : Scope} : Calls book scope [] [] scope
  | cons {scope left : Scope} {step : Step} {steps : List Step} {c : CallStatement}
      {cs : List CallStatement} (head : TestContract.callOf book scope step = .ok c)
      (tail : Calls book (c.declareIn scope) steps cs left) :
      Calls book scope (step :: steps) (c :: cs) left

namespace Calls

variable {book : AddressBook} {scope left : Scope} {steps : List Step} {cs : List CallStatement}

/-! ### Runs and their parts -/

theorem length_eq (h : Calls book scope steps cs left) : cs.length = steps.length := by
  induction h with
  | nil => rfl
  | cons _ _ ih => simp [ih]

/-- **A run of two sequences is one run after the other.** -/
theorem append_iff {before after : List Step} :
    Calls book scope (before ++ after) cs left ↔
      ∃ cs₁ mid cs₂, cs = cs₁ ++ cs₂ ∧ Calls book scope before cs₁ mid ∧
        Calls book mid after cs₂ left := by
  -- on the first sequence: its head is the head of both runs
  induction before generalizing scope cs with
  | nil =>
    constructor
    · intro h
      exact ⟨[], scope, cs, rfl, .nil, h⟩
    · rintro ⟨cs₁, mid, cs₂, rfl, h₁, h₂⟩
      cases h₁
      exact h₂
  | cons step before ih =>
    constructor
    · intro h
      cases h with
      | cons head tail =>
        obtain ⟨cs₁, mid, cs₂, rfl, h₁, h₂⟩ := ih.mp tail
        exact ⟨_, mid, cs₂, rfl, .cons head h₁, h₂⟩
    · rintro ⟨cs₁, mid, cs₂, rfl, h₁, h₂⟩
      cases h₁ with
      | cons head tail => exact .cons head (ih.mpr ⟨_, mid, cs₂, rfl, tail, h₂⟩)

/-- A run through a step settles it after the steps before it. -/
theorem at_step {before after : List Step} {step : Step}
    (h : Calls book scope (before ++ step :: after) cs left) :
    ∃ cs₁ mid c cs₂, cs = cs₁ ++ c :: cs₂ ∧ Calls book scope before cs₁ mid ∧
      TestContract.callOf book mid step = .ok c ∧ Calls book (c.declareIn mid) after cs₂ left := by
  obtain ⟨cs₁, mid, cs₂, rfl, h₁, h₂⟩ := append_iff.mp h
  cases h₂ with
  | cons head tail => exact ⟨cs₁, mid, _, _, rfl, h₁, head, tail⟩

end Calls

/-- A run that settles every step is the result of calling them. -/
theorem Calls.callsOf_eq {book : AddressBook} {scope left : Scope} {steps : List Step}
    {cs : List CallStatement} (h : Calls book scope steps cs left) :
    TestContract.callsOf book steps scope = ⟨.ok cs, left, cs.flatMap CallStatement.warnings⟩ := by
  induction h with
  | nil => rfl
  | cons head _ ih => simp [TestContract.callsOf, head, ih, Except.map]

/-- A run that settles every step before one that fails ends there. -/
theorem Calls.callsOf_eq_error {book : AddressBook} {scope left : Scope} {before : List Step}
    {step : Step} {cs : List CallStatement} {e : Failure} (h : Calls book scope before cs left)
    (he : TestContract.callOf book left step = .error e) (after : List Step) :
    TestContract.callsOf book (before ++ step :: after) scope =
      ⟨.error e, left, cs.flatMap CallStatement.warnings⟩ := by
  induction h with
  | nil => simp [TestContract.callsOf, he]
  | cons head _ ih => simp [TestContract.callsOf, head, ih he, Except.map]

/-- **How a run ends**: with every step settled, or at the first step that fails. -/
theorem callsOf_cases (book : AddressBook) (steps : List Step) (scope : Scope) :
    (∃ cs left, Calls book scope steps cs left) ∨
      ∃ before step after cs left e, steps = before ++ step :: after ∧
        Calls book scope before cs left ∧ TestContract.callOf book left step = .error e ∧
        TestContract.callsOf book steps scope =
          ⟨.error e, left, cs.flatMap CallStatement.warnings⟩ := by
  induction steps generalizing scope with
  | nil => exact .inl ⟨[], scope, .nil⟩
  | cons step steps ih =>
    cases hcall : TestContract.callOf book scope step with
    | error e =>
      exact .inr ⟨[], step, steps, [], scope, e, rfl, .nil, hcall,
        Calls.nil.callsOf_eq_error hcall steps⟩
    | ok c =>
      rcases ih (c.declareIn scope) with
        ⟨cs, left, hcalls⟩ | ⟨before, failing, after, cs, left, e, rfl, hcalls, he, -⟩
      · exact .inl ⟨c :: cs, left, .cons hcall hcalls⟩
      · exact .inr ⟨step :: before, failing, after, c :: cs, left, e, rfl, .cons hcall hcalls, he,
          (hcalls.cons hcall).callsOf_eq_error he after⟩

/-! ### The steps of a sequence in its own book -/

/-- The variable of the contract a step calls. -/
def contractOf (steps : List Step) (step : Step) : String :=
  Solidity.contractName ((targets steps).idxOf step.call.target + 1 : Nat)

/-- **Every step of a sequence finds its contract in the book of the sequence.** -/
theorem callOf_ofSteps {steps : List Step} {step : Step} (h : step ∈ steps) (scope : Scope) :
    TestContract.callOf (AddressBook.ofSteps steps) scope step =
      CallStatement.ofStep scope step (contractOf steps step) := by
  simp only [TestContract.callOf, AddressBook.contractIndex?_ofSteps (target_mem_targets h),
    contractOf]

theorem names_captures_of_ofStep {scope : Scope} {step : Step} {target : String}
    {c : CallStatement} (h : CallStatement.ofStep scope step target = .ok c) :
    c.captures.map (·.name) = keptNames step := by
  obtain ⟨⟨⟨signature, hparse, hlen⟩, -⟩, signature', hparse', rfl⟩ :=
    CallStatement.ofStep_eq_ok_iff.mp h
  obtain rfl := Except.ok.inj (hparse.symm.trans hparse')
  exact CallStatement.names_captures_settled scope target hlen

namespace Calls

/-- **The names that are declared after a run** are those before it and those its steps keep. -/
theorem mem_names {all before : List Step} {scope left : Scope} {cs : List CallStatement}
    (h : Calls (AddressBook.ofSteps all) scope before cs left) (hsub : ∀ s ∈ before, s ∈ all)
    {name : String} : name ∈ left.names ↔ name ∈ scope.names ∨ name ∈ keptNamesOf before := by
  induction h with
  | nil => simp [keptNamesOf]
  | @cons scope left step steps c cs head tail ih =>
    rw [callOf_ofSteps (hsub step (by simp))] at head
    rw [ih fun s hs => hsub s (List.mem_cons_of_mem _ hs), CallStatement.declareIn,
      Scope.mem_names_defineAll, names_captures_of_ofStep head, or_assoc]
    simp [keptNamesOf]

end Calls

/-! ### The step at a place -/

/-- The step at `k` of a sequence stands between the steps before it and those after it. -/
theorem eq_take_append_cons {steps : List Step} {k : Nat} {step : Step}
    (h : steps[k]? = some step) : steps = steps.take k ++ step :: steps.drop (k + 1) := by
  have hdrop : steps.drop k = step :: steps.drop (k + 1) := by
    rw [List.drop_eq_getElem?_toList_append, h]
    rfl
  rw [← hdrop, List.take_append_drop]

/-- **The step at a place is settled in the scope that the steps before it leave.** -/
theorem Calls.settled_at {steps : List Step} {scope left : Scope} {cs : List CallStatement}
    (h : Calls (AddressBook.ofSteps steps) scope steps cs left) {k : Nat} {step : Step}
    (hk : steps[k]? = some step) :
    ∃ mid cs₁ signature, Calls (AddressBook.ofSteps steps) scope (steps.take k) cs₁ mid ∧
      Signature.parse (some step.call.signature) = .ok signature ∧
      cs[k]? = some (CallStatement.settled mid step (contractOf steps step) signature) := by
  have hcalls : Calls (AddressBook.ofSteps steps) scope
      (steps.take k ++ step :: steps.drop (k + 1)) cs left := by
    rwa [← eq_take_append_cons hk]
  obtain ⟨cs₁, mid, c, cs₂, rfl, h₁, hc, -⟩ := hcalls.at_step
  rw [callOf_ofSteps (List.mem_of_getElem? hk)] at hc
  obtain ⟨-, signature, hparse, rfl⟩ := CallStatement.ofStep_eq_ok_iff.mp hc
  obtain ⟨hlt, -⟩ := List.getElem?_eq_some_iff.mp hk
  have hlength : cs₁.length = k := by rw [h₁.length_eq, List.length_take_of_le (Nat.le_of_lt hlt)]
  refine ⟨mid, cs₁, signature, h₁, hparse, ?_⟩
  rw [← hlength, List.getElem?_append_right (Nat.le_refl _), Nat.sub_self, List.getElem?_cons_zero]

/-! ### The text of a sequence -/

theorem exists_ok_of_isOk {ε α : Type} {r : Except ε α} (h : r.isOk = true) :
    ∃ a, r = .ok a := by
  cases r with
  | error e => cases h
  | ok a => exact ⟨a, rfl⟩

/-- The scope before the first call of a sequence: its generated names are declared. -/
def readyScope (steps : List Step) (scope : Scope) : Scope :=
  scope.defineAll (TestContract.generatedBindings (AddressBook.ofSteps steps))

theorem mem_names_readyScope {steps : List Step} {scope : Scope} {name : String} :
    name ∈ (readyScope steps scope).names ↔ name ∈ scope.names ∨ name ∈ generatedNames steps := by
  rw [readyScope, Scope.mem_names_defineAll, names_generatedBindings]

/-- The test contract of a sequence with its statements. -/
def planned (template : Template) (funding : Funding) (steps : List Step) (scope : Scope)
    (cs : List CallStatement) : TestContract where
  template := template
  contracts := (AddressBook.ofSteps steps).contracts
  accounts := (AddressBook.ofSteps steps).accounts
  deals := TestContract.dealsOf (readyScope steps scope) (AddressBook.ofSteps steps).accounts
    (funding.resolve template.usualFunds)
  calls := cs

/-- A sequence whose steps are all settled has a plan. -/
theorem ofSteps_of_calls (template : Template) (funding : Funding) {steps : List Step}
    {scope left : Scope} {cs : List CallStatement}
    (h : Calls (AddressBook.ofSteps steps) (readyScope steps scope) steps cs left) :
    TestContract.ofSteps template funding steps scope =
      ⟨.ok (planned template funding steps scope cs), left,
        cs.flatMap CallStatement.warnings⟩ := by
  have hof := h.callsOf_eq
  unfold readyScope at hof
  simp only [TestContract.ofSteps, hof, Except.map, planned, readyScope]

/-- A sequence whose steps are all settled is written as a whole. -/
theorem compile_of_calls (template : Template) (funding : Funding) {steps : List Step}
    {context : Context} {cs : List CallStatement} {left : Scope}
    (h : Calls (AddressBook.ofSteps steps) (readyScope steps context.scope) steps cs left) :
    compile template funding steps context =
      ⟨.ok ((planned template funding steps context.scope cs).render context.indent),
        { context with scope := left },
        cs.flatMap CallStatement.warnings ++ depthWarnings context.indent⟩ := by
  simp only [compile, ofSteps_of_calls template funding h]

/-- A sequence with a step that fails after settled ones fails as that step. -/
theorem compile_of_callOf_error (template : Template) (funding : Funding)
    {steps before after : List Step} {step : Step} {context : Context} {cs : List CallStatement}
    {left : Scope} {e : Failure} (hsteps : steps = before ++ step :: after)
    (h : Calls (AddressBook.ofSteps steps) (readyScope steps context.scope) before cs left)
    (he : TestContract.callOf (AddressBook.ofSteps steps) left step = .error e) :
    compile template funding steps context =
      ⟨.error e, { context with scope := left }, cs.flatMap CallStatement.warnings⟩ := by
  have hof := h.callsOf_eq_error he after
  rw [← hsteps] at hof
  unfold readyScope at hof
  simp only [compile, TestContract.ofSteps, hof, Except.map]

/-- **How a sequence is written**: as a whole once every step is settled, or not at all. -/
theorem compile_cases (template : Template) (funding : Funding) (steps : List Step)
    (context : Context) :
    (∃ cs left, Calls (AddressBook.ofSteps steps) (readyScope steps context.scope) steps cs left) ∨
      ∃ before step after cs left e, steps = before ++ step :: after ∧
        Calls (AddressBook.ofSteps steps) (readyScope steps context.scope) before cs left ∧
        TestContract.callOf (AddressBook.ofSteps steps) left step = .error e ∧
        compile template funding steps context =
          ⟨.error e, { context with scope := left }, cs.flatMap CallStatement.warnings⟩ := by
  rcases callsOf_cases (AddressBook.ofSteps steps) steps (readyScope steps context.scope) with
    hcalls | ⟨before, step, after, cs, left, e, hsteps, hcalls, he, -⟩
  · exact .inl hcalls
  · exact .inr ⟨before, step, after, cs, left, e, hsteps, hcalls, he,
      compile_of_callOf_error template funding hsteps hcalls he⟩

/-- **A text is written from a plan**, whose calls settle every step. -/
theorem exists_planned {template : Template} {funding : Funding} {steps : List Step} {i : Indent}
    {source : String} (h : (compile template funding steps { indent := i }).result = .ok source) :
    ∃ cs left, Calls (AddressBook.ofSteps steps) (readyScope steps {}) steps cs left ∧
      (TestContract.ofSteps template funding steps {}).result =
        .ok (planned template funding steps {} cs) ∧
      source = (planned template funding steps {} cs).render i := by
  rcases compile_cases template funding steps { indent := i } with
    ⟨cs, left, hcalls⟩ | ⟨before, step, after, cs, left, e, -, -, -, hof⟩
  · rw [compile_of_calls template funding hcalls] at h
    refine ⟨cs, left, hcalls, ?_, (Except.ok.inj h).symm⟩
    rw [ofSteps_of_calls template funding hcalls]
  · rw [hof] at h
    cases h

end ExploitReplay
