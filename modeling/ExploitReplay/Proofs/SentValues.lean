import ExploitReplay.Proofs.Callers

/-!
# Values that are sent, and values that are lost

A value that is given for a call is sent if the function takes one, and is an option of the call
then. Otherwise it is lost, and the test comes with a warning that says so. There is one warning for
every lost value, in the order of the steps, and no other; a step that fails gives none, as its
value is looked at last.

## Main definitions

* `CallStatement.optionsOf call payable`: the options of a call
* `Step.lostValue? step`: the value that a step gives to a function that takes none

## Main results

* `mem_optionsOf_iff`: a value is an option of a call iff the function takes one
* `Calls.warnings_eq`: a run warns of the values that its steps lose
* `compile_values`: what is sent and what is lost, for a whole sequence
-/

namespace ExploitReplay

namespace CallStatement

/-! ### The options of a call -/

/-- The options of a call: the value, if the function takes one, and the limit on the gas. -/
def optionsOf (call : Call) (payable : Bool) : List String :=
  ((sentValue call.value payable).map ("value: " ++ ·)).toList ++
    ((filled call.gasLimit).map ("gasLimit: " ++ ·)).toList

/-- Options between braces, or nothing. -/
def braced (options : List String) : String :=
  if options = [] then "" else "\x7b" ++ ", ".intercalate options ++ "\x7d"

/-- **A value is an option of a call iff the function takes one.** -/
theorem mem_optionsOf_iff {call : Call} {v : String} (hvalue : call.value = some v) (hv : v ≠ "")
    (payable : Bool) : "value: " ++ v ∈ optionsOf call payable ↔ payable = true := by
  -- the limit on the gas is another option, whatever it says
  have hgas : "value: " ++ v ∉ ((filled call.gasLimit).map ("gasLimit: " ++ ·)).toList := by
    intro hmem
    simp only [Option.mem_toList, Option.map_eq_some_iff] at hmem
    obtain ⟨gasLimit, -, heq⟩ := hmem
    have hhead := congrArg (fun s => s.toList.head?) heq
    simp at hhead
  rw [optionsOf, List.mem_append, or_iff_left hgas, sentValue, hvalue, filled_of_ne_empty hv]
  cases payable <;> simp

end CallStatement

/-! ### Lost values -/

/-- The value that a step gives to a function that takes none. -/
def Step.lostValue? (step : Step) : Option String :=
  match step.call.value, Signature.parse (some step.call.signature) with
  | some v, .ok signature => if v ≠ "" ∧ signature.payable = false then some v else none
  | _, _ => none

theorem ignoredValue_settled (scope : Scope) {step : Step} (target : String) {signature : Signature}
    (hparse : Signature.parse (some step.call.signature) = .ok signature) :
    (CallStatement.settled scope step target signature).ignoredValue = step.lostValue? := by
  rw [CallStatement.settled, CallStatement.unsentValue, Step.lostValue?, hparse]
  cases step.call.value with
  | none => exact ite_self _
  | some v =>
    by_cases hv : v = ""
    · subst hv
      simp [CallStatement.filled]
    · rw [CallStatement.filled_of_ne_empty hv]
      cases hpayable : signature.payable <;> simp [hv, hpayable]

/-- **A run warns of the values that its steps lose**, in their order. -/
theorem Calls.warnings_eq {all steps : List Step} {scope left : Scope} {cs : List CallStatement}
    (h : Calls (AddressBook.ofSteps all) scope steps cs left) (hsub : ∀ step ∈ steps, step ∈ all) :
    cs.flatMap CallStatement.warnings = (steps.filterMap Step.lostValue?).map .ignoredValue := by
  induction h with
  | nil => rfl
  | @cons scope left step steps c cs head tail ih =>
    rw [callOf_ofSteps (hsub step (by simp))] at head
    obtain ⟨-, signature, hparse, rfl⟩ := CallStatement.ofStep_eq_ok_iff.mp head
    rw [List.flatMap_cons, ih fun s hs => hsub s (List.mem_cons_of_mem _ hs),
      CallStatement.warnings, ignoredValue_settled scope _ hparse, List.filterMap_cons]
    cases step.lostValue? <;> rfl

/-! ### A whole sequence -/

/-- The call of a group has the value of its step as an option iff the signature of the step is read
as payable. The call is the last line of the group. -/
def SendsValue (all : List Step) (step : Step) (g : CallGroup) : Prop :=
  ∃ signature, Signature.parse (some step.call.signature) = .ok signature ∧
    (∀ i, ∃ assigned, (g.lines i).getLast? =
      some (i.line (assigned ++ contractOf all step ++ "." ++ signature.name ++
        CallStatement.braced (CallStatement.optionsOf step.call signature.payable) ++ "(" ++
        ", ".intercalate (step.inputs.map Argument.text) ++ ");"))) ∧
    ∀ v, step.call.value = some v → v ≠ "" →
      ("value: " ++ v ∈ CallStatement.optionsOf step.call signature.payable ↔
        signature.payable = true)

theorem IsGroupAt.sendsValue {all before : List Step} {start : Scope} {step : Step} {g : CallGroup}
    (h : IsGroupAt all start before step g) : SendsValue all step g := by
  obtain ⟨cs, scope, signature, -, hparse, -, hg⟩ := h
  refine ⟨signature, hparse, fun i => ⟨(g.assigned.map (· ++ " = ")).getD "", ?_⟩,
    fun _ hvalue hv => CallStatement.mem_optionsOf_iff hvalue hv _⟩
  have hcall : g.callText = (g.assigned.map (· ++ " = ")).getD "" ++ contractOf all step ++ "." ++
      (signature.name ++
        CallStatement.braced (CallStatement.optionsOf step.call signature.payable) ++ "(" ++
        ", ".intercalate (step.inputs.map Argument.text) ++ ")") ++ ";" := by
    rw [hg]
    rfl
  rw [CallGroup.lines, List.getLast?_concat, hcall]
  simp only [String.append_assoc]
  rfl

/-- **No value is lost silently.** The steps of a sequence before the first one that fails, or all of
them, are written as groups of lines; if none fails, these are the groups of the document that the
text is written from. The value of such a step is an option of its call, on the last line of its
group, iff the signature of the step is read as payable. The warnings are one for every such step
that gives a value to a function that takes none, in the order of the steps, and no others. -/
theorem compile_values (template : Template) (funding : Funding) (steps : List Step) :
    ∃ (before after : List Step) (cs : List CallStatement) (left : Scope) (groups : List CallGroup),
      steps = before ++ after ∧
      Calls (AddressBook.ofSteps steps) (readyScope steps {}) before cs left ∧
      (∀ i, cs.map (·.render i) = groups.map (·.text i)) ∧
      ((after = [] ∧ (compile template funding steps {}).result =
          .ok ((documentOf template funding steps groups).text {})) ∨
        ∃ step rest e, after = step :: rest ∧
          TestContract.callOf (AddressBook.ofSteps steps) left step = .error e ∧
          (compile template funding steps {}).result = .error e) ∧
      groups.length = before.length ∧
      (∀ (k : Nat) (step : Step), before[k]? = some step → ∃ g, groups[k]? = some g ∧
        IsGroupAt steps (readyScope steps {}) (before.take k) step g ∧ SendsValue steps step g) ∧
      (compile template funding steps {}).warnings.map Warning.message =
        (before.filterMap Step.lostValue?).map fun v =>
          "Ignoring value " ++ v ++ " sent to a non-payable function" := by
  rcases compile_cases template funding steps {} with
    ⟨cs, left, hcalls⟩ | ⟨before, step, after, cs, left, e, hsteps, hcalls, he, hof⟩
  · obtain ⟨groups, hlength, hrender, hgroups⟩ := hcalls.exists_groups fun _ => id
    refine ⟨steps, [], cs, left, groups, (List.append_nil _).symm, hcalls, hrender, .inl ⟨rfl, ?_⟩,
      hlength, fun k step hk => ?_, ?_⟩
    · rw [compile_of_calls template funding hcalls, ← render_planned template funding steps groups {}
        hrender]
    · obtain ⟨g, hg, hat⟩ := hgroups k step hk
      exact ⟨g, hg, hat, hat.sendsValue⟩
    · rw [compile_of_calls template funding hcalls]
      dsimp only
      rw [hcalls.warnings_eq fun _ => id, depthWarnings, if_pos rfl, List.append_nil, List.map_map]
      rfl
  · have hsub : ∀ s ∈ before, s ∈ steps := fun s hs => by simp [hsteps, hs]
    obtain ⟨groups, hlength, hrender, hgroups⟩ := hcalls.exists_groups hsub
    refine ⟨before, step :: after, cs, left, groups, hsteps, hcalls, hrender,
      .inr ⟨step, after, e, rfl, he, ?_⟩, hlength, fun k step hk => ?_, ?_⟩
    · rw [hof]
    · obtain ⟨g, hg, hat⟩ := hgroups k step hk
      exact ⟨g, hg, hat, hat.sendsValue⟩
    · rw [hof]
      dsimp only
      rw [hcalls.warnings_eq hsub, List.map_map]
      rfl

/-- Values that are sent, lost and empty, and one for a call that fails as its argument is not
declared. -/
example :
    (compile {} {}
      [{ call := ⟨"0xC", "0xA", "function pay() payable", some "1 ether", none⟩ },
       { call := ⟨"0xC", "0xA", "function f() external", some "2 ether", none⟩ },
       { call := ⟨"0xC", "0xA", "function f() external", some "", none⟩ },
       { call := ⟨"0xC", "0xA", "function g(uint256)", some "2 ether", none⟩ },
       { call := ⟨"0xC", "0xA", "function g(uint256)", some "3 ether", none⟩,
         inputs := [.captured "x"] }] {}).warnings =
      [.ignoredValue "2 ether", .ignoredValue "2 ether"] := by
  decide +kernel

end ExploitReplay
