import ExploitReplay.Proofs.Acceptance
import ExploitReplay.Proofs.KeptValues

/-!
# What a test may bind

Whether a sequence has a test or fails on the way, the scope that it leaves holds three kinds of
bindings: the contracts under their numbers, the accounts under theirs, and variables for the values
that the settled steps keep. Such a variable has no value, and a type that a local declaration can
have.

## Main definitions

* `ValueType.IsLocal t`: a type that a local declaration can have
* `MayBind all done b`: a binding that a sequence may leave once the steps `done` are settled

## Main results

* `ValueType.isLocal_declared`: the declared form of a type of the catalog can be declared
* `mayBind_of_mem_readyScope`, `mayBind_of_mem_captures`: what is bound before the calls, and by one
* `Calls.mayBind`: what a run leaves
* `compile_bindings`: what a sequence leaves, with or without a test
-/

namespace ExploitReplay

/-! ### Types of local declarations -/

/-- A type that a local declaration can have: it is in the catalog in its full form, and says where
the value is stored if its size is not fixed. -/
structure ValueType.IsLocal (t : String) : Prop where
  known : ValueType.isKnown t = true
  stored : t ∉ ValueType.unsized
  full : t ∉ ValueType.shorthands.map (·.1)

instance : DecidablePred ValueType.IsLocal := fun t =>
  decidable_of_iff (ValueType.isKnown t = true ∧ t ∉ ValueType.unsized ∧
      t ∉ ValueType.shorthands.map (·.1))
    ⟨fun h => ⟨h.1, h.2.1, h.2.2⟩, fun h => ⟨h.1, h.2, h.3⟩⟩

/-- **The declared form of a type of the catalog can be declared.** -/
theorem ValueType.isLocal_declared {t : String} (h : ValueType.isKnown t = true) :
    ValueType.IsLocal (ValueType.declared t) := by
  have hcatalog : ∀ t ∈ ValueType.catalog, ValueType.IsLocal (ValueType.declared t) := by
    decide +kernel
  exact hcatalog t (List.contains_iff_mem.mp h)

/-! ### What declarations bind -/

theorem Scope.mem_bindings_defineAll {s : Scope} {bs : List Binding} {b : Binding}
    (h : b ∈ (s.defineAll bs).bindings) : b ∈ s.bindings ∨ b ∈ bs := by
  induction bs generalizing s with
  | nil => exact .inl h
  | cons x xs ih =>
    rcases ih h with h | h
    · -- the scope holds what it held before the first declaration, or what that declares
      rcases Scope.mem_overwrite h with rfl | h
      · exact .inr List.mem_cons_self
      · exact .inl h
    · exact .inr (List.mem_cons_of_mem _ h)

/-- A binding that a sequence may leave once the steps `done` are settled. -/
inductive MayBind (all done : List Step) : Binding → Prop
  /-- A target, under its number among the targets. -/
  | contract (i : Nat) (address : String) (target : (targets all)[i]? = some address) :
      MayBind all done ⟨Solidity.contractName (i + 1 : Nat), address, "contract"⟩
  /-- A caller, under its number among the callers. -/
  | account (i : Nat) (address : String) (caller : (callers all)[i]? = some address) :
      MayBind all done ⟨Solidity.accountName (i + 1 : Nat), address, "address"⟩
  /-- A value that a settled step keeps, with the type at its place in the signature. -/
  | kept (step : Step) (settled : step ∈ done) (signature : Signature)
      (parse : Signature.parse (some step.call.signature) = .ok signature) (k : Nat)
      (output type : String) (named : step.outputs[k]? = some output)
      (typed : signature.returns[k]? = some type) (filled : Text.trim output ≠ "")
      (isLocal : ValueType.IsLocal (ValueType.declared type)) :
      MayBind all done ⟨Text.trim output, "", ValueType.declared type⟩

/-- A numbered list holds its members under their numbers. -/
theorem getElem?_of_mem_zipIdx_one {xs : List String} {x : String} {n : Nat}
    (h : (x, n) ∈ xs.zipIdx 1) : ∃ i, n = i + 1 ∧ xs[i]? = some x := by
  obtain ⟨hpos, hplace⟩ := List.mk_mem_zipIdx_iff_le_and_getElem?_sub.mp h
  exact ⟨n - 1, by omega, hplace⟩

/-- **Before the calls, the targets and the callers are bound.** -/
theorem mayBind_of_mem_readyScope {steps done : List Step} {b : Binding}
    (h : b ∈ (readyScope steps {}).bindings) : MayBind steps done b := by
  rcases Scope.mem_bindings_defineAll h with h | h
  · cases h
  · rw [generatedBindings_ofSteps, List.mem_append] at h
    rcases h with h | h
    · obtain ⟨⟨address, n⟩, hmem, rfl⟩ := List.mem_map.mp h
      obtain ⟨i, rfl, htarget⟩ := getElem?_of_mem_zipIdx_one hmem
      exact .contract i address htarget
    · obtain ⟨⟨address, n⟩, hmem, rfl⟩ := List.mem_map.mp h
      obtain ⟨i, rfl, hcaller⟩ := getElem?_of_mem_zipIdx_one hmem
      exact .account i address hcaller

/-- **A settled call binds variables for the values that its step keeps.** -/
theorem mayBind_of_mem_captures {all done : List Step} {scope : Scope} {step : Step}
    {target : String} {c : CallStatement} (hdone : step ∈ done)
    (hc : CallStatement.ofStep scope step target = .ok c) {b : Binding} (hb : b ∈ c.captures) :
    MayBind all done b := by
  obtain ⟨ha, signature, hparse, rfl⟩ := CallStatement.ofStep_eq_ok_iff.mp hc
  rw [CallStatement.captures_settled scope target (ha.length_outputs_le hparse)] at hb
  -- the variable belongs to a place, where there is a name and a type
  obtain ⟨k, -, hvariable⟩ := List.mem_filterMap.mp hb
  unfold CallStatement.variableAt at hvariable
  split at hvariable
  · cases hvariable
  · rename_i hname
    obtain ⟨type, htype, rfl⟩ := Option.map_eq_some_iff.mp hvariable
    cases houtput : step.outputs[k]? with
    | none => simp [CallStatement.keptName, houtput] at hname
    | some output =>
      have hkept : CallStatement.keptName step.outputs k = Text.trim output := by
        rw [CallStatement.keptName, houtput]
        rfl
      have hknown := Signature.isKnown_of_mem_returns hparse (List.mem_of_getElem? htype)
      rw [hkept] at hname ⊢
      exact .kept step hdone signature hparse k output type houtput htype hname
        (ValueType.isLocal_declared hknown)

/-- **What a run leaves**: what was bound before it, and variables for the values its steps keep. -/
theorem Calls.mayBind {all steps done : List Step} {scope left : Scope} {cs : List CallStatement}
    (h : Calls (AddressBook.ofSteps all) scope steps cs left) (hsub : ∀ step ∈ steps, step ∈ all)
    (hdone : ∀ step ∈ steps, step ∈ done) (hscope : ∀ b ∈ scope.bindings, MayBind all done b) :
    ∀ b ∈ left.bindings, MayBind all done b := by
  induction h with
  | nil => exact hscope
  | @cons scope left step steps c cs head tail ih =>
    rw [callOf_ofSteps (hsub step (by simp))] at head
    refine ih (fun s hs => hsub s (List.mem_cons_of_mem _ hs))
      (fun s hs => hdone s (List.mem_cons_of_mem _ hs)) fun b hb => ?_
    rcases Scope.mem_bindings_defineAll hb with hb | hb
    · exact hscope b hb
    · exact mayBind_of_mem_captures (hdone step (by simp)) head hb

/-- **What a sequence leaves, with or without a test.** The steps before the first one that fails,
or all of them, are settled. Every binding of the scope is then a target under its number, a caller
under its number, or a variable without a value that a settled step keeps a returned value in; its
type can be that of a local declaration. The declared names are the generated ones and those that
the settled steps keep values under. -/
theorem compile_bindings (template : Template) (funding : Funding) (steps : List Step) :
    ∃ done after, steps = done ++ after ∧
      (∀ k step, done[k]? = some step → Acceptable (namesBefore steps k) step) ∧
      ((after = [] ∧ ∃ source, (compile template funding steps {}).result = .ok source) ∨
        ∃ step rest e, after = step :: rest ∧ FailsWith (namesBefore steps done.length) step e ∧
          (compile template funding steps {}).result = .error e) ∧
      (∀ b ∈ (compile template funding steps {}).state.scope.bindings, MayBind steps done b) ∧
      ∀ name, name ∈ (compile template funding steps {}).state.scope.names ↔
        name ∈ generatedNames steps ∨ name ∈ keptNamesOf done := by
  have hleft : ∀ {done : List Step} {cs : List CallStatement} {left : Scope},
      Calls (AddressBook.ofSteps steps) (readyScope steps {}) done cs left →
        (∀ step ∈ done, step ∈ steps) → (∀ b ∈ left.bindings, MayBind steps done b) ∧
          ∀ name, name ∈ left.names ↔ name ∈ generatedNames steps ∨ name ∈ keptNamesOf done := by
    intro done cs left hcalls hsub
    refine ⟨hcalls.mayBind hsub (fun _ => id) fun b => mayBind_of_mem_readyScope, fun name => ?_⟩
    rw [hcalls.mem_names hsub, mem_names_readyScope]
    simp [Scope.names]
  rcases compile_cases template funding steps {} with
    ⟨cs, left, hcalls⟩ | ⟨done, step, after, cs, left, e, hsteps, hcalls, he, hof⟩
  · refine ⟨steps, [], (List.append_nil _).symm,
      fun k step => acceptable_of_calls (List.append_nil _).symm hcalls, .inl ⟨rfl, ?_⟩, ?_⟩
    · rw [compile_of_calls template funding hcalls]
      exact ⟨_, rfl⟩
    · rw [compile_of_calls template funding hcalls]
      exact hleft hcalls fun _ => id
  · refine ⟨done, step :: after, hsteps, fun k earlier => acceptable_of_calls hsteps hcalls,
      .inr ⟨step, after, e, rfl, (callOf_eq_error_iff hsteps hcalls).mp he, ?_⟩, ?_⟩
    · rw [hof]
    · rw [hof]
      exact hleft hcalls fun s hs => by simp [hsteps, hs]

/-- The first call keeps a text and the value behind it, under the name of the account; the second
one fails. -/
example :
    (compile {} {}
      [{ call := ⟨"0xA", "0xF", "function f() external returns (string, uint96, uint)", none, none⟩,
         outputs := [" note ", "account1"] },
       { call := ⟨"0xB", "0xF", "function g(uint256) external returns (bool)", none, none⟩,
         inputs := [.captured "x"], outputs := ["ok"] }] {}).state.scope.bindings =
      [⟨"contract1", "0xF", "contract"⟩, ⟨"account1", "", "uint256"⟩,
        ⟨"account2", "0xB", "address"⟩, ⟨"note", "", "string memory"⟩] := by
  decide +kernel

end ExploitReplay
