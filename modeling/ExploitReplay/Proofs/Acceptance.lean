import ExploitReplay.Proofs.Calls

/-!
# Which sequences have a test

A test is written of a sequence iff every step passes its checks with the names that are known when
it is called: the generated names of the whole sequence, and the names that the steps before it keep.
Otherwise the failure is that of the first step that does not pass, in its first check.

## Main definitions

* `namesBefore steps k`: the names that are known before the step at `k`

## Main results

* `compile_fresh_iff`: which sequences have a test, and the failure of the others
-/

namespace ExploitReplay

/-- The names that are known before the step at `k`: the generated names of the whole sequence, and
those that the steps before it keep. -/
def namesBefore (steps : List Step) (k : Nat) : List String :=
  generatedNames steps ++ keptNamesOf (steps.take k)

/-- After the steps before `k`, started from scratch, the names known before `k` are declared. -/
theorem mem_names_iff_mem_namesBefore {steps before after : List Step} {cs : List CallStatement}
    {mid : Scope} (hsteps : steps = before ++ after)
    (h : Calls (AddressBook.ofSteps steps) (readyScope steps {}) before cs mid) (name : String) :
    name ∈ mid.names ↔ name ∈ namesBefore steps before.length := by
  have hsub : ∀ s ∈ before, s ∈ steps := fun s hs => by simp [hsteps, hs]
  have htake : steps.take before.length = before := by simp [hsteps]
  rw [h.mem_names hsub, mem_names_readyScope, namesBefore, htake, List.mem_append]
  simp [Scope.names]

/-- Whether the step after a run is settled depends on the names known before it. -/
theorem callOf_eq_ok_iff {steps before after : List Step} {step : Step} {cs : List CallStatement}
    {mid : Scope} (hsteps : steps = before ++ step :: after)
    (h : Calls (AddressBook.ofSteps steps) (readyScope steps {}) before cs mid) :
    (∃ c, TestContract.callOf (AddressBook.ofSteps steps) mid step = .ok c) ↔
      Acceptable (namesBefore steps before.length) step := by
  have hnames := mem_names_iff_mem_namesBefore hsteps h
  rw [callOf_ofSteps (by simp [hsteps])]
  constructor
  · rintro ⟨c, hc⟩
    exact (CallStatement.ofStep_eq_ok_iff.mp hc).1.mono fun n hn => (hnames n).mp hn
  · intro ha
    have ha := ha.mono fun n hn => (hnames n).mpr hn
    obtain ⟨signature, hparse, -⟩ := ha.signature
    exact ⟨_, CallStatement.ofStep_eq_ok_iff.mpr ⟨ha, signature, hparse, rfl⟩⟩

theorem callOf_eq_error_iff {steps before after : List Step} {step : Step} {cs : List CallStatement}
    {mid : Scope} (hsteps : steps = before ++ step :: after)
    (h : Calls (AddressBook.ofSteps steps) (readyScope steps {}) before cs mid) {e : Failure} :
    TestContract.callOf (AddressBook.ofSteps steps) mid step = .error e ↔
      FailsWith (namesBefore steps before.length) step e := by
  have hnames := mem_names_iff_mem_namesBefore hsteps h
  rw [callOf_ofSteps (by simp [hsteps]), CallStatement.ofStep_eq_error_iff]
  exact ⟨fun hf => hf.congr hnames, fun hf => hf.congr fun n => (hnames n).symm⟩

/-- The steps that a run settles pass their checks. -/
theorem acceptable_of_calls {steps before after : List Step} {cs : List CallStatement}
    {left : Scope} (hsteps : steps = before ++ after)
    (h : Calls (AddressBook.ofSteps steps) (readyScope steps {}) before cs left) {k : Nat}
    {step : Step} (hk : before[k]? = some step) : Acceptable (namesBefore steps k) step := by
  have hbefore := eq_take_append_cons hk
  obtain ⟨cs₁, mid, c, cs₂, -, h₁, hc, -⟩ := Calls.at_step (hbefore ▸ h)
  have hsplit : steps = before.take k ++ step :: (before.drop (k + 1) ++ after) := by
    rw [hsteps, ← List.cons_append, ← List.append_assoc, ← hbefore]
  have ha := (callOf_eq_ok_iff hsplit h₁).mp ⟨c, hc⟩
  obtain ⟨hlt, -⟩ := List.getElem?_eq_some_iff.mp hk
  rwa [List.length_take_of_le (Nat.le_of_lt hlt)] at ha

/-- **Which sequences have a test.** Written from scratch, a sequence has a test iff every step passes
its checks with the names known before it. Otherwise it fails as the first step that does not pass,
in the first check of that step. There is no other failure; in particular every target is in the
address book. -/
theorem compile_fresh_iff (template : Template) (funding : Funding) (steps : List Step) :
    ((∃ source, (compile template funding steps {}).result = .ok source) ↔
      ∀ k step, steps[k]? = some step → Acceptable (namesBefore steps k) step) ∧
    ∀ e, (compile template funding steps {}).result = .error e ↔
      ∃ k step, steps[k]? = some step ∧
        (∀ j earlier, j < k → steps[j]? = some earlier →
          Acceptable (namesBefore steps j) earlier) ∧
        FailsWith (namesBefore steps k) step e := by
  rcases compile_cases template funding steps {} with
    ⟨cs, left, hcalls⟩ | ⟨before, step, after, cs, left, e, hsteps, hcalls, he, hof⟩
  · have hall : ∀ k step, steps[k]? = some step → Acceptable (namesBefore steps k) step :=
      fun k step hk => acceptable_of_calls (List.append_nil _).symm hcalls hk
    rw [compile_of_calls template funding hcalls]
    refine ⟨⟨fun _ => hall, fun _ => ⟨_, rfl⟩⟩, fun e => ⟨nofun, ?_⟩⟩
    rintro ⟨k, step, hk, -, hf⟩
    exact absurd (hall k step hk) hf.not_acceptable
  · have hstep : steps[before.length]? = some step := by simp [hsteps]
    have hf := (callOf_eq_error_iff hsteps hcalls).mp he
    have hbefore : ∀ j earlier, j < before.length → steps[j]? = some earlier →
        Acceptable (namesBefore steps j) earlier := by
      intro j earlier hj hearlier
      rw [hsteps, List.getElem?_append_left hj] at hearlier
      exact acceptable_of_calls hsteps hcalls hearlier
    rw [hof]
    refine ⟨⟨nofun, fun hall => absurd (hall _ _ hstep) hf.not_acceptable⟩, fun e' => ⟨?_, ?_⟩⟩
    · intro h
      obtain rfl := Except.error.inj h
      exact ⟨before.length, step, hstep, hbefore, hf⟩
    · -- of two steps that fail after acceptable ones, neither is before the other
      rintro ⟨k, step', hstep', hacceptable, hf'⟩
      rcases Nat.lt_trichotomy k before.length with hlt | rfl | hlt
      · exact absurd (hbefore k step' hlt hstep') hf'.not_acceptable
      · obtain rfl := Option.some.inj (hstep.symm.trans hstep')
        rw [hf.unique hf']
      · exact absurd (hacceptable before.length step hlt hstep) hf.not_acceptable

end ExploitReplay
