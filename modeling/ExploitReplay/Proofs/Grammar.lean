import ExploitReplay.Proofs.Rejection

/-!
# The grammar of exploit documents

A document is accepted just if it has the form that is described here. If some step does not have its
form, then the first one that has not is to blame, and in it the first part that is looked at and is
not as expected: the step with its lists of mappings, its call, or one of its arguments.

## Main definitions

* `IsInput v`, `IsCall v`, `IsStep v`: the forms of an argument, a call and a step
* `IsGrant v`, `IsSettings v`: the forms of a token grant and of settings
* `IsDocument v`: the form of a document
* `StepFault i step path`: the first part of step `i` that is not as expected has the path

## Main results

* `inputOf_isOk_iff`, `callOf_isOk_iff`, `stepOf_isOk_iff`, `fundingOf_isOk_iff`: each part is
  accepted just if it has its form
* `stepFault_of_stepOf`: what a rejected step is blamed for
* `ofJson_grammar`: a document is accepted just if it has its form, and the first step that has not
  is to blame
-/

namespace ExploitReplay.Exploit

open Rejection (position)

/-! ### Forms -/

/-- The value is made of the members; a vacant value has none. -/
inductive MadeOf {α : Type} (make : List α → Json) : Json → List α → Prop
  | filled (members : List α) : MadeOf make (make members) members
  | vacant {v : Json} (empty : v.isVacant = true) : MadeOf make v []

/-- The value is a list of the members; a vacant value has none. -/
abbrev ListsAs : Json → List Json → Prop :=
  MadeOf Json.list

/-- The value is an object of the fields; a vacant value has none. -/
abbrev HoldsFields : Json → Fields → Prop :=
  MadeOf Json.object

/-- An argument: an object that is of one of the two kinds. -/
def IsInput (v : Json) : Prop :=
  ∃ fields, v = .object fields ∧
    (either fields "type" "kind" = .text "concrete" ∨
      either fields "type" "kind" = .text "stateMapping")

/-- A call: an object with a target and a signature, which may be fields of the contract. -/
inductive IsCall : Json → Prop
  | flat {fields : Fields} (contract : Json.hasField fields "contract" = false)
      (info : Json.hasField fields "callInfo" = false)
      (target : (fieldOrNull fields "target_address").isVacant = false)
      (signature : (fieldOrNull fields "signature").isVacant = false) : IsCall (.object fields)
  | nested {fields info contract : Fields}
      (apart : Json.hasField fields "contract" = true ∨ Json.hasField fields "callInfo" = true)
      (hinfo : HoldsFields (fieldOrNull fields "callInfo") info)
      (hcontract : HoldsFields (fieldOrNull fields "contract") contract)
      (target : (fieldOrNull contract "address").isVacant = false)
      (signature : (fieldOrNull contract "functionString").isVacant = false) :
      IsCall (.object fields)

/-- The parts of a step: its call, and the members of its two lists of mappings. -/
inductive HasParts : Json → Json → List Json → List Json → Prop
  | step {fields : Fields} {call : Json} {inputs outputs : List Json}
      (hcall : Json.field? fields "call" = some call)
      (hinputs : ListsAs (either fields "inputMappings" "input_mappings") inputs)
      (houtputs : ListsAs (either fields "outputMappings" "output_mappings") outputs) :
      HasParts (.object fields) call inputs outputs

/-- A step: an object with a call, arguments, and a list of what is kept. -/
def IsStep (v : Json) : Prop :=
  ∃ call inputs outputs, HasParts v call inputs outputs ∧ IsCall call ∧ ∀ m ∈ inputs, IsInput m

/-- A token grant: an object with an account, an address and an amount. -/
def IsGrant (v : Json) : Prop :=
  ∃ fields, v = .object fields ∧ Json.hasField fields "account" = true ∧
    Json.hasField fields "address" = true ∧ Json.hasField fields "amount" = true

/-- Settings: a vacant value, or an object with a list of token grants. -/
inductive IsSettings : Json → Prop
  | vacant {v : Json} (empty : v.isVacant = true) : IsSettings v
  | object {fields : Fields} {grants : List Json}
      (hgrants : ListsAs (either fields "tokensToCaller" "tokens_to_caller") grants)
      (each : ∀ g ∈ grants, IsGrant g) : IsSettings (.object fields)

/-- A document: a list of steps, or an object with such a list and with settings. -/
def IsDocument (v : Json) : Prop :=
  ∃ items settings, partsOf? v = some (items, settings) ∧ (∀ step ∈ items, IsStep step) ∧
    IsSettings settings

/-! ### Vacant values -/

/-- A reader that takes a made value apart, and gives nothing for a vacant one, gives the members. -/
theorem eq_some_iff_madeOf {α : Type} {make : List α → Json} {read : Json → Option (List α)}
    (hmade : ∀ members, read (make members) = some members)
    (hvacant : ∀ members, (make members).isVacant = members.isEmpty)
    (hother : ∀ v, (∀ members, v ≠ make members) →
      read v = if v.isVacant then some [] else none) {v : Json} {members : List α} :
    read v = some members ↔ MadeOf make v members := by
  by_cases hform : ∃ others, v = make others
  · obtain ⟨others, rfl⟩ := hform
    rw [hmade]
    constructor
    · intro h
      obtain rfl := Option.some.inj h
      exact .filled others
    · generalize hv : make others = v
      intro h
      cases h with
      | filled => rw [← hmade, hv, hmade]
      | vacant empty =>
        rw [← hv, hvacant] at empty
        rw [List.isEmpty_iff.mp empty]
  · have hne : ∀ others, v ≠ make others := fun others h => hform ⟨others, h⟩
    rw [hother v hne]
    constructor
    · intro h
      split at h
      · obtain rfl := Option.some.inj h
        exact .vacant (by assumption)
      · cases h
    · intro h
      cases h with
      | filled => exact absurd rfl (hne members)
      | vacant empty => rw [if_pos empty]

theorem listOrEmpty?_eq_some_iff {v : Json} {items : List Json} :
    listOrEmpty? v = some items ↔ ListsAs v items := by
  refine eq_some_iff_madeOf (fun _ => rfl) (fun _ => rfl) ?_
  intro v hne
  cases v with
  | list items => exact absurd rfl (hne items)
  | _ => rfl

theorem objectOrEmpty?_eq_some_iff {v : Json} {fields : Fields} :
    objectOrEmpty? v = some fields ↔ HoldsFields v fields := by
  refine eq_some_iff_madeOf (fun _ => rfl) (fun _ => rfl) ?_
  intro v hne
  cases v with
  | object fields => exact absurd rfl (hne fields)
  | _ => rfl

/-! ### Calls and arguments -/

/-- An argument is accepted just if it has its form. -/
theorem inputOf_isOk_iff (i j : Nat) (v : Json) : (∃ a, inputOf i j v = .ok a) ↔ IsInput v := by
  cases v with
  | object fields =>
    constructor
    · rintro ⟨a, ha⟩
      refine ⟨fields, rfl, ?_⟩
      simp only [inputOf] at ha
      split at ha
      · rename_i hargument
        unfold argumentOf? at hargument
        split at hargument
        · exact .inl (by assumption)
        · exact .inr (by assumption)
        · cases hargument
      · cases ha
    · rintro ⟨fields', hfields, hkind⟩
      obtain rfl := Json.object.inj hfields
      let text := ((Json.field? fields "value").getD (.text "")).display
      rcases hkind with hkind | hkind
      · exact ⟨.literal text, by simp only [inputOf, hkind, argumentOf?, text]⟩
      · exact ⟨.captured text, by simp only [inputOf, hkind, argumentOf?, text]⟩
  | _ =>
    constructor
    · rintro ⟨a, ha⟩
      cases ha
    · rintro ⟨fields, hfields, -⟩
      cases hfields

theorem check_isOk_iff (raw : RawCall) (i : Nat) :
    (∃ c, raw.check i = .ok c) ↔
      raw.target.isVacant = false ∧ raw.signature.isVacant = false := by
  unfold RawCall.check
  cases htarget : raw.target.isVacant <;> cases hsignature : raw.signature.isVacant <;> simp

/-- A call is accepted just if it has its form. -/
theorem callOf_isOk_iff (i : Nat) (v : Json) : (∃ c, callOf i v = .ok c) ↔ IsCall v := by
  constructor
  · rintro ⟨c, hc⟩
    cases v with
    | object fields =>
      obtain ⟨raw, hraw, hcheck⟩ := bind_eq_ok_iff.mp hc
      obtain ⟨htarget, hsignature⟩ := (check_isOk_iff raw i).mp ⟨c, hcheck⟩
      unfold rawCall at hraw
      split at hraw
      · rename_i hapart
        split at hraw
        · rename_i info contract hinfo hcontract
          obtain rfl := Except.ok.inj hraw
          exact .nested (by simpa using hapart) (objectOrEmpty?_eq_some_iff.mp hinfo)
            (objectOrEmpty?_eq_some_iff.mp hcontract) htarget hsignature
        · cases hraw
      · rename_i hflat
        obtain rfl := Except.ok.inj hraw
        simp only [Bool.or_eq_true, not_or, Bool.not_eq_true] at hflat
        exact .flat hflat.1 hflat.2 htarget hsignature
    | _ => cases hc
  · intro h
    cases h with
    | flat hcontract hinfo target signature =>
      obtain ⟨c, hc⟩ := (check_isOk_iff (flatCall _) i).mpr ⟨target, signature⟩
      refine ⟨c, bind_eq_ok_iff.mpr ⟨_, ?_, hc⟩⟩
      simp [rawCall, hcontract, hinfo]
    | @nested fields info contract apart hinfo hcontract target signature =>
      obtain ⟨c, hc⟩ := (check_isOk_iff (nestedCall info contract) i).mpr ⟨target, signature⟩
      refine ⟨c, bind_eq_ok_iff.mpr ⟨_, ?_, hc⟩⟩
      simp [rawCall, apart, objectOrEmpty?_eq_some_iff.mpr hinfo,
        objectOrEmpty?_eq_some_iff.mpr hcontract]

/-! ### Steps -/

theorem HasParts.unique {v call call' : Json} {inputs inputs' outputs outputs' : List Json}
    (h : HasParts v call inputs outputs) (h' : HasParts v call' inputs' outputs') :
    call = call' ∧ inputs = inputs' := by
  cases h with
  | step hcall hinputs houtputs =>
    cases h' with
    | step hcall' hinputs' houtputs' =>
      have hcalls := hcall.symm.trans hcall'
      have hlists := (listOrEmpty?_eq_some_iff.mpr hinputs).symm.trans
        (listOrEmpty?_eq_some_iff.mpr hinputs')
      exact ⟨Option.some.inj hcalls, Option.some.inj hlists⟩

/-- **A step with all its parts** is looked at call first, and then its arguments in order. -/
theorem stepOf_of_hasParts {v call : Json} {inputs outputs : List Json}
    (h : HasParts v call inputs outputs) (i : Nat) :
    stepOf i v = (callOf i call).bind fun c =>
      (eachFrom (inputOf i) 0 inputs).map fun as => ⟨c, as, outputs.map outputOf⟩ := by
  cases h with
  | step hcall hinputs houtputs =>
    simp only [stepOf, hcall, listOrEmpty?_eq_some_iff.mpr hinputs,
      listOrEmpty?_eq_some_iff.mpr houtputs, inputsOf_eq_eachFrom]

/-- A step without all its parts is blamed itself. -/
theorem stepOf_of_not_hasParts {v : Json}
    (h : ∀ call inputs outputs, ¬HasParts v call inputs outputs) (i : Nat) :
    ∃ problem, stepOf i v = .error (.malformed (.step i) problem) := by
  unfold stepOf
  split
  · split
    · exact ⟨_, rfl⟩
    · rename_i fields call hcall
      split
      · rename_i inputs outputs hinputs houtputs
        exact absurd (.step hcall (listOrEmpty?_eq_some_iff.mp hinputs)
          (listOrEmpty?_eq_some_iff.mp houtputs)) (h call inputs outputs)
      · exact ⟨_, rfl⟩
  · exact ⟨_, rfl⟩

/-- A step is accepted just if it has its form. -/
theorem stepOf_isOk_iff (i : Nat) (v : Json) : (∃ s, stepOf i v = .ok s) ↔ IsStep v := by
  constructor
  · rintro ⟨s, hs⟩
    by_cases hparts : ∃ call inputs outputs, HasParts v call inputs outputs
    · obtain ⟨call, inputs, outputs, hparts⟩ := hparts
      rw [stepOf_of_hasParts hparts] at hs
      obtain ⟨c, hc, hinputs⟩ := bind_eq_ok_iff.mp hs
      obtain ⟨as, has, -⟩ := map_eq_ok_iff.mp hinputs
      exact ⟨call, inputs, outputs, hparts, (callOf_isOk_iff i call).mp ⟨c, hc⟩,
        (eachFrom_isOk_iff (inputOf_isOk_iff i) 0 inputs).mp ⟨as, has⟩⟩
    · obtain ⟨problem, herror⟩ := stepOf_of_not_hasParts
        (fun call inputs outputs h => hparts ⟨call, inputs, outputs, h⟩) i
      rw [herror] at hs
      cases hs
  · rintro ⟨call, inputs, outputs, hparts, hcall, hinputs⟩
    obtain ⟨c, hc⟩ := (callOf_isOk_iff i call).mpr hcall
    obtain ⟨as, has⟩ := (eachFrom_isOk_iff (inputOf_isOk_iff i) 0 inputs).mpr hinputs
    rw [stepOf_of_hasParts hparts]
    exact ⟨_, bind_eq_ok_iff.mpr ⟨c, hc, map_eq_ok_iff.mpr ⟨as, has, rfl⟩⟩⟩

/-! ### What is blamed -/

/-- The first part of step `i` that is looked at and is not as expected has the path: the step with
its lists of mappings, its call, or an argument. -/
inductive StepFault (i : Nat) (step : Json) : String → Prop
  | step (h : ∀ call inputs outputs, ¬HasParts step call inputs outputs) :
      StepFault i step ("sequence" ++ position i)
  | call {call : Json} {inputs outputs : List Json} (parts : HasParts step call inputs outputs)
      (h : ¬IsCall call) : StepFault i step ("sequence" ++ position i ++ ".call")
  | input {call m : Json} {before after outputs : List Json}
      (parts : HasParts step call (before ++ m :: after) outputs) (hcall : IsCall call)
      (accepted : ∀ b ∈ before, IsInput b) (h : ¬IsInput m) :
      StepFault i step
        ("sequence" ++ position i ++ ".inputMappings" ++ position before.length)

theorem sealedStep_of_hasParts {v call : Json} {inputs outputs : List Json}
    (h : HasParts v call inputs outputs) (hsealed : SealedCall call) : SealedStep v := by
  cases h with
  | step hcall hinputs houtputs =>
    refine ⟨call, hcall, ?_, ?_, hsealed⟩
    · rw [listOrEmpty?_eq_some_iff.mpr hinputs]
      rfl
    · rw [listOrEmpty?_eq_some_iff.mpr houtputs]
      rfl

/-- **What a rejected step is blamed for**: the first part that is looked at and is not as expected,
unless that is a part of the call that cannot be looked into. -/
theorem stepFault_of_stepOf {i : Nat} {v : Json} {cause : Rejection}
    (h : stepOf i v = .error cause) :
    cause = .partNotAnObject ∧ SealedStep v ∨
      ∃ place problem path, cause = .malformed place problem ∧ place.path = some path ∧
        StepFault i v path := by
  by_cases hparts : ∃ call inputs outputs, HasParts v call inputs outputs
  · obtain ⟨call, inputs, outputs, hparts⟩ := hparts
    rw [stepOf_of_hasParts hparts] at h
    rcases bind_eq_error_iff.mp h with hcall | ⟨c, hc, hinputs⟩
    · rcases callOf_cases hcall with ⟨problem, rfl⟩ | ⟨hsealed, rfl⟩
      · refine .inr ⟨_, problem, _, rfl, rfl, .call hparts ?_⟩
        intro hform
        obtain ⟨c, hc⟩ := (callOf_isOk_iff i call).mpr hform
        rw [hc] at hcall
        cases hcall
      · exact .inl ⟨rfl, sealedStep_of_hasParts hparts hsealed⟩
    · -- the call is accepted, and so are the arguments before the one that is rejected
      have hform := (callOf_isOk_iff i call).mp ⟨c, hc⟩
      obtain ⟨before, m, after, as, rfl, has, hm⟩ :=
        eachFrom_eq_error_iff.mp (map_eq_error_iff.mp hinputs)
      have hbefore := (eachFrom_isOk_iff (inputOf_isOk_iff i) 0 before).mp ⟨as, has⟩
      rw [Nat.zero_add] at hm
      obtain ⟨problem, rfl⟩ := place_of_inputOf hm
      refine .inr ⟨_, problem, _, rfl, rfl, .input hparts hform hbefore ?_⟩
      intro hinput
      obtain ⟨a, ha⟩ := (inputOf_isOk_iff i before.length m).mpr hinput
      rw [ha] at hm
      cases hm
  · have hnone : ∀ call inputs outputs, ¬HasParts v call inputs outputs :=
      fun call inputs outputs h => hparts ⟨call, inputs, outputs, h⟩
    obtain ⟨problem, herror⟩ := stepOf_of_not_hasParts hnone i
    rw [herror] at h
    obtain rfl := Except.error.inj h
    exact .inr ⟨_, problem, _, rfl, rfl, .step hnone⟩

/-! ### Settings -/

/-- A value offers the members of a list to go through, or a text first, which is no grant. -/
theorem grantItems?_cases {v : Json} {items : List Json} (h : grantItems? v = some items) :
    ListsAs v items ∨ ∃ s rest, items = .text s :: rest := by
  unfold grantItems? at h
  split at h
  · obtain rfl := Option.some.inj h
    exact .inl (.filled _)
  · rename_i fields
    obtain rfl := Option.some.inj h
    cases fields with
    | nil => exact .inl (.vacant rfl)
    | cons field rest => exact .inr ⟨_, _, rfl⟩
  · rename_i s
    obtain rfl := Option.some.inj h
    cases hs : s.toList with
    | nil => exact .inl (.vacant (by simpa using hs))
    | cons c cs => exact .inr ⟨_, _, rfl⟩
  · split at h
    · obtain rfl := Option.some.inj h
      exact .inl (.vacant (by assumption))
    · cases h

theorem grantItems?_of_listsAs {v : Json} {items : List Json} (h : ListsAs v items) :
    grantItems? v = some items := by
  cases h with
  | filled => rfl
  | vacant empty =>
    unfold grantItems?
    split
    · rename_i items
      rw [List.isEmpty_iff.mp empty]
    · rename_i fields
      rw [List.isEmpty_iff.mp empty]
      rfl
    · rename_i s
      obtain rfl : s = "" := by simpa using empty
      rfl
    · rw [if_pos empty]

theorem grantOf_isOk_iff (i : Nat) (v : Json) : (∃ g, grantOf i v = .ok g) ↔ IsGrant v := by
  cases v with
  | object fields =>
    have hforms : IsGrant (.object fields) ↔ (Json.field? fields "account").isSome ∧
        (Json.field? fields "address").isSome ∧ (Json.field? fields "amount").isSome := by
      simp [IsGrant, Json.hasField]
    rw [hforms, grantOf]
    cases Json.field? fields "account" <;> cases Json.field? fields "address" <;>
      cases Json.field? fields "amount" <;> simp
  | _ => simp [grantOf, IsGrant]

/-- Vacant settings fund nothing. -/
theorem fundingOf_of_isVacant {v : Json} (h : v.isVacant = true) : fundingOf v = .ok {} := by
  unfold fundingOf
  split
  · rename_i fields
    obtain rfl := List.isEmpty_iff.mp h
    rfl
  · rw [if_pos h]

/-- Settings are accepted just if they have their form. -/
theorem fundingOf_isOk_iff (v : Json) : (∃ f, fundingOf v = .ok f) ↔ IsSettings v := by
  constructor
  · rintro ⟨f, hf⟩
    unfold fundingOf at hf
    split at hf
    · rename_i fields
      unfold fundingOfFields at hf
      split at hf
      · cases hf
      · rename_i items hitems
        -- keys and characters are no grants, so nothing but a list is accepted
        obtain ⟨grants, hgrants, -⟩ := map_eq_ok_iff.mp hf
        rw [grantsOf_eq_eachFrom] at hgrants
        have heach := (eachFrom_isOk_iff grantOf_isOk_iff 0 items).mp ⟨grants, hgrants⟩
        rcases grantItems?_cases hitems with hlist | ⟨s, rest, rfl⟩
        · exact .object hlist heach
        · obtain ⟨fields, hfields, -⟩ := heach (.text s) (by simp)
          cases hfields
    · split at hf
      · exact .vacant (by assumption)
      · cases hf
  · intro h
    cases h with
    | vacant empty => exact ⟨_, fundingOf_of_isVacant empty⟩
    | object hgrants each =>
      obtain ⟨grants, hread⟩ := (eachFrom_isOk_iff grantOf_isOk_iff 0 _).mpr each
      rw [← grantsOf_eq_eachFrom] at hread
      simp only [fundingOf, fundingOfFields, grantItems?_of_listsAs hgrants]
      exact ⟨_, map_eq_ok_iff.mpr ⟨grants, hread, rfl⟩⟩

/-! ### Documents -/

theorem stepsOf_isOk_iff (items : List Json) :
    (∃ steps, stepsOf 0 items = .ok steps) ↔ ∀ step ∈ items, IsStep step := by
  rw [stepsOf_eq_eachFrom]
  exact eachFrom_isOk_iff stepOf_isOk_iff 0 items

theorem ofParts_isOk_iff (items : List Json) (settings : Json) :
    (∃ e, ofParts (.list items) settings = .ok e) ↔
      (∀ step ∈ items, IsStep step) ∧ IsSettings settings := by
  rw [← stepsOf_isOk_iff, ← fundingOf_isOk_iff]
  constructor
  · rintro ⟨e, he⟩
    obtain ⟨steps, hsteps, hfunding⟩ := bind_eq_ok_iff.mp he
    obtain ⟨funding, hfunding, -⟩ := map_eq_ok_iff.mp hfunding
    exact ⟨⟨steps, hsteps⟩, funding, hfunding⟩
  · rintro ⟨⟨steps, hsteps⟩, funding, hfunding⟩
    exact ⟨_, bind_eq_ok_iff.mpr ⟨steps, hsteps, map_eq_ok_iff.mpr ⟨funding, hfunding, rfl⟩⟩⟩

/-- A document is accepted just if it has its form. -/
theorem ofJson_isOk_iff (v : Json) : (∃ e, ofJson v = .ok e) ↔ IsDocument v := by
  rcases ofJson_eq v with ⟨items, settings, hparts, hof⟩ | ⟨hnone, cause, -, herror⟩
  · rw [hof, ofParts_isOk_iff]
    constructor
    · intro h
      exact ⟨items, settings, hparts, h⟩
    · rintro ⟨items', settings', hparts', h⟩
      obtain ⟨rfl, rfl⟩ := Prod.mk.inj (Option.some.inj (hparts.symm.trans hparts'))
      exact h
  · constructor
    · rintro ⟨e, he⟩
      rw [herror] at he
      cases he
    · rintro ⟨items, settings, hparts, -⟩
      rw [hnone] at hparts
      cases hparts

/-- **A document is accepted just if it has its form, and the first step that has not is to blame.**
A document with some step that has not its form is rejected like the first such step. Unless the call
of that step has a part that is filled in but cannot be looked into, the rejection has the path of
the first part of the step that is not as expected: the step itself with its lists of mappings, then
its call, then its arguments in order. -/
theorem ofJson_grammar (v : Json) :
    ((∃ e, ofJson v = .ok e) ↔ IsDocument v) ∧
    ∀ items settings, partsOf? v = some (items, settings) → (∃ step ∈ items, ¬IsStep step) →
      ∃ (i : Nat) (step : Json) (cause : Rejection), items[i]? = some step ∧ ¬IsStep step ∧
        (∀ earlier ∈ items.take i, IsStep earlier) ∧
        ofJson v = .error cause ∧ stepOf i step = .error cause ∧
        (cause = .partNotAnObject ∧ SealedStep step ∨
          ∃ place problem path, cause = .malformed place problem ∧ place.path = some path ∧
            StepFault i step path) := by
  refine ⟨ofJson_isOk_iff v, ?_⟩
  rintro items settings hparts ⟨faulty, hmem, hfaulty⟩
  cases hsteps : stepsOf 0 items with
  | ok steps => exact absurd ((stepsOf_isOk_iff items).mp ⟨steps, hsteps⟩ faulty hmem) hfaulty
  | error cause =>
    -- the steps before the one that is rejected are accepted, so they have their form
    obtain ⟨before, step, after, read, rfl, hread, hstep⟩ := stepsOf_eq_error_iff.mp hsteps
    rw [Nat.zero_add] at hstep
    have hform : ¬IsStep step := by
      intro hform
      obtain ⟨s, hs⟩ := (stepOf_isOk_iff before.length step).mpr hform
      rw [hs] at hstep
      cases hstep
    refine ⟨before.length, step, cause, ?_, hform, ?_, ?_, hstep, stepFault_of_stepOf hstep⟩
    · rw [List.getElem?_append_right (Nat.le_refl _), Nat.sub_self, List.getElem?_cons_zero]
    · rw [List.take_left]
      exact (stepsOf_isOk_iff before).mp ⟨read, hread⟩
    · rw [ofJson_eq_of_parts hparts]
      exact bind_eq_error_iff.mpr (.inl hsteps)

/-- Steps of which the second has an argument of no kind, and the third is none. -/
def unknownKind : List Json :=
  let call : Json := .object [("target_address", .text "0xA"), ("signature", .text "f(uint256)")]
  [.object [("call", call)],
   .object [("call", call), ("inputMappings", .list
     [.object [("type", .text "concrete"), ("value", .int 1)], .object [("type", .text "c")]])],
   .null]

theorem ofJson_grammar_unknownKind :
    ¬IsDocument (.list unknownKind) ∧ (∃ step ∈ unknownKind, ¬IsStep step) ∧
      ∃ i step, unknownKind[i]? = some step ∧
        StepFault i step "sequence[1].inputMappings[1]" := by
  have hrejected : ofJson (.list unknownKind) =
      .error (.malformed (.input 1 1) (.unknownInputKind (.text "c"))) := rfl
  obtain ⟨hform, hblame⟩ := ofJson_grammar (.list unknownKind)
  have hnull : ∃ step ∈ unknownKind, ¬IsStep step := by
    refine ⟨.null, by simp [unknownKind], ?_⟩
    rintro ⟨call, inputs, outputs, hparts, -⟩
    cases hparts
  obtain ⟨i, step, cause, hi, -, -, hof, -, hfault⟩ := hblame unknownKind .null rfl hnull
  obtain rfl := Except.error.inj (hrejected.symm.trans hof)
  refine ⟨?_, hnull, i, step, hi, ?_⟩
  · rw [← hform]
    rintro ⟨e, he⟩
    cases hrejected.symm.trans he
  · rcases hfault with ⟨hcause, -⟩ | ⟨place, problem, path, hcause, hpath, hfault⟩
    · cases hcause
    · obtain ⟨rfl, -⟩ := Rejection.malformed.inj hcause
      obtain rfl : "sequence[1].inputMappings[1]" = path := Option.some.inj hpath
      exact hfault

end ExploitReplay.Exploit
