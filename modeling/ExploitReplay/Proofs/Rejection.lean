import ExploitReplay.Proofs.Members

/-!
# Which documents are rejected, and how

A document is looked at from its first step to its last and then at its settings, up to the first
part that is not as expected. Nearly every such part is named with what is wrong about it. Two are
not: the caller and the contract of a call are looked into without a check that they are objects,
and the token grants are gone through without a check that they can be.

## Main definitions

* `Exploit.SealedStep step`: the call of the step has a part that is filled in, but no object
* `Exploit.SealedGrants settings`: the settings have token grants that are nothing to go through
* `Exploit.Stops document cause`: the document stops its reader in one of these ways

## Main results

* `stepsOf_eq_error_iff`: the steps are rejected for the first one that is
* `ofJson_cases`: a document is read, rejected with the part that is to blame, or stops its reader
* `ofJson_of_stops`: a document that stops its reader is not rejected in another way
-/

namespace ExploitReplay.Exploit

/-- The rejection names a part of the document and what is wrong about it. -/
def IsNamed (cause : Rejection) : Prop :=
  ∃ place problem, cause = .malformed place problem

/-! ### Parts that cannot be looked into -/

/-- The value is filled in, but is no object. -/
structure FilledNonObject (v : Json) : Prop where
  filled : v.isVacant = false
  shape : ∀ fields, v ≠ .object fields

/-- The value is filled in, but has neither members nor keys nor characters. -/
structure FilledNonIterable (v : Json) : Prop where
  filled : v.isVacant = false
  list : ∀ items, v ≠ .list items
  object : ∀ fields, v ≠ .object fields
  text : ∀ s, v ≠ .text s

theorem objectOrEmpty?_eq_none_iff {v : Json} : objectOrEmpty? v = none ↔ FilledNonObject v := by
  unfold objectOrEmpty?
  split
  · rename_i fields
    exact ⟨fun h => (by cases h), fun h => absurd rfl (h.shape fields)⟩
  · rename_i hobject
    constructor
    · intro h
      exact ⟨by simpa using h, hobject⟩
    · intro h
      simp [h.filled]

theorem grantItems?_eq_none_iff {v : Json} : grantItems? v = none ↔ FilledNonIterable v := by
  unfold grantItems?
  split
  · rename_i items
    exact ⟨fun h => (by cases h), fun h => absurd rfl (h.list items)⟩
  · rename_i fields
    exact ⟨fun h => (by cases h), fun h => absurd rfl (h.object fields)⟩
  · rename_i s
    exact ⟨fun h => (by cases h), fun h => absurd rfl (h.text s)⟩
  · rename_i hlist hobject htext
    constructor
    · intro h
      exact ⟨by simpa using h, hlist, hobject, htext⟩
    · intro h
      simp [h.filled]

/-- The caller and the contract of the call are given apart, and one of them is filled in, but no
object. -/
def SealedCall : Json → Prop
  | .object fields =>
    (Json.hasField fields "contract" || Json.hasField fields "callInfo") = true ∧
      (FilledNonObject (fieldOrNull fields "callInfo") ∨
        FilledNonObject (fieldOrNull fields "contract"))
  | _ => False

/-- The step has all that is looked at before its call, and its call has a part that is filled in,
but no object. -/
def SealedStep : Json → Prop
  | .object fields => ∃ call, Json.field? fields "call" = some call ∧
      (listOrEmpty? (either fields "inputMappings" "input_mappings")).isSome ∧
      (listOrEmpty? (either fields "outputMappings" "output_mappings")).isSome ∧ SealedCall call
  | _ => False

/-- The settings have token grants that are nothing to go through. -/
def SealedGrants : Json → Prop
  | .object fields => FilledNonIterable (either fields "tokensToCaller" "tokens_to_caller")
  | _ => False

/-- The steps and the settings of a document. -/
def partsOf? : Json → Option (List Json × Json)
  | .list items => some (items, .null)
  | .object fields =>
    match Json.field? fields "sequence" with
    | some (.list items) => some (items, fieldOrNull fields "settings")
    | _ => none
  | _ => none

/-- The document stops its reader: all that is looked at before is as expected, and then there is a
part that cannot be looked into. -/
inductive Stops (document : Json) : Rejection → Prop
  | part {before after : List Json} {step settings : Json} {read : List Step}
      (parts : partsOf? document = some (before ++ step :: after, settings))
      (accepted : stepsOf 0 before = .ok read) (sealed : SealedStep step) :
      Stops document .partNotAnObject
  | grants {items : List Json} {settings : Json} {read : List Step}
      (parts : partsOf? document = some (items, settings))
      (accepted : stepsOf 0 items = .ok read) (sealed : SealedGrants settings) :
      Stops document .grantsNotIterable

/-! ### Calls -/

theorem rawCall_eq_error_iff {fields : Fields} {cause : Rejection} :
    rawCall fields = .error cause ↔ SealedCall (.object fields) ∧ cause = .partNotAnObject := by
  rw [SealedCall, ← objectOrEmpty?_eq_none_iff, ← objectOrEmpty?_eq_none_iff, rawCall]
  by_cases hapart : (Json.hasField fields "contract" || Json.hasField fields "callInfo") = true
  · rw [if_pos hapart]
    cases objectOrEmpty? (fieldOrNull fields "callInfo") with
    | none => simp [hapart, eq_comm]
    | some info =>
      cases objectOrEmpty? (fieldOrNull fields "contract") with
      | none => simp [hapart, eq_comm]
      | some contract => simp
  · rw [if_neg hapart]
    simp [hapart]

theorem place_of_check {raw : RawCall} {i : Nat} {cause : Rejection}
    (h : raw.check i = .error cause) : ∃ problem, cause = .malformed (.call i) problem := by
  unfold RawCall.check at h
  split at h
  · exact ⟨_, (Except.error.inj h).symm⟩
  split at h
  · exact ⟨_, (Except.error.inj h).symm⟩
  · cases h

/-- A call that is rejected is blamed itself, or it has a part that cannot be looked into. -/
theorem callOf_cases {i : Nat} {v : Json} {cause : Rejection} (h : callOf i v = .error cause) :
    (∃ problem, cause = .malformed (.call i) problem) ∨
      SealedCall v ∧ cause = .partNotAnObject := by
  unfold callOf at h
  split at h
  · rcases bind_eq_error_iff.mp h with hraw | ⟨raw, -, hcheck⟩
    · exact .inr (rawCall_eq_error_iff.mp hraw)
    · exact .inl (place_of_check hcheck)
  · exact .inl ⟨_, (Except.error.inj h).symm⟩

theorem callOf_of_sealed {v : Json} (h : SealedCall v) (i : Nat) :
    callOf i v = .error .partNotAnObject := by
  cases v with
  | object fields => exact bind_eq_error_iff.mpr (.inl (rawCall_eq_error_iff.mpr ⟨h, rfl⟩))
  | _ => cases h

/-! ### Steps -/

theorem place_of_inputOf {i j : Nat} {v : Json} {cause : Rejection}
    (h : inputOf i j v = .error cause) : ∃ problem, cause = .malformed (.input i j) problem := by
  unfold inputOf at h
  split at h
  · dsimp only at h
    split at h
    · cases h
    · exact ⟨_, (Except.error.inj h).symm⟩
  · exact ⟨_, (Except.error.inj h).symm⟩

theorem isNamed_of_inputsOf {i j : Nat} {items : List Json} {cause : Rejection}
    (h : inputsOf i j items = .error cause) : IsNamed cause := by
  rw [inputsOf_eq_eachFrom] at h
  obtain ⟨before, v, after, as, -, -, hv⟩ := eachFrom_eq_error_iff.mp h
  exact ⟨_, place_of_inputOf hv⟩

/-- A step that is rejected is named, or its call has a part that cannot be looked into. -/
theorem stepOf_cases {i : Nat} {v : Json} {cause : Rejection} (h : stepOf i v = .error cause) :
    IsNamed cause ∨ SealedStep v ∧ cause = .partNotAnObject := by
  unfold stepOf at h
  split at h
  · rename_i fields
    split at h
    · exact .inl ⟨_, _, (Except.error.inj h).symm⟩
    rename_i call hcall
    split at h
    · rename_i inputs outputs hinputs houtputs
      rcases bind_eq_error_iff.mp h with hc | ⟨c, -, has⟩
      · rcases callOf_cases hc with hplace | ⟨hsealed, hcause⟩
        · exact .inl ⟨_, hplace⟩
        · exact .inr ⟨⟨call, hcall, by rw [hinputs]; rfl, by rw [houtputs]; rfl, hsealed⟩, hcause⟩
      · exact .inl (isNamed_of_inputsOf (map_eq_error_iff.mp has))
    · exact .inl ⟨_, _, (Except.error.inj h).symm⟩
  · exact .inl ⟨_, _, (Except.error.inj h).symm⟩

theorem stepOf_of_sealed {v : Json} (h : SealedStep v) (i : Nat) :
    stepOf i v = .error .partNotAnObject := by
  cases v with
  | object fields =>
    obtain ⟨call, hcall, hinputs, houtputs, hsealed⟩ := h
    obtain ⟨inputs, hinputs⟩ := Option.isSome_iff_exists.mp hinputs
    obtain ⟨outputs, houtputs⟩ := Option.isSome_iff_exists.mp houtputs
    simp only [stepOf, hcall, hinputs, houtputs]
    exact bind_eq_error_iff.mpr (.inl (callOf_of_sealed hsealed i))
  | _ => cases h

/-- **The steps are rejected for the first one that is.** -/
theorem stepsOf_eq_error_iff {i : Nat} {items : List Json} {cause : Rejection} :
    stepsOf i items = .error cause ↔ ∃ before step after read, items = before ++ step :: after ∧
      stepsOf i before = .ok read ∧ stepOf (i + before.length) step = .error cause := by
  simp only [stepsOf_eq_eachFrom]
  exact eachFrom_eq_error_iff

/-! ### Settings -/

theorem isNamed_of_grantOf {i : Nat} {v : Json} {cause : Rejection}
    (h : grantOf i v = .error cause) : IsNamed cause := by
  unfold grantOf at h
  split at h
  · split at h
    · cases h
    · exact ⟨_, _, (Except.error.inj h).symm⟩
  · exact ⟨_, _, (Except.error.inj h).symm⟩

theorem isNamed_of_grantsOf {i : Nat} {items : List Json} {cause : Rejection}
    (h : grantsOf i items = .error cause) : IsNamed cause := by
  rw [grantsOf_eq_eachFrom] at h
  obtain ⟨before, v, after, grants, -, -, hv⟩ := eachFrom_eq_error_iff.mp h
  exact isNamed_of_grantOf hv

/-- Settings that are rejected are named, or they have token grants that are nothing to go through.
-/
theorem fundingOf_cases {v : Json} {cause : Rejection} (h : fundingOf v = .error cause) :
    IsNamed cause ∨ SealedGrants v ∧ cause = .grantsNotIterable := by
  unfold fundingOf at h
  split at h
  · rename_i fields
    unfold fundingOfFields at h
    split at h
    · rename_i hnone
      exact .inr ⟨grantItems?_eq_none_iff.mp hnone, (Except.error.inj h).symm⟩
    · exact .inl (isNamed_of_grantsOf (map_eq_error_iff.mp h))
  · split at h
    · cases h
    · exact .inl ⟨_, _, (Except.error.inj h).symm⟩

theorem fundingOf_of_sealed {v : Json} (h : SealedGrants v) :
    fundingOf v = .error .grantsNotIterable := by
  cases v with
  | object fields => simp only [fundingOf, fundingOfFields, grantItems?_eq_none_iff.mpr h]
  | _ => cases h

/-! ### Documents -/

/-- A document of the expected form is its steps and its settings; any other one is named. -/
theorem ofJson_eq (document : Json) :
    (∃ items settings, partsOf? document = some (items, settings) ∧
        ofJson document = ofParts (.list items) settings) ∨
      partsOf? document = none ∧ ∃ cause, IsNamed cause ∧ ofJson document = .error cause := by
  cases document with
  | list items => exact .inl ⟨items, .null, rfl, rfl⟩
  | object fields =>
    cases hsteps : Json.field? fields "sequence" with
    | none =>
      refine .inr ⟨by simp only [partsOf?, hsteps], .malformed .document .noSequence,
        ⟨_, _, rfl⟩, ?_⟩
      simp only [ofJson, hsteps]
    | some steps =>
      have hof : ofJson (.object fields) = ofParts steps (fieldOrNull fields "settings") := by
        simp only [ofJson, hsteps]
      cases steps with
      | list items => exact .inl ⟨items, _, by simp only [partsOf?, hsteps], hof⟩
      | _ => exact .inr ⟨by simp only [partsOf?, hsteps], _, ⟨_, _, rfl⟩, hof⟩
  | _ => exact .inr ⟨rfl, _, ⟨_, _, rfl⟩, rfl⟩

theorem ofJson_eq_of_parts {document settings : Json} {items : List Json}
    (h : partsOf? document = some (items, settings)) :
    ofJson document = ofParts (.list items) settings := by
  rcases ofJson_eq document with ⟨items', settings', hparts, hof⟩ | ⟨hnone, -⟩
  · obtain ⟨rfl, rfl⟩ := Prod.mk.inj (Option.some.inj (h.symm.trans hparts))
    exact hof
  · rw [hnone] at h
    cases h

/-- **A document that stops its reader is not rejected in another way.** -/
theorem ofJson_of_stops {document : Json} {cause : Rejection} (h : Stops document cause) :
    ofJson document = .error cause := by
  cases h with
  | part parts accepted sealed =>
    rw [ofJson_eq_of_parts parts]
    refine bind_eq_error_iff.mpr (.inl (stepsOf_eq_error_iff.mpr ?_))
    exact ⟨_, _, _, _, rfl, accepted, stepOf_of_sealed sealed _⟩
  | grants parts accepted sealed =>
    rw [ofJson_eq_of_parts parts]
    refine bind_eq_error_iff.mpr (.inr ⟨_, accepted, ?_⟩)
    exact map_eq_error_iff.mpr (fundingOf_of_sealed sealed)

/-- **A document is read, rejected with the part that is to blame, or stops its reader.** -/
theorem ofJson_cases (document : Json) :
    (∃ e, ofJson document = .ok e) ∨ (∃ cause, IsNamed cause ∧ ofJson document = .error cause) ∨
      ∃ cause, Stops document cause ∧ ofJson document = .error cause := by
  rcases ofJson_eq document with ⟨items, settings, hparts, hof⟩ | ⟨-, hnamed⟩
  · cases hresult : ofParts (.list items) settings with
    | ok e => exact .inl ⟨e, hof.trans hresult⟩
    | error cause =>
      refine .inr ?_
      -- the steps are rejected, or they are not and the settings are
      rcases bind_eq_error_iff.mp hresult with hsteps | ⟨read, hread, hsettings⟩
      · obtain ⟨before, step, after, read, rfl, hread, hstep⟩ := stepsOf_eq_error_iff.mp hsteps
        rcases stepOf_cases hstep with hnamed | ⟨hsealed, rfl⟩
        · exact .inl ⟨cause, hnamed, hof.trans hresult⟩
        · exact .inr ⟨_, .part hparts hread hsealed, hof.trans hresult⟩
      · rcases fundingOf_cases (map_eq_error_iff.mp hsettings) with hnamed | ⟨hsealed, rfl⟩
        · exact .inl ⟨cause, hnamed, hof.trans hresult⟩
        · exact .inr ⟨_, .grants hparts hread hsealed, hof.trans hresult⟩
  · exact .inr (.inl hnamed)

end ExploitReplay.Exploit
