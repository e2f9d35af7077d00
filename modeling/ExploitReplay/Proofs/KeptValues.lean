import ExploitReplay.Proofs.CallStatement

/-!
# Kept values by their places

The names under which a step keeps returned values stand in the order of these values. So the value
at a place is kept under the name at that place, without the blanks around it, and is not kept if
there is no name or only a blank one. It is kept in a variable of the type at the same place,
however many names are given.

## Main definitions

* `CallStatement.keptName outputs k`: the name for the value at a place
* `CallStatement.variableAt signature outputs k`: the variable for the value at a place
* `CallStatement.variablesOf signature outputs`: the variables for all values, by their places

## Main results

* `slotsOf_eq_map_keptName`: the slots are the names at all places
* `capturesOf_slotsOf`: the declared variables are those at all places
-/

namespace ExploitReplay

/-- A step that passes its checks keeps no more values than its signature declares. -/
theorem Acceptable.length_outputs_le {known : List String} {step : Step} {signature : Signature}
    (h : Acceptable known step)
    (hparse : Signature.parse (some step.call.signature) = .ok signature) :
    step.outputs.length ≤ signature.arity := by
  obtain ⟨signature', hparse', hfew⟩ := h.signature
  obtain rfl := Except.ok.inj (hparse.symm.trans hparse')
  exact hfew

namespace CallStatement

/-- The name that the value at a place is kept under; the empty text if it is not kept. -/
def keptName (outputs : List String) (k : Nat) : String :=
  (outputs[k]?.map Text.trim).getD ""

/-- The variable that keeps the value at a place, if it is kept. -/
def variableAt (signature : Signature) (outputs : List String) (k : Nat) : Option Binding :=
  if keptName outputs k = "" then none
  else signature.returns[k]?.map fun type => ⟨keptName outputs k, "", ValueType.declared type⟩

/-- The variables that keep returned values, in the order of their places. -/
def variablesOf (signature : Signature) (outputs : List String) : List Binding :=
  (List.range signature.arity).filterMap (variableAt signature outputs)

variable {signature : Signature} {outputs : List String}

theorem keptName_of_length_le {k : Nat} (h : outputs.length ≤ k) : keptName outputs k = "" := by
  simp [keptName, h]

/-- **The slots are the names at all places**, if there is a name at all. -/
theorem slotsOf_eq_map_keptName (hne : outputs ≠ []) (h : outputs.length ≤ signature.arity) :
    slotsOf signature outputs = (List.range signature.arity).map (keptName outputs) := by
  rw [slotsOf, if_neg hne]
  -- place by place: a name where one is given, and blanks behind the names
  apply List.ext_getElem?
  intro k
  rw [List.getElem?_append, List.length_map, List.getElem?_map, List.getElem?_map,
    List.getElem?_replicate]
  by_cases hk : k < outputs.length
  · have hrange : k < signature.arity := Nat.lt_of_lt_of_le hk h
    simp [keptName, hk, hrange]
  · have hblank : keptName outputs k = "" := keptName_of_length_le (Nat.le_of_not_lt hk)
    by_cases hrange : k < signature.arity
    · have hpadded : k - outputs.length < signature.arity - outputs.length := by omega
      simp [hk, hrange, hpadded, hblank]
    · have hpadded : ¬k - outputs.length < signature.arity - outputs.length := by omega
      simp [hk, hrange, hpadded]

/-- What is made of the members of two lists of one length is made of them place by place. -/
theorem filterMap_zip_map_range {α β γ : Type} (f : Nat → α) (g : α × β → Option γ) (ts : List β) :
    (((List.range ts.length).map f).zip ts).filterMap g =
      (List.range ts.length).filterMap fun k => ts[k]?.bind fun t => g (f k, t) := by
  induction ts generalizing f with
  | nil => rfl
  | cons t ts ih =>
    have htail := ih fun k => f (k + 1)
    rw [List.length_cons, List.range_succ_eq_map, List.map_cons, List.map_map, List.zip_cons_cons,
      List.filterMap_cons, List.filterMap_cons, List.filterMap_map]
    simp only [List.getElem?_cons_zero, Option.bind_some]
    change (match g (f 0, t) with
      | none => (((List.range ts.length).map fun k => f (k + 1)).zip ts).filterMap g
      | some b => b :: (((List.range ts.length).map fun k => f (k + 1)).zip ts).filterMap g) = _
    rw [htail]
    rfl

/-- **The declared variables are those at all places.** -/
theorem capturesOf_slotsOf (h : outputs.length ≤ signature.arity) :
    capturesOf (slotsOf signature outputs) signature.returns = variablesOf signature outputs := by
  by_cases hne : outputs = []
  · subst hne
    have hnone : ∀ k, variableAt signature [] k = none := fun _ => rfl
    simp [slotsOf, capturesOf, variablesOf, hnone]
  · rw [slotsOf_eq_map_keptName hne h, capturesOf, Signature.arity, filterMap_zip_map_range]
    refine List.filterMap_congr fun k _ => ?_
    unfold variableAt
    by_cases hname : keptName outputs k = "" <;> cases signature.returns[k]? <;> simp [hname]

/-- No variable is declared if no value is kept. -/
theorem variablesOf_eq_nil_iff (h : outputs.length ≤ signature.arity) :
    variablesOf signature outputs = [] ↔ ∀ k, keptName outputs k = "" := by
  rw [variablesOf, List.filterMap_eq_nil_iff]
  constructor
  · intro hnone k
    by_cases hk : k < outputs.length
    · have hrange : k < signature.returns.length := Nat.lt_of_lt_of_le hk h
      have hvariable := hnone k (List.mem_range.mpr hrange)
      unfold variableAt at hvariable
      by_contra hname
      simp [hname, hrange] at hvariable
    · exact keptName_of_length_le (Nat.le_of_not_lt hk)
  · intro hblank k _
    exact if_pos (hblank k)

/-- The variables of a settled statement. -/
theorem captures_settled (scope : Scope) {step : Step} (target : String)
    (h : step.outputs.length ≤ signature.arity) :
    (settled scope step target signature).captures = variablesOf signature step.outputs :=
  capturesOf_slotsOf h

end CallStatement

end ExploitReplay
