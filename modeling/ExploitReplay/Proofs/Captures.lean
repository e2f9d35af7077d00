import ExploitReplay.Proofs.Document
import ExploitReplay.Proofs.Signature.Recognition

/-!
# Where the returned values of a call are kept

A call that keeps returned values assigns them to slots. There is one slot for every value that is
read of the signature, and a name that is given for the value at a place is a variable of the type
that is read at that place. A value whose type is not understood has no slot: a name can be given
for as many values as are understood, and the slots are those of the values that are.

## Main definitions

* `CallStatement.Assigns c names types`: the statement keeps values of the given types under names

## Main results

* `mem_capturesOf`: a variable is declared for every slot that has a name, with the type at its
  place
* `assigns_settled`: a statement that keeps values has one slot for every value that is read
* `ofStep_prototype`: the slots of a call are those of the values that are understood
-/

namespace ExploitReplay

open Signature (Prototype)

namespace CallStatement

/-- **A variable is declared for every slot that has a name**, with the type at its place. -/
theorem mem_capturesOf {slots types : List String} {k : Nat} {name type : String}
    (hslot : slots[k]? = some name) (htype : types[k]? = some type) (hname : name ≠ "") :
    ⟨name, "", ValueType.declared type⟩ ∈ capturesOf slots types := by
  have hzip : (slots.zip types)[k]? = some (name, type) :=
    List.getElem?_zip_eq_some.mpr ⟨hslot, htype⟩
  refine List.mem_filterMap.mpr ⟨(name, type), List.mem_of_getElem? hzip, ?_⟩
  exact if_neg hname

/-- The statement keeps values of the given types under names. -/
structure Assigns (c : CallStatement) (names types : List String) : Prop where
  /-- The names stand in the first slots, the slots behind them are blank. -/
  slots : c.slots = names ++ List.replicate (types.length - names.length) ""
  /-- There is one slot for every type. -/
  length : c.slots.length = types.length
  captures : c.captures = capturesOf c.slots types
  /-- A name is declared with the type at its place. -/
  declared : ∀ (k : Nat) (name : String), c.slots[k]? = some name → name ≠ "" →
    ∃ type, types[k]? = some type ∧ ⟨name, "", ValueType.declared type⟩ ∈ c.captures
  /-- A single value is declared by the call. -/
  single : ∀ type, types = [type] → ∃ name, c.slots = [name] ∧
    ∀ i, c.lines i = c.prankLines i ++
      [i.line (ValueType.declared type ++ " " ++ name ++ " = " ++ c.invocation)]
  /-- Several values are declared before the call, which assigns them to all the slots. -/
  several : types.length ≠ 1 →
    ∀ i, c.lines i = c.captures.map (Solidity.variableLine i) ++ c.prankLines i ++
      [i.line (tuple c.slots ++ " = " ++ c.invocation)]

theorem capturesOf_single {name type : String} (h : name ≠ "") :
    capturesOf [name] [type] = [⟨name, "", ValueType.declared type⟩] := by
  simp [capturesOf, h]

/-- A statement without variables is the call alone. -/
theorem lines_of_captures_nil {c : CallStatement} (h : c.captures = []) (i : Indent) :
    c.lines i = c.prankLines i ++ [i.line c.invocation] := by
  simp [lines, h]

/-- Variables are declared before the call, unless there is a single slot. -/
theorem lines_of_several {c : CallStatement} (hcaptures : c.captures ≠ [])
    (hslots : c.slots.length ≠ 1) (i : Indent) :
    c.lines i = c.captures.map (Solidity.variableLine i) ++ c.prankLines i ++
      [i.line (tuple c.slots ++ " = " ++ c.invocation)] := by
  unfold lines
  split
  · rename_i hnil
    exact absurd hnil hcaptures
  · rename_i hsingle
    simp [hsingle] at hslots
  · rfl

/-- **A statement that keeps values has one slot for every value that is read.** -/
theorem assigns_settled (scope : Scope) {step : Step} (target : String) {signature : Signature}
    (hlen : step.outputs.length ≤ signature.arity) (hkept : keptNames step ≠ []) :
    (settled scope step target signature).Assigns (step.outputs.map Text.trim)
      signature.returns := by
  have houtputs : step.outputs ≠ [] := by
    intro hnil
    simp [keptNames, hnil] at hkept
  have hslots : (settled scope step target signature).slots = step.outputs.map Text.trim ++
      List.replicate (signature.returns.length - (step.outputs.map Text.trim).length) "" := by
    rw [settled, slotsOf, if_neg houtputs, List.length_map]
    rfl
  have hlength : (settled scope step target signature).slots.length = signature.returns.length := by
    rw [hslots, List.length_append, List.length_replicate, List.length_map]
    exact Nat.add_sub_cancel' hlen
  have hcaptures : (settled scope step target signature).captures ≠ [] := by
    intro hnil
    have hnames := names_captures_settled scope target hlen
    rw [hnil] at hnames
    exact hkept hnames.symm
  refine ⟨hslots, hlength, rfl, ?_, ?_, ?_⟩
  · intro k name hk hname
    obtain ⟨hlt, -⟩ := List.getElem?_eq_some_iff.mp hk
    rw [hlength] at hlt
    exact ⟨_, List.getElem?_eq_getElem hlt, mem_capturesOf hk (List.getElem?_eq_getElem hlt) hname⟩
  · intro type htype
    obtain ⟨name, hname⟩ := List.length_eq_one_iff.mp (hlength.trans (by rw [htype]; rfl))
    have hcapture : (settled scope step target signature).captures = capturesOf [name] [type] := by
      rw [← hname, ← htype]
      rfl
    -- the single slot has a name, as something is kept
    have hne : name ≠ "" := by
      rintro rfl
      exact hcaptures hcapture
    rw [capturesOf_single hne] at hcapture
    exact ⟨name, hname, fun i => by rw [lines, hcapture, hname]⟩
  · intro hseveral
    exact lines_of_several hcaptures (by rwa [hlength])

/-- **The slots of a call are those of the values that are understood**, in the order in which the
signature has them. A call with names for no more values than that is refused only for its
arguments. If a value is kept, there is one slot for every value that is understood, and a name is a
variable of the type at its place. A call with more names is refused. If every value is understood,
these are all the values of the signature. -/
theorem ofStep_prototype {p : Prototype} (h : p.WellFormed) {step : Step}
    (hstep : step.call.signature = p.text) (scope : Scope) (target : String) :
    (p.types.length < step.outputs.length →
      ofStep scope step target =
        .error (.tooManyOutputs p.text step.outputs.length p.types.length)) ∧
    (step.outputs.length ≤ p.types.length →
      (∀ e, ofStep scope step target = .error e → ∃ name, e = .unknownVariable name) ∧
      ∀ c, ofStep scope step target = .ok c →
        (keptNames step = [] → ∀ i, c.lines i = c.prankLines i ++ [i.line c.invocation]) ∧
        (keptNames step ≠ [] → c.Assigns (step.outputs.map Text.trim) p.types)) ∧
    ((∀ v ∈ p.returned, v.recognised.isSome) →
      p.types = p.returned.map fun v => ValueType.expand v.fullType) := by
  obtain ⟨signature, hparse, -, hreturns⟩ := h.parse_prototype
  rw [← hstep] at hparse
  have harity : signature.arity = p.types.length := by rw [Signature.arity, hreturns]
  refine ⟨fun hmany => ?_, fun hfew => ⟨fun e he => ?_, fun c hc => ?_⟩, Prototype.types_eq_map⟩
  · -- the names are counted before the arguments are looked at
    rw [← harity] at hmany ⊢
    rw [← hstep]
    exact ofStep_eq_error_iff.mpr (.outputs signature hparse hmany)
  · -- the signature is one and the names are few, so only the arguments are left
    cases ofStep_eq_error_iff.mp he with
    | malformed cause parse => cases hparse.symm.trans parse
    | outputs signature' parse many =>
      obtain rfl := Except.ok.inj (hparse.symm.trans parse)
      omega
    | unknown => exact ⟨_, rfl⟩
  · obtain ⟨-, signature', hparse', rfl⟩ := ofStep_eq_ok_iff.mp hc
    obtain rfl := Except.ok.inj (hparse.symm.trans hparse')
    rw [← harity] at hfew
    refine ⟨fun hnone i => lines_of_captures_nil ?_ i, fun hkept => ?_⟩
    · rw [← List.map_eq_nil_iff (f := (·.name)), names_captures_settled scope target hfew, hnone]
    · rw [← hreturns]
      exact assigns_settled scope target hfew hkept

/-- Four values are returned, of which the second and the last are understood. -/
def quotePrototype : Prototype where
  name := "quote"
  parameters := "function(uint256) external returns (bool) check, uint256[2] amounts"
  modifiers := ["external", "view"]
  returned :=
    [⟨"uint256[]", some "memory", some "path"⟩, ⟨"uint", none, some "amount"⟩,
      ⟨"uint96", none, none⟩, ⟨"string", some "calldata", some "note"⟩]

/-- A call that keeps the first value that is understood. -/
def quoteStep : Step where
  call := ⟨"", "0xA", quotePrototype.text, none, none⟩
  outputs := [" a "]

theorem ofStep_prototype_quotePrototype :
    quotePrototype.WellFormed ∧ quoteStep.call.signature = quotePrototype.text ∧
      ∃ c, ofStep {} quoteStep "contract1" = .ok c ∧
        c.Assigns ["a"] ["uint256", "string memory"] ∧
        c.lines {} = ["uint256 a;", "(a,  ) = contract1.quote();"] := by
  have h : quotePrototype.WellFormed := by decide +kernel
  have htypes : quotePrototype.types = ["uint256", "string memory"] := by decide +kernel
  have hsignature : quoteStep.call.signature = quotePrototype.text := rfl
  obtain ⟨-, hfew, -⟩ := ofStep_prototype h hsignature {} "contract1"
  obtain ⟨-, hok⟩ := hfew (by rw [htypes]; decide)
  obtain ⟨c, hc⟩ := exists_ok_of_isOk
    (show (ofStep {} quoteStep "contract1").isOk = true by decide +kernel)
  have hassigns := (hok c hc).2 (by decide +kernel)
  have houtputs : quoteStep.outputs.map Text.trim = ["a"] := by decide +kernel
  rw [houtputs, htypes] at hassigns
  refine ⟨h, hsignature, c, hc, hassigns, ?_⟩
  have hlines : (ofStep {} quoteStep "contract1").map (·.lines {}) =
      .ok ["uint256 a;", "(a,  ) = contract1.quote();"] := by decide +kernel
  rw [hc] at hlines
  exact Except.ok.inj hlines

/-- Two values are returned, of which the first is not understood. -/
def sharesPrototype : Prototype where
  name := "f"
  parameters := ""
  modifiers := ["external"]
  returned := [⟨"uint96", none, none⟩, ⟨"address", none, none⟩]

/-- Two names are too many for two values, and a name alone is declared with the type of the second
value, as the only slot. -/
theorem ofStep_sharesPrototype :
    sharesPrototype.WellFormed ∧
      sharesPrototype.text = "function f() external returns (uint96, address)" ∧
      ofStep {} { call := ⟨"", "0xA", sharesPrototype.text, none, none⟩, outputs := ["a", "b"] }
        "contract1" = .error (.tooManyOutputs sharesPrototype.text 2 1) ∧
      (ofStep {} { call := ⟨"", "0xA", sharesPrototype.text, none, none⟩, outputs := ["a"] }
          "contract1").map (fun c => (c.slots, c.lines {})) =
        .ok (["a"], ["address a = contract1.f();"]) := by
  refine ⟨?_, ?_, ?_, ?_⟩ <;> decide +kernel

end CallStatement

end ExploitReplay
