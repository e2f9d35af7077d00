import ExploitReplay.Proofs.Document
import Mathlib.Logic.Equiv.Basic

/-!
# Renaming variables

Nothing in a test depends on what the variables that keep returned values are called. If they are
renamed alike where values are kept and where they are used, the calls are settled as before, or the
same step fails as before, and the test is the same text but for the names.

Names of kept values stand in one scope with the generated names, and a value is looked up among all
of them. A kept value has the empty text as its value, though, so what is found by an address is a
generated name, which a renaming leaves alone.

## Main definitions

* `IsRenaming r`: a map of texts that renames variables
* `Step.stripped`, `Step.renamed r`: a step whose kept names are trimmed, and one that is renamed
* `OpenCall`: a call statement whose variables are still to be written
* `FailsAt steps k e`: the steps before `k` are settled, and the step at `k` fails
* `TestContract.RenamedBy r t t'`: two tests that are the same text but for their variables

## Main results

* `isRenaming_swap`: two names can be exchanged
* `Scope.define_renamed`, `Scope.reference_renamed`: declaring in, and reading, a renamed scope
* `callOf_renamed_of_ok`, `callOf_renamed_of_error`: one renamed step
* `Calls.renamed`: a run of renamed steps
* `compile_renamed`: the test of a renamed sequence
-/

namespace ExploitReplay

/-! ### Renamings -/

/-- The name of a contract or of an account. -/
def IsGenerated (name : String) : Prop :=
  ∃ n : Nat, 0 < n ∧ (name = Solidity.contractName n ∨ name = Solidity.accountName n)

/-- A map of texts that renames variables: different texts stay different, generated names and
blanks stay as they are, and any other name that is trimmed and not empty becomes such a name. -/
structure IsRenaming (r : String → String) : Prop where
  injective : Function.Injective r
  generated : ∀ s, IsGenerated s → r s = s
  blank : ∀ s, Text.trim s = "" → r s = s
  name : ∀ s, s ≠ "" → Text.trim s = s → ¬IsGenerated s → r s ≠ "" ∧ Text.trim (r s) = r s

namespace IsRenaming

variable {r : String → String}

theorem map_empty (hr : IsRenaming r) : r "" = "" :=
  hr.blank "" rfl

theorem eq_empty_iff (hr : IsRenaming r) {s : String} : r s = "" ↔ s = "" := by
  constructor
  · intro h
    exact hr.injective (h.trans hr.map_empty.symm)
  · rintro rfl
    exact hr.map_empty

/-- A trimmed text stays trimmed. -/
theorem trim_map_trim (hr : IsRenaming r) (s : String) :
    Text.trim (r (Text.trim s)) = r (Text.trim s) := by
  by_cases hblank : Text.trim s = ""
  · rw [hblank, hr.map_empty]
    rfl
  · by_cases hgenerated : IsGenerated (Text.trim s)
    · rw [hr.generated _ hgenerated, Text.trim_trim]
    · exact (hr.name _ hblank (Text.trim_trim s) hgenerated).2

end IsRenaming

/-- **Two names can be exchanged** if both are trimmed and neither is generated. -/
theorem isRenaming_swap {a b : String} (ha : a ≠ "" ∧ Text.trim a = a) (hga : ¬IsGenerated a)
    (hb : b ≠ "" ∧ Text.trim b = b) (hgb : ¬IsGenerated b) : IsRenaming (Equiv.swap a b) where
  injective := (Equiv.swap a b).injective
  generated s hs := Equiv.swap_apply_of_ne_of_ne (fun h => hga (h ▸ hs)) fun h => hgb (h ▸ hs)
  blank s hs := by
    refine Equiv.swap_apply_of_ne_of_ne ?_ ?_
    · rintro rfl
      exact ha.1 (ha.2.symm.trans hs)
    · rintro rfl
      exact hb.1 (hb.2.symm.trans hs)
  name s hne htrim _ := by
    rw [Equiv.swap_apply_def]
    split
    · exact hb
    · split
      · exact ha
      · exact ⟨hne, htrim⟩

/-- A generated name begins with the letter of a contract or that of an account. -/
theorem not_isGenerated_of_head {s : String} (hc : s.toList.head? ≠ some 'c')
    (ha : s.toList.head? ≠ some 'a') : ¬IsGenerated s := by
  rintro ⟨n, -, rfl | rfl⟩
  · exact hc (by simp [Solidity.contractName])
  · exact ha (by simp [Solidity.accountName])

/-! ### What is renamed -/

/-- The argument with its variable renamed. -/
def Argument.renamed (r : String → String) : Argument → Argument
  | .literal text => .literal text
  | .captured name => .captured (r name)

namespace Step

/-- The step with its kept names trimmed. -/
def stripped (step : Step) : Step :=
  { step with outputs := step.outputs.map Text.trim }

/-- The step with the variables of its arguments and its kept names renamed, these after they are
trimmed. -/
def renamed (r : String → String) (step : Step) : Step :=
  { step with
    inputs := step.inputs.map (Argument.renamed r)
    outputs := step.outputs.map fun output => r (Text.trim output) }

end Step

def Binding.renamed (r : String → String) (b : Binding) : Binding :=
  { b with name := r b.name }

/-- The failure of a renamed step: an undeclared variable is renamed, and nothing else. -/
def Failure.renamed (r : String → String) : Failure → Failure
  | .unknownVariable name => .unknownVariable (r name)
  | e => e

/-- The book of a sequence reads the calls of its steps only. -/
theorem AddressBook.ofSteps_map {f : Step → Step} (hf : ∀ step, (f step).call = step.call)
    (steps : List Step) : ofSteps (steps.map f) = ofSteps steps := by
  have hregister : (fun book step => registerStep book (f step)) = registerStep := by
    funext book step
    simp only [registerStep, hf]
  rw [ofSteps, List.foldl_map, hregister, ofSteps]

/-! ### Trimmed names -/

namespace CallStatement

theorem slotsFor_map_trim (signature : Signature) (outputs : List String) :
    slotsFor signature (outputs.map Text.trim) = slotsFor signature outputs := by
  simp only [slotsFor, List.length_map, List.map_eq_nil_iff, List.map_map, Function.comp_def,
    Text.trim_trim]

/-- A step keeps its values under trimmed names anyway. -/
theorem ofStep_stripped (scope : Scope) (step : Step) (target : String) :
    ofStep scope step.stripped target = ofStep scope step target := by
  have hslots : ∀ signature, slotsFor signature step.stripped.outputs =
      slotsFor signature step.outputs := fun signature => slotsFor_map_trim signature step.outputs
  simp only [ofStep, hslots]
  rfl

end CallStatement

theorem callsOf_stripped (book : AddressBook) (steps : List Step) (scope : Scope) :
    TestContract.callsOf book (steps.map Step.stripped) scope =
      TestContract.callsOf book steps scope := by
  induction steps generalizing scope with
  | nil => rfl
  | cons step steps ih =>
    have hcall : TestContract.callOf book scope step.stripped =
        TestContract.callOf book scope step := by
      simp only [TestContract.callOf, CallStatement.ofStep_stripped]
      rfl
    simp only [List.map_cons, TestContract.callsOf, hcall, ih]

/-- **Trimming the kept names changes nothing.** -/
theorem compile_stripped (template : Template) (funding : Funding) (steps : List Step)
    (context : Context) :
    compile template funding (steps.map Step.stripped) context =
      compile template funding steps context := by
  have hbook := AddressBook.ofSteps_map (fun step => (rfl : step.stripped.call = step.call)) steps
  simp only [compile, TestContract.ofSteps, hbook, callsOf_stripped]

/-! ### Renamed scopes -/

namespace Scope

variable {r : String → String}

/-- The scope with its names renamed. -/
def renamed (r : String → String) (s : Scope) : Scope :=
  ⟨s.bindings.map (Binding.renamed r)⟩

@[simp] theorem names_renamed (s : Scope) : (s.renamed r).names = s.names.map r := by
  simp only [names, renamed, List.map_map]
  rfl

theorem overwrite_renamed (hr : Function.Injective r) (b : Binding) (bs : List Binding) :
    overwrite (b.renamed r) (bs.map (Binding.renamed r)) =
      (overwrite b bs).map (Binding.renamed r) := by
  induction bs with
  | nil => rfl
  | cons x xs ih =>
    have hname : (x.renamed r).name = (b.renamed r).name ↔ x.name = b.name := hr.eq_iff
    simp only [List.map_cons, overwrite, hname, ih]
    split <;> rfl

/-- **A declaration in a renamed scope** is the renamed declaration. -/
theorem define_renamed (hr : Function.Injective r) (s : Scope) (b : Binding) :
    (s.renamed r).define (b.renamed r) = (s.define b).renamed r :=
  congrArg Scope.mk (overwrite_renamed hr b s.bindings)

theorem defineAll_renamed (hr : Function.Injective r) (s : Scope) (bs : List Binding) :
    (s.renamed r).defineAll (bs.map (Binding.renamed r)) = (s.defineAll bs).renamed r := by
  induction bs generalizing s with
  | nil => rfl
  | cons b bs ih => rw [List.map_cons, defineAll_cons, defineAll_cons, define_renamed hr, ih]

theorem latestHolding_renamed (value : String) (latest : Option Binding) (bs : List Binding) :
    latestHolding value (latest.map (Binding.renamed r)) (bs.map (Binding.renamed r)) =
      (latestHolding value latest bs).map (Binding.renamed r) := by
  induction bs generalizing latest with
  | nil => rfl
  | cons x xs ih =>
    have hvalue : (x.renamed r).value = x.value := rfl
    have htype : (x.renamed r).type = x.type := rfl
    simp only [List.map_cons, latestHolding, hvalue, htype]
    split
    · split
      · rfl
      · exact ih (some x)
    · exact ih latest

/-- Every name that holds a value other than the empty text is left alone. -/
def Fixes (s : Scope) (r : String → String) : Prop :=
  ∀ b ∈ s.bindings, b.value ≠ "" → r b.name = b.name

/-- **A value is written alike in a renamed scope**, unless it is the empty text. -/
theorem reference_renamed {s : Scope} (hs : s.Fixes r) {value : String} (hvalue : value ≠ "") :
    (s.renamed r).reference value = s.reference value := by
  have hholding : (s.renamed r).holding? value = (s.holding? value).map (Binding.renamed r) :=
    latestHolding_renamed value none s.bindings
  rw [reference, reference, hholding]
  cases hfind : s.holding? value with
  | none => rfl
  | some b =>
    -- what is found holds the value, so its name is one that is left alone
    obtain ⟨hmem, hb⟩ := of_holding? hfind
    exact hs b hmem (hb ▸ hvalue)

theorem Fixes.defineAll {s : Scope} (hs : s.Fixes r) {bs : List Binding}
    (hbs : ∀ b ∈ bs, b.value = "") : (s.defineAll bs).Fixes r := by
  induction bs generalizing s with
  | nil => exact hs
  | cons b bs ih =>
    refine ih (fun x hx hvalue => ?_) fun x hx => hbs x (List.mem_cons_of_mem _ hx)
    rcases mem_overwrite hx with rfl | hx
    · exact absurd (hbs x (by simp)) hvalue
    · exact hs x hx hvalue

end Scope

/-! ### A renamed call -/

/-- A call statement whose variables are still to be written. -/
structure OpenCall where
  prank : Option String
  /-- What is called: the variable of the contract, the function and the options. -/
  callee : String
  arguments : List Argument
  slots : List String
  captures : List Binding
  ignoredValue : Option String

namespace OpenCall

variable {r : String → String}

/-- The call itself, with its variables written by `r`. -/
def invocation (r : String → String) (o : OpenCall) : String :=
  o.callee ++ "(" ++ ", ".intercalate (o.arguments.map fun a => (a.renamed r).text) ++ ");"

/-- The statement, with its variables written by `r`. -/
def named (r : String → String) (o : OpenCall) : CallStatement where
  prank := o.prank
  invocation := o.invocation r
  slots := o.slots.map r
  captures := o.captures.map (Binding.renamed r)
  ignoredValue := o.ignoredValue

/-- The line that chooses the caller, if there is one. -/
def prankLines (i : Indent) (o : OpenCall) : List String :=
  o.prank.toList.map (Solidity.prankLine i)

/-- The lines of the statement, with the variables that are declared and assigned, and those that are
arguments, written by `r`. -/
def lines (r : String → String) (i : Indent) (o : OpenCall) : List String :=
  match o.captures, o.slots with
  | [], _ => o.prankLines i ++ [i.line (o.invocation r)]
  | [b], [_] => o.prankLines i ++ [i.line (b.type ++ " " ++ r b.name ++ " = " ++ o.invocation r)]
  | captures, slots =>
    captures.map (fun b => Solidity.variableLine i { b with name := r b.name }) ++ o.prankLines i ++
      [i.line (CallStatement.tuple (slots.map r) ++ " = " ++ o.invocation r)]

theorem lines_named (r : String → String) (i : Indent) (o : OpenCall) :
    (o.named r).lines i = o.lines r i := by
  obtain ⟨prank, callee, arguments, slots, captures, ignoredValue⟩ := o
  rcases captures with _ | ⟨b, _ | ⟨b', bs⟩⟩
  · rfl
  · -- a single variable is declared by the call only if it takes the single value
    rcases slots with _ | ⟨s, _ | ⟨s', ss⟩⟩ <;> rfl
  · simp only [lines, named, CallStatement.lines, List.map_cons, List.map_map]
    rfl

/-- The statement of a step with its variables still to be written. -/
def ofStep (scope : Scope) (step : Step) (target : String) (signature : Signature) : OpenCall where
  prank := if step.call.caller = "" then none else some (scope.reference step.call.caller)
  callee := target ++ "." ++ signature.name ++
    CallStatement.executionOptions step.call.value step.call.gasLimit signature.payable
  arguments := step.inputs
  slots := CallStatement.slotsOf signature step.outputs
  captures := CallStatement.capturesOf (CallStatement.slotsOf signature step.outputs) signature.returns
  ignoredValue := CallStatement.unsentValue step.call.value signature.payable

end OpenCall

/-! ### The checks of a renamed step -/

variable {r : String → String}

theorem Argument.captured_mem_map_renamed {name : String} {inputs : List Argument}
    (h : Argument.captured name ∈ inputs.map (Argument.renamed r)) :
    ∃ n, Argument.captured n ∈ inputs ∧ r n = name := by
  obtain ⟨a, ha, heq⟩ := List.mem_map.mp h
  cases a with
  | literal text => cases heq
  | captured n => exact ⟨n, ha, Argument.captured.inj heq⟩

theorem Acceptable.renamed {known : List String} {step : Step} (h : Acceptable known step) :
    Acceptable (known.map r) (step.renamed r) where
  signature := by simpa [Step.renamed] using h.signature
  arguments := by
    intro name hname
    obtain ⟨n, hn, rfl⟩ := Argument.captured_mem_map_renamed hname
    exact List.mem_map.mpr ⟨n, h.arguments n hn, rfl⟩

theorem FailsWith.renamed (hr : Function.Injective r) {known : List String} {step : Step}
    {e : Failure} (h : FailsWith known step e) :
    FailsWith (known.map r) (step.renamed r) (e.renamed r) := by
  cases h with
  | malformed cause parse => exact .malformed cause parse
  | outputs signature parse many =>
    have hlength : (step.renamed r).outputs.length = step.outputs.length := List.length_map _
    have hf : FailsWith (known.map r) (step.renamed r) (.tooManyOutputs step.call.signature
        (step.renamed r).outputs.length signature.arity) :=
      .outputs signature parse (hlength ▸ many)
    rw [hlength] at hf
    exact hf
  | unknown signature before after name parse few inputs declared undeclared =>
    refine .unknown signature (before.map (Argument.renamed r)) (after.map (Argument.renamed r))
      (r name) parse ?_ ?_ ?_ ?_
    · simpa [Step.renamed] using few
    · simp [Step.renamed, inputs, Argument.renamed]
    · intro n hn
      obtain ⟨m, hm, rfl⟩ := Argument.captured_mem_map_renamed hn
      exact List.mem_map.mpr ⟨m, declared m hm, rfl⟩
    · -- a declared name that becomes the undeclared one would be the undeclared one itself
      intro hmem
      obtain ⟨m, hm, heq⟩ := List.mem_map.mp hmem
      exact undeclared (hr heq ▸ hm)

/-! ### The statement of a renamed step -/

theorem capturesOf_map (hr : IsRenaming r) (slots types : List String) :
    CallStatement.capturesOf (slots.map r) types =
      (CallStatement.capturesOf slots types).map (Binding.renamed r) := by
  induction slots generalizing types with
  | nil => rfl
  | cons s ss ih =>
    cases types with
    | nil => rfl
    | cons t ts =>
      -- a slot is blank iff it is blank after it is renamed
      have ih := ih ts
      by_cases hs : s = ""
      · simpa [CallStatement.capturesOf, hs, hr.map_empty] using ih
      · simpa [CallStatement.capturesOf, hs, hr.eq_empty_iff, Binding.renamed] using ih

theorem slotsOf_renamed (hr : IsRenaming r) (signature : Signature) (step : Step) :
    CallStatement.slotsOf signature (step.renamed r).outputs =
      (CallStatement.slotsOf signature step.outputs).map r := by
  have htrim : (step.renamed r).outputs.map Text.trim = (step.outputs.map Text.trim).map r := by
    simp only [Step.renamed, List.map_map, Function.comp_def, hr.trim_map_trim]
  have hlength : (step.renamed r).outputs.length = step.outputs.length := List.length_map _
  have hnil : (step.renamed r).outputs = [] ↔ step.outputs = [] := List.map_eq_nil_iff
  simp only [CallStatement.slotsOf, hnil, htrim, hlength]
  split
  · rfl
  · rw [List.map_append, List.map_replicate, hr.map_empty]

theorem settled_eq_named (scope : Scope) (step : Step) (target : String) (signature : Signature) :
    CallStatement.settled scope step target signature =
      (OpenCall.ofStep scope step target signature).named id := by
  have htext : (fun a => (Argument.renamed id a).text) = Argument.text := by
    funext a
    cases a <;> rfl
  have hrenamed : Binding.renamed id = id := rfl
  simp only [CallStatement.settled, OpenCall.named, OpenCall.invocation, OpenCall.ofStep, htext,
    hrenamed, List.map_id]

theorem settled_renamed (hr : IsRenaming r) {scope : Scope} (hs : scope.Fixes r) (step : Step)
    (target : String) (signature : Signature) :
    CallStatement.settled (scope.renamed r) (step.renamed r) target signature =
      (OpenCall.ofStep scope step target signature).named r := by
  have hprank : (if step.call.caller = "" then none
      else some ((scope.renamed r).reference step.call.caller)) =
        if step.call.caller = "" then none else some (scope.reference step.call.caller) := by
    split
    · rfl
    · rename_i hcaller
      rw [Scope.reference_renamed hs hcaller]
  have htexts : (step.renamed r).inputs.map Argument.text =
      step.inputs.map fun a => (a.renamed r).text := List.map_map
  have hcall : (step.renamed r).call = step.call := rfl
  simp only [CallStatement.settled, OpenCall.named, OpenCall.invocation, OpenCall.ofStep, hcall,
    hprank, htexts, slotsOf_renamed hr, capturesOf_map hr]

/-- The call statement is one of the step. -/
def OpenCall.IsOf (step : Step) (o : OpenCall) : Prop :=
  ∃ scope target signature, Signature.parse (some step.call.signature) = .ok signature ∧
    o = OpenCall.ofStep scope step target signature

/-- **A renamed step is settled** if the step is, with the same statement but for its variables. -/
theorem callOf_renamed_of_ok (hr : IsRenaming r) {book : AddressBook} {scope : Scope}
    (hs : scope.Fixes r) {step : Step} {c : CallStatement}
    (h : TestContract.callOf book scope step = .ok c) :
    ∃ o : OpenCall, o.IsOf step ∧ c = o.named id ∧
      TestContract.callOf book (scope.renamed r) (step.renamed r) = .ok (o.named r) := by
  have hcall : (step.renamed r).call = step.call := rfl
  simp only [TestContract.callOf, hcall] at h ⊢
  cases hindex : book.contractIndex? step.call.target with
  | none => simp [hindex] at h
  | some n =>
    simp only [hindex] at h ⊢
    obtain ⟨ha, signature, hparse, rfl⟩ := CallStatement.ofStep_eq_ok_iff.mp h
    refine ⟨_, ⟨scope, _, signature, hparse, rfl⟩, settled_eq_named .., ?_⟩
    rw [CallStatement.ofStep_eq_ok_iff, Scope.names_renamed]
    exact ⟨ha.renamed, signature, hparse, (settled_renamed hr hs ..).symm⟩

/-- **A renamed step fails** if the step does, in the same check. -/
theorem callOf_renamed_of_error (hr : IsRenaming r) {book : AddressBook} {scope : Scope}
    {step : Step} {e : Failure} (h : TestContract.callOf book scope step = .error e) :
    TestContract.callOf book (scope.renamed r) (step.renamed r) = .error (e.renamed r) := by
  have hcall : (step.renamed r).call = step.call := rfl
  simp only [TestContract.callOf, hcall] at h ⊢
  cases hindex : book.contractIndex? step.call.target with
  | none =>
    simp only [hindex] at h ⊢
    obtain rfl := Except.error.inj h
    rfl
  | some n =>
    simp only [hindex] at h ⊢
    rw [CallStatement.ofStep_eq_error_iff] at h ⊢
    rw [Scope.names_renamed]
    exact h.renamed hr.injective

/-! ### A renamed run -/

namespace OpenCall

theorem captures_named_id (o : OpenCall) : (o.named id).captures = o.captures :=
  List.map_id _

/-- The renamed statement declares the renamed variables. -/
theorem declareIn_named (hr : IsRenaming r) (o : OpenCall) (scope : Scope) :
    (o.named r).declareIn (scope.renamed r) = ((o.named id).declareIn scope).renamed r := by
  simp only [CallStatement.declareIn, captures_named_id]
  exact Scope.defineAll_renamed hr.injective scope o.captures

theorem fixes_declareIn (o : OpenCall) {step : Step} (ho : o.IsOf step) {scope : Scope}
    (hs : scope.Fixes r) : ((o.named id).declareIn scope).Fixes r := by
  obtain ⟨_, _, signature, -, rfl⟩ := ho
  refine hs.defineAll fun b hb => ?_
  rw [captures_named_id] at hb
  exact (CallStatement.of_mem_capturesOf hb).2.2

end OpenCall

/-- **A run of renamed steps** settles them with the same statements but for their variables, and
leaves the renamed scope. -/
theorem Calls.renamed (hr : IsRenaming r) {book : AddressBook} {scope left : Scope}
    {steps : List Step} {cs : List CallStatement} (h : Calls book scope steps cs left)
    (hs : scope.Fixes r) :
    left.Fixes r ∧ ∃ os : List OpenCall, List.Forall₂ OpenCall.IsOf steps os ∧
      cs = os.map (OpenCall.named id) ∧
      Calls book (scope.renamed r) (steps.map (Step.renamed r)) (os.map (OpenCall.named r))
        (left.renamed r) := by
  -- the names that hold a value are left alone all along, as kept values are empty
  induction h with
  | nil => exact ⟨hs, [], .nil, rfl, .nil⟩
  | @cons scope left step steps c cs head tail ih =>
    obtain ⟨o, ho, rfl, hrenamed⟩ := callOf_renamed_of_ok hr hs head
    obtain ⟨hleft, os, hos, rfl, hcalls⟩ := ih (o.fixes_declareIn ho hs)
    rw [← o.declareIn_named hr] at hcalls
    exact ⟨hleft, o :: os, .cons ho hos, rfl, .cons hrenamed hcalls⟩

/-! ### Before the first call -/

theorem isGenerated_of_mem_generatedNames {steps : List Step} {name : String}
    (h : name ∈ generatedNames steps) : IsGenerated name := by
  rcases List.mem_append.mp h with h | h
  · obtain ⟨n, hn, rfl⟩ := List.mem_map.mp h
    exact ⟨n, (List.mem_range'_1.mp hn).1, .inl rfl⟩
  · obtain ⟨n, hn, rfl⟩ := List.mem_map.mp h
    exact ⟨n, (List.mem_range'_1.mp hn).1, .inr rfl⟩

/-- Before the first call, all names are generated. -/
theorem map_name_readyScope (hr : IsRenaming r) {steps : List Step} {b : Binding}
    (hb : b ∈ (readyScope steps {}).bindings) : r b.name = b.name := by
  have hname : b.name ∈ (readyScope steps {}).names := List.mem_map.mpr ⟨b, hb, rfl⟩
  rw [mem_names_readyScope] at hname
  exact hr.generated _ (isGenerated_of_mem_generatedNames (hname.resolve_left (by simp [Scope.names])))

/-- **Before the first call**, a renaming changes nothing. -/
theorem renamed_readyScope (hr : IsRenaming r) (steps : List Step) :
    (readyScope steps {}).renamed r = readyScope steps {} := by
  have hbindings : (readyScope steps {}).bindings.map (Binding.renamed r) =
      (readyScope steps {}).bindings.map id := by
    refine List.map_congr_left fun b hb => ?_
    rw [Binding.renamed, map_name_readyScope hr hb, id]
  rw [List.map_id] at hbindings
  exact congrArg Scope.mk hbindings

theorem ofSteps_renamed (steps : List Step) :
    AddressBook.ofSteps (steps.map (Step.renamed r)) = AddressBook.ofSteps steps :=
  AddressBook.ofSteps_map (fun step => (rfl : (step.renamed r).call = step.call)) steps

/-- **The run of a renamed sequence**: the calls are settled with the same statements but for their
variables. -/
theorem Calls.renamed_readyScope (hr : IsRenaming r) {all steps : List Step} {left : Scope}
    {cs : List CallStatement}
    (h : Calls (AddressBook.ofSteps all) (readyScope all {}) steps cs left) :
    ∃ os : List OpenCall, List.Forall₂ OpenCall.IsOf steps os ∧ cs = os.map (OpenCall.named id) ∧
      Calls (AddressBook.ofSteps (all.map (Step.renamed r)))
        (readyScope (all.map (Step.renamed r)) {}) (steps.map (Step.renamed r))
        (os.map (OpenCall.named r)) (left.renamed r) := by
  have hready : (readyScope all {}).Fixes r := fun b hb _ => map_name_readyScope hr hb
  obtain ⟨-, os, hos, hcs, hcalls⟩ := h.renamed hr hready
  refine ⟨os, hos, hcs, ?_⟩
  rw [ExploitReplay.renamed_readyScope hr] at hcalls
  rwa [readyScope, ofSteps_renamed]

/-! ### The test of a renamed sequence -/

/-- The steps before `k` are settled, and the step at `k` fails. -/
def FailsAt (steps : List Step) (k : Nat) (e : Failure) : Prop :=
  ∃ before step after cs left, steps = before ++ step :: after ∧ before.length = k ∧
    Calls (AddressBook.ofSteps steps) (readyScope steps {}) before cs left ∧
    TestContract.callOf (AddressBook.ofSteps steps) left step = .error e

theorem result_compile_eq_error_iff {template : Template} {funding : Funding} {steps : List Step}
    {i : Indent} {e : Failure} :
    (compile template funding steps { indent := i }).result = .error e ↔
      ∃ k, FailsAt steps k e := by
  constructor
  · intro h
    rcases compile_cases template funding steps { indent := i } with
      ⟨cs, left, hcalls⟩ | ⟨before, step, after, cs, left, e', hsteps, hcalls, he, hof⟩
    · rw [compile_of_calls template funding hcalls] at h
      cases h
    · rw [hof] at h
      obtain rfl := Except.error.inj h
      exact ⟨_, before, step, after, cs, left, hsteps, rfl, hcalls, he⟩
  · rintro ⟨k, before, step, after, cs, left, hsteps, -, hcalls, he⟩
    rw [compile_of_callOf_error template funding hsteps hcalls he]

/-- A renamed sequence fails at the same step. -/
theorem FailsAt.renamed (hr : IsRenaming r) {steps : List Step} {k : Nat} {e : Failure}
    (h : FailsAt steps k e) : FailsAt (steps.map (Step.renamed r)) k (e.renamed r) := by
  obtain ⟨before, step, after, cs, left, hsteps, hk, hcalls, he⟩ := h
  obtain ⟨os, -, -, hrenamed⟩ := hcalls.renamed_readyScope hr
  refine ⟨before.map (Step.renamed r), step.renamed r, after.map (Step.renamed r),
    os.map (OpenCall.named r), left.renamed r, by simp [hsteps], by simpa using hk, hrenamed, ?_⟩
  rw [ofSteps_renamed]
  exact callOf_renamed_of_error hr he

/-- Two tests that are the same text but for the variables of their calls, which the one writes as
they are, and the other as the map says. -/
structure TestContract.RenamedBy (r : String → String) (calls : List OpenCall)
    (t t' : TestContract) : Prop where
  template : t'.template = t.template
  header : t'.header = t.header
  interfaces : ∀ i, t'.interfaces i = t.interfaces i
  contractLines : ∀ i, t'.contractLines i = t.contractLines i
  accountLines : ∀ i, t'.accountLines i = t.accountLines i
  setUp : ∀ i, t'.setUp i = t.setUp i
  pranks : ∀ i, t'.calls.map (CallStatement.prankLines i) = t.calls.map (CallStatement.prankLines i)
  texts : ∀ i, t.callTexts i = calls.map fun o => Solidity.group (o.lines id i)
  renamedTexts : ∀ i, t'.callTexts i = calls.map fun o => Solidity.group (o.lines r i)

/-- A test is the same text but for its calls if these alone are exchanged. -/
theorem renamedBy_of_calls (r : String → String) {t : TestContract} {os : List OpenCall}
    (h : t.calls = os.map (OpenCall.named id)) :
    t.RenamedBy r os { t with calls := os.map (OpenCall.named r) } := by
  refine ⟨rfl, rfl, fun _ => rfl, fun _ => rfl, fun _ => rfl, fun _ => rfl, fun i => ?_, fun i => ?_,
    fun i => ?_⟩
  · simp only [h, List.map_map]
    rfl
  · simp only [TestContract.callTexts, h, List.map_map, Function.comp_def, CallStatement.render,
      OpenCall.lines_named]
  · simp only [TestContract.callTexts, List.map_map, Function.comp_def, CallStatement.render,
      OpenCall.lines_named]

theorem renamedBy_planned (template : Template) (funding : Funding) (steps : List Step)
    (os : List OpenCall) :
    (planned template funding steps {} (os.map (OpenCall.named id))).RenamedBy r os
      (planned template funding (steps.map (Step.renamed r)) {} (os.map (OpenCall.named r))) := by
  have hplanned : planned template funding (steps.map (Step.renamed r)) {}
      (os.map (OpenCall.named r)) =
      { planned template funding steps {} (os.map (OpenCall.named id)) with
        calls := os.map (OpenCall.named r) } := by
    simp only [planned, readyScope, ofSteps_renamed]
  rw [hplanned]
  exact renamedBy_of_calls r rfl

/-- **Renaming variables changes nothing else.** A sequence has a test iff it has one after its
variables are renamed. Otherwise both fail at the same step in the same check. The two tests are the
same text but for the variables of their calls: where one declares, assigns or uses a variable, the
other does so with the renamed one; both are written as documents that have all these parts. In all
this, kept names can be trimmed before. -/
theorem compile_renamed (hr : IsRenaming r) (template : Template) (funding : Funding)
    (steps : List Step) (i : Indent) :
    compile template funding (steps.map Step.stripped) { indent := i } =
        compile template funding steps { indent := i } ∧
      ((∃ source, (compile template funding (steps.map (Step.renamed r)) { indent := i }).result =
          .ok source) ↔
        ∃ source, (compile template funding steps { indent := i }).result = .ok source) ∧
      (∀ e, (compile template funding steps { indent := i }).result = .error e →
        (compile template funding (steps.map (Step.renamed r)) { indent := i }).result =
            .error (e.renamed r) ∧
          ∃ k, FailsAt steps k e ∧ FailsAt (steps.map (Step.renamed r)) k (e.renamed r)) ∧
      ∀ source, (compile template funding steps { indent := i }).result = .ok source →
        ∃ (t t' : TestContract) (calls : List OpenCall), source = t.render i ∧
          (compile template funding (steps.map (Step.renamed r)) { indent := i }).result =
            .ok (t'.render i) ∧
          (TestContract.ofSteps template funding steps {}).result = .ok t ∧
          (TestContract.ofSteps template funding (steps.map (Step.renamed r)) {}).result = .ok t' ∧
          (∃ d d' : Document, t.WrittenAs d ∧ t'.WrittenAs d') ∧
          List.Forall₂ OpenCall.IsOf steps calls ∧ t.RenamedBy r calls t' := by
  refine ⟨compile_stripped template funding steps _, ?_⟩
  cases hresult : (compile template funding steps { indent := i }).result with
  | error e =>
    obtain ⟨k, hk⟩ := result_compile_eq_error_iff.mp hresult
    rw [result_compile_eq_error_iff.mpr ⟨k, hk.renamed hr⟩]
    refine ⟨by simp, fun e' he => ?_, nofun⟩
    obtain rfl := Except.error.inj he
    exact ⟨rfl, k, hk, hk.renamed hr⟩
  | ok source =>
    obtain ⟨cs, left, hcalls, -, rfl⟩ := exists_planned hresult
    obtain ⟨os, hos, rfl, hrenamed⟩ := hcalls.renamed_readyScope hr
    rw [compile_of_calls template funding hrenamed]
    refine ⟨by simp, nofun, fun source hsource => ?_⟩
    obtain rfl := Except.ok.inj hsource
    obtain ⟨d, hd⟩ := hcalls.exists_writtenAs template funding
    obtain ⟨d', hd'⟩ := hrenamed.exists_writtenAs template funding
    refine ⟨_, _, os, rfl, rfl, ?_, ?_, ⟨d, d', hd, hd'⟩, hos,
      renamedBy_planned template funding steps os⟩
    · rw [ofSteps_of_calls template funding hcalls]
    · rw [ofSteps_of_calls template funding hrenamed]

/-- A price is kept and used, and so is a rate; a literal with the text of a name is no variable. -/
def pricedSteps : List Step :=
  [{ call := ⟨"0xC0", "0xA", "price() returns (uint256)", none, none⟩, outputs := [" price "] },
   { call := ⟨"0xC0", "0xB", "swap(uint256) returns (uint256, bool)", none, none⟩,
     inputs := [.captured "price"], outputs := ["rate", " "] },
   { call := ⟨"", "0xB", "check(uint256, uint256)", none, none⟩,
     inputs := [.captured "rate", .literal "price"] }]

theorem compile_renamed_pricedSteps :
    IsRenaming (Equiv.swap "price" "rate") ∧
      ∃ (t t' : TestContract) (calls : List OpenCall),
        (compile {} {} pricedSteps {}).result = .ok (t.render {}) ∧
        (compile {} {} (pricedSteps.map (Step.renamed (Equiv.swap "price" "rate"))) {}).result =
          .ok (t'.render {}) ∧
        List.Forall₂ OpenCall.IsOf pricedSteps calls ∧
        t.RenamedBy (Equiv.swap "price" "rate") calls t' := by
  have hr : IsRenaming (Equiv.swap "price" "rate") :=
    isRenaming_swap (by decide) (not_isGenerated_of_head (by decide) (by decide)) (by decide)
      (not_isGenerated_of_head (by decide) (by decide))
  obtain ⟨source, hsource⟩ := exists_ok_of_isOk
    (show (compile {} {} pricedSteps {}).result.isOk = true by decide +kernel)
  obtain ⟨-, -, -, hok⟩ := compile_renamed hr {} {} pricedSteps {}
  obtain ⟨t, t', calls, rfl, hrenamed, -, -, -, hcalls, hby⟩ := hok source hsource
  exact ⟨hr, t, t', calls, hsource, hrenamed, hcalls, hby⟩

/-- The calls after the price and the rate have exchanged their names. -/
example :
    (TestContract.ofSteps {} {} (pricedSteps.map (Step.renamed (Equiv.swap "price" "rate")))
        {}).result.map (TestContract.callTexts {}) =
      .ok
        ["vm.prank(account1);\nuint256 rate = contract1.price();",
          "uint256 price;\nvm.prank(account1);\n(price,  ) = contract2.swap(rate);",
          "contract2.check(price, price);"] := by
  decide +kernel

end ExploitReplay
