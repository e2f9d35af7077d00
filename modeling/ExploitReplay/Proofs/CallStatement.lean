import ExploitReplay.Proofs.Scope
import ExploitReplay.Proofs.Signature.Reading
import ExploitReplay.Solidity.CallStatement

/-!
# When a step has a statement

A step is settled in a scope in three checks: its signature must be one, it must keep no more values
than the signature declares, and its arguments must name declared variables. Of the scope, the checks
read the declared names only.

## Main definitions

* `Acceptable known step`: a step passes the checks when the names `known` are declared
* `FailsWith known step e`: `e` is the failure of the first check the step does not pass
* `CallStatement.settled scope step target signature`: the statement of an acceptable step
* `keptNames step`: the names a step declares

## Main results

* `ofStep_eq_ok_iff`, `ofStep_eq_error_iff`: the statement, and the failure, of a step
* `FailsWith.not_acceptable`, `FailsWith.unique`: a step passes the checks or has one failure
* `names_captures_settled`: a settled statement declares the names its step keeps
-/

namespace ExploitReplay

/-! ### The checks of a step -/

/-- The step passes the checks when the names `known` are declared. -/
structure Acceptable (known : List String) (step : Step) : Prop where
  /-- The signature is one, and declares at least as many values as the step keeps. -/
  signature : ∃ signature, Signature.parse (some step.call.signature) = .ok signature ∧
    step.outputs.length ≤ signature.arity
  /-- The arguments name declared variables. -/
  arguments : ∀ name, Argument.captured name ∈ step.inputs → name ∈ known

/-- The failure of the first check that the step does not pass when the names `known` are
declared. -/
inductive FailsWith (known : List String) (step : Step) : Failure → Prop
  | malformed (cause : Signature.Malformed)
      (parse : Signature.parse (some step.call.signature) = .error cause) :
      FailsWith known step (.malformedSignature cause)
  | outputs (signature : Signature)
      (parse : Signature.parse (some step.call.signature) = .ok signature)
      (many : signature.arity < step.outputs.length) :
      FailsWith known step
        (.tooManyOutputs step.call.signature step.outputs.length signature.arity)
  | unknown (signature : Signature) (before after : List Argument) (name : String)
      (parse : Signature.parse (some step.call.signature) = .ok signature)
      (few : step.outputs.length ≤ signature.arity)
      (inputs : step.inputs = before ++ .captured name :: after)
      (declared : ∀ n, Argument.captured n ∈ before → n ∈ known)
      (undeclared : name ∉ known) :
      FailsWith known step (.unknownVariable name)

/-- The names a step keeps returned values under. -/
def keptNames (step : Step) : List String :=
  (step.outputs.map Text.trim).filter (· ≠ "")

theorem FailsWith.not_acceptable {known : List String} {step : Step} {e : Failure}
    (h : FailsWith known step e) : ¬Acceptable known step := by
  rintro ⟨⟨signature, hparse, hlen⟩, harguments⟩
  cases h with
  | malformed cause parse => simp [parse] at hparse
  | outputs signature' parse many =>
    obtain rfl := Except.ok.inj (parse.symm.trans hparse)
    omega
  | unknown signature' before after name parse few inputs declared undeclared =>
    exact undeclared (harguments name (by simp [inputs]))

/-- The first argument that is not declared is the only one with declared ones before it. -/
theorem eq_of_first_undeclared {known : List String} {before before' after after' : List Argument}
    {name name' : String}
    (h : before ++ Argument.captured name :: after = before' ++ .captured name' :: after')
    (hb : ∀ n, Argument.captured n ∈ before → n ∈ known)
    (hb' : ∀ n, Argument.captured n ∈ before' → n ∈ known)
    (hn : name ∉ known) (hn' : name' ∉ known) : name = name' := by
  -- on both lists at once: where one ends, the other has a name that it should not have
  induction before generalizing before' with
  | nil =>
    cases before' with
    | nil =>
      simp only [List.nil_append, List.cons.injEq, Argument.captured.injEq] at h
      exact h.1
    | cons b bs =>
      obtain ⟨rfl, -⟩ := List.cons.inj h
      exact absurd (hb' name (by simp)) hn
  | cons a as ih =>
    cases before' with
    | nil =>
      obtain ⟨rfl, -⟩ := List.cons.inj h
      exact absurd (hb name' (by simp)) hn'
    | cons b bs =>
      obtain ⟨rfl, htail⟩ := List.cons.inj h
      exact ih htail (fun n hm => hb n (List.mem_cons_of_mem _ hm))
        fun n hm => hb' n (List.mem_cons_of_mem _ hm)

/-- A step has one failure. -/
theorem FailsWith.unique {known : List String} {step : Step} {e e' : Failure}
    (h : FailsWith known step e) (h' : FailsWith known step e') : e = e' := by
  cases h with
  | malformed cause parse => cases h' <;> simp_all
  | outputs signature parse many =>
    cases h' with
    | malformed cause parse' => simp [parse] at parse'
    | outputs signature' parse' many' =>
      obtain rfl := Except.ok.inj (parse.symm.trans parse')
      rfl
    | unknown signature' before after name parse' few inputs declared undeclared =>
      obtain rfl := Except.ok.inj (parse.symm.trans parse')
      omega
  | unknown signature before after name parse few inputs declared undeclared =>
    cases h' with
    | malformed cause parse' => simp [parse] at parse'
    | outputs signature' parse' many' =>
      obtain rfl := Except.ok.inj (parse.symm.trans parse')
      omega
    | unknown signature' before' after' name' parse' few' inputs' declared' undeclared' =>
      rw [eq_of_first_undeclared (inputs.symm.trans inputs') declared declared' undeclared
        undeclared']

/-- Only which names are declared matters, not their order. -/
theorem Acceptable.mono {known known' : List String} (h : known ⊆ known') {step : Step}
    (ha : Acceptable known step) : Acceptable known' step :=
  ⟨ha.signature, fun name hn => h (ha.arguments name hn)⟩

theorem FailsWith.congr {known known' : List String} (h : ∀ n, n ∈ known ↔ n ∈ known') {step : Step}
    {e : Failure} (hf : FailsWith known step e) : FailsWith known' step e := by
  cases hf with
  | malformed cause parse => exact .malformed cause parse
  | outputs signature parse many => exact .outputs signature parse many
  | unknown signature before after name parse few inputs declared undeclared =>
    exact .unknown signature before after name parse few inputs
      (fun n hn => (h n).mp (declared n hn)) fun hn => undeclared ((h name).mpr hn)

namespace CallStatement

/-! ### Arguments and slots -/

/-- The slots of the values a step keeps: its names, then blanks up to the declared number. -/
def slotsOf (signature : Signature) (outputs : List String) : List String :=
  if outputs = [] then []
  else outputs.map Text.trim ++ List.replicate (signature.arity - outputs.length) ""

theorem slotsFor_of_le {signature : Signature} {outputs : List String}
    (h : outputs.length ≤ signature.arity) :
    slotsFor signature outputs = .ok (slotsOf signature outputs) := by
  unfold slotsFor slotsOf
  rw [if_neg (by omega)]
  split <;> rfl

theorem slotsFor_of_lt {signature : Signature} {outputs : List String}
    (h : signature.arity < outputs.length) :
    slotsFor signature outputs =
      .error (.tooManyOutputs signature.raw outputs.length signature.arity) := by
  simp [slotsFor, h]

/-- Arguments are written by their own texts if all their names are declared, and otherwise the first
name that is not declared is the failure. -/
theorem argumentTexts_cases (scope : Scope) (inputs : List Argument) :
    ((∀ n, Argument.captured n ∈ inputs → n ∈ scope.names) ∧
        argumentTexts scope inputs = .ok (inputs.map Argument.text)) ∨
      ∃ before name after, inputs = before ++ .captured name :: after ∧
        (∀ n, Argument.captured n ∈ before → n ∈ scope.names) ∧ name ∉ scope.names ∧
        argumentTexts scope inputs = .error (.unknownVariable name) := by
  induction inputs with
  | nil => exact .inl ⟨by simp, rfl⟩
  | cons a rest ih =>
    cases a with
    | literal text =>
      rcases ih with ⟨hnames, htexts⟩ | ⟨before, name, after, rfl, hb, hn, he⟩
      · exact .inl ⟨by simpa using hnames, by simp [argumentTexts, argumentText, Except.bind,
          Except.map, htexts, Argument.text]⟩
      · exact .inr ⟨.literal text :: before, name, after, rfl, by simpa using hb, hn, by
          simp [argumentTexts, argumentText, Except.bind, Except.map, he]⟩
    | captured name =>
      -- the name decides here, or the arguments behind it do
      cases hfind : scope.find? name with
      | none =>
        refine .inr ⟨[], name, rest, rfl, by simp, Scope.find?_eq_none_iff.mp hfind, ?_⟩
        simp [argumentTexts, argumentText, Except.bind, hfind]
      | some b =>
        have hb := Scope.name_of_find? hfind
        have hmem : name ∈ scope.names := by
          by_contra hn
          simp [Scope.find?_eq_none_iff.mpr hn] at hfind
        rcases ih with ⟨hnames, htexts⟩ | ⟨before, name', after, rfl, hb', hn, he⟩
        · refine .inl ⟨?_, by simp [argumentTexts, argumentText, Except.bind, Except.map, hfind,
            htexts, hb, Argument.text]⟩
          intro n hn
          rcases List.mem_cons.mp hn with h | h
          · exact Argument.captured.inj h ▸ hmem
          · exact hnames n h
        · refine .inr ⟨.captured name :: before, name', after, rfl, ?_, hn, by
            simp [argumentTexts, argumentText, Except.bind, Except.map, hfind, he]⟩
          intro n hn
          rcases List.mem_cons.mp hn with h | h
          · exact Argument.captured.inj h ▸ hmem
          · exact hb' n h

/-! ### The statement of a step -/

/-- The statement of an acceptable step, called on a variable. -/
def settled (scope : Scope) (step : Step) (target : String) (signature : Signature) :
    CallStatement where
  prank := if step.call.caller = "" then none else some (scope.reference step.call.caller)
  invocation :=
    target ++ "." ++ signature.name ++
      executionOptions step.call.value step.call.gasLimit signature.payable ++
      "(" ++ ", ".intercalate (step.inputs.map Argument.text) ++ ");"
  slots := slotsOf signature step.outputs
  captures := capturesOf (slotsOf signature step.outputs) signature.returns
  ignoredValue := unsentValue step.call.value signature.payable

/-- **A step is settled, or fails in its first check.** -/
theorem ofStep_cases (scope : Scope) (step : Step) (target : String) :
    (∃ signature, Signature.parse (some step.call.signature) = .ok signature ∧
        Acceptable scope.names step ∧
        ofStep scope step target = .ok (settled scope step target signature)) ∨
      ∃ e, FailsWith scope.names step e ∧ ofStep scope step target = .error e := by
  cases hparse : Signature.parse (some step.call.signature) with
  | error cause => exact .inr ⟨_, .malformed cause hparse, by simp [ofStep, hparse]⟩
  | ok signature =>
    by_cases hlen : step.outputs.length ≤ signature.arity
    · rcases argumentTexts_cases scope step.inputs with
        ⟨hnames, htexts⟩ | ⟨before, name, after, hinputs, hb, hn, he⟩
      · refine .inl ⟨signature, rfl, ⟨⟨signature, hparse, hlen⟩, hnames⟩, ?_⟩
        simp [ofStep, hparse, slotsFor_of_le hlen, argumentsText, htexts, Except.map, settled]
      · refine .inr ⟨_, .unknown signature before after name hparse hlen hinputs hb hn, ?_⟩
        simp [ofStep, hparse, slotsFor_of_le hlen, argumentsText, he, Except.map]
    · have hlen := Nat.lt_of_not_le hlen
      refine .inr ⟨_, .outputs signature hparse hlen, ?_⟩
      simp [ofStep, hparse, slotsFor_of_lt hlen, Signature.raw_of_parse hparse]

theorem ofStep_eq_ok_iff {scope : Scope} {step : Step} {target : String} {c : CallStatement} :
    ofStep scope step target = .ok c ↔
      Acceptable scope.names step ∧ ∃ signature,
        Signature.parse (some step.call.signature) = .ok signature ∧
          c = settled scope step target signature := by
  rcases ofStep_cases scope step target with ⟨signature, hparse, ha, hok⟩ | ⟨e, he, herror⟩
  · rw [hok]
    constructor
    · intro h
      exact ⟨ha, signature, hparse, (Except.ok.inj h).symm⟩
    · rintro ⟨-, signature', hparse', rfl⟩
      rw [Except.ok.inj (hparse.symm.trans hparse')]
  · rw [herror]
    constructor
    · intro h
      cases h
    · rintro ⟨ha, -⟩
      exact absurd ha he.not_acceptable

theorem ofStep_eq_error_iff {scope : Scope} {step : Step} {target : String} {e : Failure} :
    ofStep scope step target = .error e ↔ FailsWith scope.names step e := by
  rcases ofStep_cases scope step target with ⟨signature, hparse, ha, hok⟩ | ⟨e', he, herror⟩
  · rw [hok]
    constructor
    · intro h
      cases h
    · intro h
      exact absurd ha h.not_acceptable
  · rw [herror]
    constructor
    · intro h
      exact Except.error.inj h ▸ he
    · intro h
      rw [he.unique h]

/-! ### The names a statement declares -/

theorem names_capturesOf {slots types : List String} (h : slots.length ≤ types.length) :
    (capturesOf slots types).map (·.name) = slots.filter (· ≠ "") := by
  induction slots generalizing types with
  | nil => simp [capturesOf]
  | cons s ss ih =>
    cases types with
    | nil => simp at h
    | cons t ts =>
      have ih := @ih ts (by simpa using h)
      by_cases hs : s = ""
      · simpa [capturesOf, hs] using ih
      · simpa [capturesOf, hs] using ih

/-- **A settled statement declares the names its step keeps**, in order. -/
theorem names_captures_settled (scope : Scope) {step : Step} (target : String)
    {signature : Signature} (h : step.outputs.length ≤ signature.arity) :
    (settled scope step target signature).captures.map (·.name) = keptNames step := by
  have hlen : (slotsOf signature step.outputs).length ≤ signature.returns.length := by
    unfold slotsOf
    unfold Signature.arity at h ⊢
    split
    · simp
    · simp only [List.length_append, List.length_map, List.length_replicate]
      omega
  rw [settled, names_capturesOf hlen]
  unfold slotsOf keptNames
  split
  · rename_i hnil
    simp [hnil]
  · simp

end CallStatement

end ExploitReplay
