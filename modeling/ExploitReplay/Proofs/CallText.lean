import ExploitReplay.Proofs.Captures
import ExploitReplay.Proofs.Session.Call

/-!
# How a call is written

A call is written on lines of its own. The call itself comes last, and the choice of its caller
right before it, so that it is this call that is made by the caller. What stands in front of these
two are the declarations of variables, in the order of the values that they keep: none if no value
is kept, none if the call declares its only value itself, and otherwise one for every value that is
kept.

## Main definitions

* `CallStatement.slotText outputs k`: what stands in a slot of a call
* `CallStatement.Keeps signature outputs declared assigned kept`: how a call keeps returned values
* `CallStatement.Writes scope step target signature g kept`: a group is that of a call

## Main results

* `CallGroup.exists_prankLine_iff`: whether a caller is chosen right before a call
* `CallStatement.keeps_settled`: how a settled statement keeps returned values
* `CallStatement.runCall_written`: how a call that succeeds is written
-/

namespace ExploitReplay

open Command (runCall)

/-! ### Declarations and choices of a caller -/

namespace Solidity

/-- The declaration of a variable of the catalog does not choose a caller. -/
theorem variableLine_ne_prankLine (i : Indent) (reference : String) {b : Binding} {type : String}
    (hknown : ValueType.isKnown type = true) (htype : b.type = ValueType.declared type) :
    variableLine i b ≠ prankLine i reference := by
  -- the choice of a caller starts with a letter that no type of the catalog starts with
  have hall : ∀ t ∈ ValueType.catalog, (ValueType.declared t).toList.head? ∉ [none, some 'v'] := by
    decide +kernel
  have hfirst := hall type (by simpa [ValueType.isKnown] using hknown)
  rw [← htype] at hfirst
  intro heq
  have htexts := congrArg String.toList ((String.append_right_inj _).mp heq)
  cases hletters : b.type.toList with
  | nil => simp [hletters] at hfirst
  | cons c cs =>
    obtain rfl : c = 'v' := by
      simpa [hletters] using congrArg List.head? htexts
    simp [hletters] at hfirst

end Solidity

/-- **Whether a caller is chosen right before a call**: just the line of the choice does it, as
declarations do not. -/
theorem CallGroup.exists_prankLine_iff (i : Indent) {g : CallGroup}
    (h : ∀ b ∈ g.declared, ∃ type, ValueType.isKnown type = true ∧
      b.type = ValueType.declared type) :
    (∃ reference, (g.lines i).dropLast.getLast? = some (Solidity.prankLine i reference)) ↔
      g.prank.isSome := by
  rw [CallGroup.lines, List.dropLast_concat, List.getLast?_append]
  cases hprank : g.prank with
  | some reference => simp
  | none =>
    refine iff_of_false ?_ (by simp)
    rintro ⟨reference, hlast⟩
    -- the line would be the last declaration
    obtain ⟨b, hb, hline⟩ := List.mem_map.mp (List.mem_of_getLast? hlast)
    obtain ⟨type, hknown, htype⟩ := h b hb
    exact Solidity.variableLine_ne_prankLine i reference hknown htype hline

namespace CallStatement

variable {signature : Signature} {outputs : List String}

/-! ### How values are kept -/

/-- What stands in the slot at a place: the name for its value, or a blank. -/
def slotText (outputs : List String) (k : Nat) : String :=
  if keptName outputs k = "" then " " else keptName outputs k

/-- How a call keeps returned values: the variables that are declared on lines before it, what it is
assigned to, and all variables that are declared. -/
inductive Keeps (signature : Signature) (outputs : List String) :
    List Binding → Option String → List Binding → Prop
  /-- Without names nothing is declared. -/
  | nothing (blank : ∀ k, keptName outputs k = "") : Keeps signature outputs [] none []
  /-- The only value is declared by the call. -/
  | single (type : String) (returns : signature.returns = [type])
      (kept : keptName outputs 0 ≠ "") :
      Keeps signature outputs [] (some (ValueType.declared type ++ " " ++ keptName outputs 0))
        [⟨keptName outputs 0, "", ValueType.declared type⟩]
  /-- One or more of several values are declared before the call, which has a slot for each of
  them. -/
  | several (arity : signature.arity ≠ 1) (kept : ∃ k, keptName outputs k ≠ "") :
      Keeps signature outputs (variablesOf signature outputs)
        (some ("(" ++ ", ".intercalate ((List.range signature.arity).map (slotText outputs)) ++
          ")"))
        (variablesOf signature outputs)

theorem type_of_mem_variablesOf {b : Binding} (h : b ∈ variablesOf signature outputs) :
    ∃ type ∈ signature.returns, b.type = ValueType.declared type := by
  obtain ⟨k, -, hk⟩ := List.mem_filterMap.mp h
  unfold variableAt at hk
  split at hk
  · cases hk
  · obtain ⟨type, htype, rfl⟩ := Option.map_eq_some_iff.mp hk
    exact ⟨type, List.mem_of_getElem? htype, rfl⟩

/-- Variables that are declared before a call have types of the catalog. -/
theorem Keeps.isKnown_of_mem {text : String} (hparse : Signature.parse (some text) = .ok signature)
    {declared kept : List Binding} {assigned : Option String}
    (h : Keeps signature outputs declared assigned kept) {b : Binding} (hb : b ∈ declared) :
    ∃ type, ValueType.isKnown type = true ∧ b.type = ValueType.declared type := by
  cases h with
  | nothing => cases hb
  | single => cases hb
  | several =>
    obtain ⟨type, hmem, htype⟩ := type_of_mem_variablesOf hb
    exact ⟨type, Signature.isKnown_of_mem_returns hparse hmem, htype⟩

/-- A statement without variables declares nothing, and the call is not assigned. -/
theorem declaredBefore_assigned_of_nil {c : CallStatement} (h : c.captures = []) :
    c.declaredBefore = [] ∧ c.assigned = none := by
  rw [declaredBefore, assigned, assignment, h]
  exact ⟨rfl, rfl⟩

/-- A single slot is declared by the call that is assigned to it. -/
theorem declaredBefore_assigned_of_single {c : CallStatement} {b : Binding} {slot : String}
    (hcaptures : c.captures = [b]) (hslots : c.slots = [slot]) :
    c.declaredBefore = [] ∧ c.assigned = some (b.type ++ " " ++ b.name) := by
  rw [declaredBefore, assigned, assignment, hcaptures, hslots]
  exact ⟨rfl, rfl⟩

/-- The variables of several slots are declared before the call, which is assigned to all slots. -/
theorem declaredBefore_assigned_of_several {c : CallStatement} (hcaptures : c.captures ≠ [])
    (hslots : c.slots.length ≠ 1) :
    c.declaredBefore = c.captures ∧ c.assigned = some (tuple c.slots) := by
  cases hbindings : c.captures with
  | nil => exact absurd hbindings hcaptures
  | cons b bs =>
    rw [declaredBefore, assigned, assignment, hbindings]
    rcases hall : c.slots with _ | ⟨first, _ | ⟨second, rest⟩⟩
    · cases bs <;> exact ⟨rfl, rfl⟩
    · exact absurd (congrArg List.length hall) hslots
    · cases bs <;> exact ⟨rfl, rfl⟩

/-- The only value of a signature has the only variable. -/
theorem variablesOf_of_single {type : String} (hreturns : signature.returns = [type])
    (hkept : keptName outputs 0 ≠ "") :
    variablesOf signature outputs = [⟨keptName outputs 0, "", ValueType.declared type⟩] := by
  simp [variablesOf, variableAt, Signature.arity, hreturns, hkept]

/-- **How a settled statement keeps returned values.** -/
theorem keeps_settled (scope : Scope) {step : Step} (target : String)
    (h : step.outputs.length ≤ signature.arity) :
    Keeps signature step.outputs (settled scope step target signature).declaredBefore
      (settled scope step target signature).assigned (variablesOf signature step.outputs) := by
  have hcaptures : (settled scope step target signature).captures =
      variablesOf signature step.outputs := captures_settled scope target h
  by_cases hblank : ∀ k, keptName step.outputs k = ""
  · rw [(variablesOf_eq_nil_iff h).mpr hblank] at hcaptures ⊢
    obtain ⟨hdeclared, hassigned⟩ := declaredBefore_assigned_of_nil hcaptures
    rw [hdeclared, hassigned]
    exact .nothing hblank
  · obtain ⟨k, hk⟩ := not_forall.mp hblank
    have hlt : k < step.outputs.length :=
      Nat.lt_of_not_le fun hle => hk (keptName_of_length_le hle)
    have hne : step.outputs ≠ [] := List.ne_nil_of_length_pos (Nat.zero_lt_of_lt hlt)
    have hslots : (settled scope step target signature).slots =
        (List.range signature.arity).map (keptName step.outputs) := slotsOf_eq_map_keptName hne h
    by_cases harity : signature.arity = 1
    · obtain ⟨type, hreturns⟩ := List.length_eq_one_iff.mp harity
      -- there is one name only, so it is the one that is kept
      obtain rfl : k = 0 := by omega
      rw [variablesOf_of_single hreturns hk] at hcaptures ⊢
      rw [harity] at hslots
      obtain ⟨hdeclared, hassigned⟩ := declaredBefore_assigned_of_single hcaptures hslots
      rw [hdeclared, hassigned]
      exact .single type hreturns hk
    · have hlength : (settled scope step target signature).slots.length ≠ 1 := by
        rw [hslots, List.length_map, List.length_range]
        exact harity
      have hkept : (settled scope step target signature).captures ≠ [] := by
        rw [hcaptures]
        exact fun hnil => hblank ((variablesOf_eq_nil_iff h).mp hnil)
      obtain ⟨hdeclared, hassigned⟩ := declaredBefore_assigned_of_several hkept hlength
      rw [hdeclared, hassigned, hcaptures, hslots, tuple, List.map_map]
      exact .several harity ⟨k, hk⟩

/-! ### The text of a call -/

/-- The group is that of the call of a step on a variable, and `kept` is what the call declares. -/
structure Writes (scope : Scope) (step : Step) (target : String) (signature : Signature)
    (g : CallGroup) (kept : List Binding) : Prop where
  parse : Signature.parse (some step.call.signature) = .ok signature
  /-- The returned values are kept in the slots and variables at their places. -/
  keeps : Keeps signature step.outputs g.declared g.assigned kept
  prank : g.prank =
    if step.call.caller = "" then none else some (scope.reference step.call.caller)
  contract : g.contract = target
  message : g.message =
    signature.name ++ executionOptions step.call.value step.call.gasLimit signature.payable ++
      "(" ++ ", ".intercalate (step.inputs.map Argument.text) ++ ")"

theorem writes_groupOf (scope : Scope) {step : Step} (target : String)
    (hparse : Signature.parse (some step.call.signature) = .ok signature)
    (hfew : step.outputs.length ≤ signature.arity) :
    Writes scope step target signature (groupOf scope step target signature)
      (variablesOf signature step.outputs) :=
  ⟨hparse, keeps_settled scope target hfew, rfl, rfl, rfl⟩

/-- **How a call that succeeds is written.** The call comes last, and right before it the choice of
its caller, just if it has one; the lines in front of these declare the variables that the call does
not declare itself. Nothing is declared but the variables of the values that are kept. -/
theorem runCall_written {context : Context} {step : Step} {target : String} {reply : Reply}
    (h : (runCall context step target).result = .ok reply) :
    ∃ signature g kept, Writes context.scope step target signature g kept ∧
      reply = .text (g.text context.indent) ∧
      (runCall context step target).state =
        { context with scope := context.scope.defineAll kept } ∧
      ((∃ reference, (g.lines context.indent).dropLast.getLast? =
          some (Solidity.prankLine context.indent reference)) ↔
        step.call.caller ≠ "") := by
  rcases ofStep_cases context.scope step target with
    ⟨signature, hparse, ha, hok⟩ | ⟨e, hfails, herror⟩
  · have hwrites := writes_groupOf context.scope target hparse (ha.length_outputs_le hparse)
    rw [runCall_settled hparse ha] at h ⊢
    refine ⟨signature, _, _, hwrites, ?_, rfl, ?_⟩
    · rw [← render_settled]
      exact (Except.ok.inj h).symm
    · rw [CallGroup.exists_prankLine_iff _ fun b => hwrites.keeps.isKnown_of_mem hparse,
        hwrites.prank]
      by_cases hcaller : step.call.caller = "" <;> simp [hcaller]
  · rw [runCall_failed hfails] at h
    cases h

/-- Two values are understood; the first one is kept, and the call is made by an account. -/
theorem runCall_written_quote :
    let step := { quoteStep with call := { quoteStep.call with caller := "0xB" } }
    ∃ reply signature g kept,
      (runCall {} step "contract1").result = .ok reply ∧
        Writes {} step "contract1" signature g kept ∧ reply = .text (g.text {}) ∧
        g.text {} = "uint256 a;\nvm.prank(0xB);\n(a,  ) = contract1.quote();" ∧
        ∃ reference, (g.lines {}).dropLast.getLast? = some (Solidity.prankLine {} reference) := by
  intro step
  have hmapped : (runCall {} step "contract1").result.map Reply.written =
      .ok "uint256 a;\nvm.prank(0xB);\n(a,  ) = contract1.quote();" := by decide +kernel
  cases hreply : (runCall {} step "contract1").result with
  | error e =>
    rw [hreply] at hmapped
    cases hmapped
  | ok reply =>
    obtain ⟨signature, g, kept, hwrites, rfl, -, hcaller⟩ := runCall_written hreply
    rw [hreply] at hmapped
    exact ⟨_, signature, g, kept, rfl, hwrites, rfl, Except.ok.inj hmapped,
      hcaller.mpr (by decide)⟩

end CallStatement

end ExploitReplay
