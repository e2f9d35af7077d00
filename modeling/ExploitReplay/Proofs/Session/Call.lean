import ExploitReplay.Proofs.KeptValues
import ExploitReplay.Proofs.ScopeHistory
import ExploitReplay.Proofs.Session.Writing

/-!
# What a call leaves

A call is made of smaller commands: its arguments and its options are written, its caller is chosen,
and its variables are declared, in this order. Of these only the arguments can fail, and the checks
of the signature come before all of them. So a call that fails has not done anything yet, and one
that succeeds has declared its variables, in the order of the values that they keep, and nothing
else.

## Main definitions

* `Scope.Grows bs old new`: a scope has grown by bindings, and everything else is as it was
* `CallStatement.partsOf signature step`: the commands that a call is made of

## Main results

* `runAll_partsOf_of_error`, `runAll_partsOf_of_ok`: what the parts of a call leave
* `runCall_eq_parts`: a call leaves what its parts leave
* `runCall_atomic`: a call leaves everything as it was, or its variables
-/

namespace ExploitReplay

/-! ### Growing scopes -/

/-- A scope has grown by bindings, and everything else is as it was. -/
structure Scope.Grows (bs : List Binding) (old new : Scope) : Prop where
  /-- The bindings are declared in their order. -/
  declared : new = old.defineAll bs
  /-- New names come behind the old ones, in the order of the bindings. -/
  names : new.names =
    old.names ++ ((bs.map (·.name)).eraseDups.filter fun name => name ∉ old.names)
  /-- Of several bindings with one name the last one counts. -/
  last : ∀ b : Binding, b.IsLast bs → new.find? b.name = some b
  /-- A binding of another name is unchanged, in its place. -/
  others : ∀ (k : Nat) (b : Binding), old.bindings[k]? = some b → b.name ∉ bs.map (·.name) →
    new.bindings[k]? = some b

theorem Scope.grows_defineAll (s : Scope) (bs : List Binding) :
    Scope.Grows bs s (s.defineAll bs) where
  declared := rfl
  names := Scope.names_defineAll s bs
  last b hlast := by
    have hfound := Scope.find?_ofHistory_eq_some_iff.mpr ⟨rfl, hlast⟩
    rw [Scope.find?_ofHistory] at hfound
    rw [Scope.find?_defineAll, hfound, Option.some_or]
  others _ _ hplace hne := Scope.getElem?_bindings_defineAll hplace hne

open Command (run runAll runCall runAll_cons_of_ok runAll_cons_of_error)

namespace CallStatement

/-! ### The parts of a call -/

/-- The command that declares a variable for a returned value. A single returned value is declared
by the call itself, and its variable gets no line of its own. -/
def declaring (signature : Signature) (b : Binding) : Command :=
  if signature.arity = 1 then b.command else .declare b.name b.type b.value

/-- The command that chooses the caller, if there is one. -/
def choosing (caller : String) : List Command :=
  if caller = "" then [] else [.prank caller]

/-- The commands that a call is made of, in the order in which they take effect. -/
def partsOf (signature : Signature) (step : Step) : List Command :=
  .arguments step.inputs ::
    .options step.call.value step.call.gasLimit signature.payable ::
    (choosing step.call.caller ++
      (variablesOf signature step.outputs).map (declaring signature))

/-- Variables are declared one after the other. -/
theorem exists_runAll_declaring (signature : Signature) (bs : List Binding) (context : Context) :
    ∃ replies, runAll (bs.map (declaring signature)) context =
      ⟨.ok replies, { context with scope := context.scope.defineAll bs }, []⟩ := by
  induction bs generalizing context with
  | nil => exact ⟨[], by rw [List.map_nil, runAll]; rfl⟩
  | cons b bs ih =>
    -- with a line of its own or without one, the variable is declared
    have hrun : ∃ reply, run (declaring signature b) context =
        ⟨.ok reply, { context with scope := context.scope.define b }, []⟩ := by
      unfold declaring
      split
      · exact ⟨b.reply, by rw [Binding.command, run]; rfl⟩
      · exact ⟨.text (Solidity.variableLine context.indent b), by rw [run]; rfl⟩
    obtain ⟨reply, hreply⟩ := hrun
    obtain ⟨replies, hrest⟩ := ih { context with scope := context.scope.define b }
    refine ⟨reply :: replies, ?_⟩
    rw [List.map_cons, runAll_cons_of_ok hreply, hrest]
    rfl

/-- The choice of a caller changes nothing. -/
theorem exists_runAll_choosing_append (caller : String) {cs : List Command}
    {context left : Context} {replies : List Reply}
    (h : runAll cs context = ⟨.ok replies, left, []⟩) :
    ∃ replies', runAll (choosing caller ++ cs) context = ⟨.ok replies', left, []⟩ := by
  unfold choosing
  split
  · exact ⟨replies, h⟩
  · have hrun : run (.prank caller) context =
        ⟨.ok (.text (Solidity.prankLine context.indent (context.scope.reference caller))),
          context, []⟩ := by
      rw [run]
      rfl
    refine ⟨.text (Solidity.prankLine context.indent (context.scope.reference caller)) :: replies,
      ?_⟩
    rw [List.singleton_append, runAll_cons_of_ok hrun, h]
    rfl

section Parts

variable (signature : Signature) {step : Step} {context : Context}

/-- **Without its arguments nothing of a call is done**, as they are written first. -/
theorem runAll_partsOf_of_error {e : Failure}
    (h : argumentsText context.scope step.inputs = .error e) :
    runAll (partsOf signature step) context = ⟨.error e, context, []⟩ := by
  have hrun : run (.arguments step.inputs) context = ⟨.error e, context, []⟩ := by
    rw [run, h]
    rfl
  exact runAll_cons_of_error hrun _

/-- **With its arguments all of a call is done**: its variables are declared, and a value that is
not sent is told. -/
theorem runAll_partsOf_of_ok {arguments : String}
    (h : argumentsText context.scope step.inputs = .ok arguments) :
    ∃ replies, runAll (partsOf signature step) context =
      ⟨.ok replies,
        { context with scope := context.scope.defineAll (variablesOf signature step.outputs) },
        (unsentValue step.call.value signature.payable).toList.map .ignoredValue⟩ := by
  have harguments : run (.arguments step.inputs) context =
      ⟨.ok (.text arguments), context, []⟩ := by
    rw [run, h]
    rfl
  have hoptions : run (.options step.call.value step.call.gasLimit signature.payable) context =
      ⟨.ok (.text (executionOptions step.call.value step.call.gasLimit signature.payable)),
        context, (unsentValue step.call.value signature.payable).toList.map .ignoredValue⟩ := by
    rw [run]
  obtain ⟨declared, hdeclared⟩ :=
    exists_runAll_declaring signature (variablesOf signature step.outputs) context
  obtain ⟨replies, hrest⟩ := exists_runAll_choosing_append step.call.caller hdeclared
  refine ⟨.text arguments ::
    .text (executionOptions step.call.value step.call.gasLimit signature.payable) :: replies, ?_⟩
  rw [partsOf, runAll_cons_of_ok harguments, runAll_cons_of_ok hoptions, hrest]
  dsimp only
  rw [List.nil_append, List.append_nil]
  rfl

end Parts

/-! ### The whole call -/

/-- A call that is settled declares its variables. -/
theorem runCall_settled {context : Context} {step : Step} {signature : Signature}
    (hparse : Signature.parse (some step.call.signature) = .ok signature)
    (ha : Acceptable context.scope.names step) (target : String) :
    runCall context step target =
      ⟨.ok (.text ((settled context.scope step target signature).render context.indent)),
        { context with scope := context.scope.defineAll (variablesOf signature step.outputs) },
        (unsentValue step.call.value signature.payable).toList.map .ignoredValue⟩ := by
  have hfew := ha.length_outputs_le hparse
  have hok : ofStep context.scope step target =
      .ok (settled context.scope step target signature) :=
    ofStep_eq_ok_iff.mpr ⟨ha, signature, hparse, rfl⟩
  unfold runCall
  rw [hok]
  dsimp only
  rw [declareIn, captures_settled _ _ hfew]
  rfl

/-- A call that fails a check leaves everything as it was. -/
theorem runCall_failed {context : Context} {step : Step} {e : Failure}
    (h : FailsWith context.scope.names step e) (target : String) :
    runCall context step target = ⟨.error e, context, []⟩ := by
  unfold runCall
  rw [ofStep_eq_error_iff.mpr h]

/-- **A call leaves what its parts leave**, once its signature has been checked. -/
theorem runCall_eq_parts {signature : Signature} {step : Step}
    (hparse : Signature.parse (some step.call.signature) = .ok signature)
    (hfew : step.outputs.length ≤ signature.arity) (context : Context) (target : String) :
    (runCall context step target).state = (runAll (partsOf signature step) context).state ∧
      (runCall context step target).warnings =
        (runAll (partsOf signature step) context).warnings ∧
      ∀ e, (runCall context step target).result = .error e ↔
        (runAll (partsOf signature step) context).result = .error e := by
  rcases argumentTexts_cases context.scope step.inputs with
    ⟨hnames, htexts⟩ | ⟨before, name, after, hinputs, hbefore, hname, herror⟩
  · have harguments : argumentsText context.scope step.inputs =
        .ok (", ".intercalate (step.inputs.map Argument.text)) := by
      rw [argumentsText, htexts]
      rfl
    obtain ⟨replies, hparts⟩ := runAll_partsOf_of_ok signature harguments
    rw [hparts, runCall_settled hparse ⟨⟨signature, hparse, hfew⟩, hnames⟩]
    refine ⟨rfl, rfl, fun e => ⟨?_, ?_⟩⟩
    · intro h
      cases h
    · intro h
      cases h
  · have harguments : argumentsText context.scope step.inputs =
        .error (.unknownVariable name) := by
      rw [argumentsText, herror]
      rfl
    have hfails : FailsWith context.scope.names step (.unknownVariable name) :=
      .unknown signature before after name hparse hfew hinputs hbefore hname
    rw [runAll_partsOf_of_error signature harguments, runCall_failed hfails]
    exact ⟨rfl, rfl, fun e => ⟨fun h => by cases h; rfl, fun h => by cases h; rfl⟩⟩

/-- **A call leaves everything as it was, or its variables.** If one of its checks fails, nothing
has been declared, the depth is the same, and nothing has been warned of. Otherwise the scope has
grown by the variables of the values that are kept, in their order, each without a value and with
the type at its place; everything else is as it was. In both cases the call leaves what its parts
leave, run one after the other. -/
theorem runCall_atomic (context : Context) (step : Step) (target : String) :
    ((∃ e, FailsWith context.scope.names step e ∧
        runCall context step target = ⟨.error e, context, []⟩) ∨
      ∃ signature text left,
        Signature.parse (some step.call.signature) = .ok signature ∧
        Acceptable context.scope.names step ∧
        Scope.Grows (variablesOf signature step.outputs) context.scope left ∧
        runCall context step target =
          ⟨.ok (.text text), { context with scope := left },
            (unsentValue step.call.value signature.payable).toList.map .ignoredValue⟩) ∧
    ∀ signature, Signature.parse (some step.call.signature) = .ok signature →
      step.outputs.length ≤ signature.arity →
      (runCall context step target).state = (runAll (partsOf signature step) context).state ∧
      (runCall context step target).warnings =
        (runAll (partsOf signature step) context).warnings ∧
      ∀ e, (runCall context step target).result = .error e ↔
        (runAll (partsOf signature step) context).result = .error e := by
  refine ⟨?_, fun signature hparse hfew => runCall_eq_parts hparse hfew context target⟩
  rcases ofStep_cases context.scope step target with
    ⟨signature, hparse, ha, -⟩ | ⟨e, hfails, -⟩
  · exact .inr ⟨signature, _, _, hparse, ha, Scope.grows_defineAll _ _,
      runCall_settled hparse ha target⟩
  · exact .inl ⟨e, hfails, runCall_failed hfails target⟩

end CallStatement

end ExploitReplay
