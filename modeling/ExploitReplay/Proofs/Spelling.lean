import ExploitReplay.Proofs.Members

/-!
# The two spellings of a document

The fields of a document have two spellings: that of the sequence editor, where the caller and the
contract of a call are objects of their own, and a flat one. A draft says what a document holds
without saying how it is spelled: every field is there with any value, or it is not there. A document
that keeps to one spelling is read as its draft, so the spelling makes no difference.

## Main definitions

* `Spelling`, `Key`: the two spellings, and a key that differs between them
* `Draft`: the steps and the settings of a document, apart from their spelling
* `Draft.read d`: the exploit that a draft describes
* `Draft.Spelled s d v`: the document holds what the draft says, in one spelling
* `Draft.written s d`: the document that holds just that

## Main results

* `callOf_of_spelled`, `stepOf_of_spelled`, `fundingOf_of_spelled`: each part is read as its draft
* `spelled_written`: every draft can be written in both spellings
* `ofJson_spellings`: the spelling makes no difference
-/

namespace ExploitReplay.Exploit

/-! ### Keys -/

/-- The spelling of the sequence editor, and the flat one. -/
inductive Spelling where
  | editor
  | flat
deriving DecidableEq, Repr

/-- The other spelling. -/
def Spelling.other : Spelling → Spelling
  | .editor => .flat
  | .flat => .editor

/-- A key that has two spellings. -/
structure Key where
  editor : String
  flat : String
deriving DecidableEq, Repr

namespace Key

/-- The key in a spelling. -/
def spelled (k : Key) : Spelling → String
  | .editor => k.editor
  | .flat => k.flat

def inputs : Key := ⟨"inputMappings", "input_mappings"⟩

def outputs : Key := ⟨"outputMappings", "output_mappings"⟩

def kind : Key := ⟨"type", "kind"⟩

def funds : Key := ⟨"fundsToCaller", "funds_to_caller"⟩

def grants : Key := ⟨"tokensToCaller", "tokens_to_caller"⟩

def always : Key := ⟨"alwaysFundCaller", "always_fund_caller"⟩

/-- The fields have a value under the key of one spelling, and none under that of the other. -/
structure Holds (s : Spelling) (fields : Fields) (k : Key) (value : Option Json) : Prop where
  here : Json.field? fields (k.spelled s) = value
  other : Json.field? fields (k.spelled s.other) = none

/-- **A key is read alike in both spellings.** -/
theorem Holds.either_eq {s : Spelling} {fields : Fields} {k : Key} {value : Option Json}
    (h : Holds s fields k value) : either fields k.editor k.flat = value.getD .null := by
  obtain ⟨hhere, hother⟩ := h
  cases s with
  | editor =>
    have heditor : Json.field? fields k.editor = value := hhere
    have hflat : Json.field? fields k.flat = none := hother
    rw [either, heditor, hflat, Option.getD_none]
  | flat =>
    have hflat : Json.field? fields k.flat = value := hhere
    have heditor : Json.field? fields k.editor = none := hother
    rw [either, heditor, hflat, Option.getD_none]

end Key

/-! ### Drafts -/

namespace Draft

/-- What a draft says of a call. -/
structure Call where
  caller : Option Json
  target : Option Json
  signature : Option Json
  value : Option Json
  gasLimit : Option Json

/-- What a draft says of an argument: its kind and its value, or any value in its place. -/
inductive Input where
  | mapping (kind value : Option Json)
  | any (v : Json)

/-- What a draft says of the arguments of a step: a list of them, or any value in its place. -/
inductive Inputs where
  | listed (items : List Input)
  | any (v : Json)

/-- What a draft says of a step. -/
structure Step where
  call : Call
  inputs : Option Inputs
  outputs : Option Json

/-- What a draft says of the settings. -/
structure Settings where
  funds : Option Json
  grants : Option Json
  always : Option Json

end Draft

/-- What a document holds, apart from its spelling. -/
structure Draft where
  steps : List Draft.Step
  settings : Option Draft.Settings

namespace Draft

/-! ### How a draft is read -/

/-- The call of step `i`. -/
def Call.read (i : Nat) (c : Call) : Except Rejection ExploitReplay.Call :=
  RawCall.check
    { caller := c.caller.getD .null
      target := c.target.getD .null
      signature := c.signature.getD .null
      value := c.value.getD .null
      gasLimit := c.gasLimit.getD .null } i

/-- Argument `j` of step `i`. -/
def Input.read (i j : Nat) : Input → Except Rejection Argument
  | .mapping kind value =>
    match argumentOf? (kind.getD .null) (value.getD (.text "")).display with
    | some a => .ok a
    | none => .error (.malformed (.input i j) (.unknownInputKind (kind.getD .null)))
  | .any v => inputOf i j v

/-- The arguments that are listed; none without a list, or for a vacant value in its place. -/
def Step.listed? (d : Step) : Option (List Input) :=
  match d.inputs with
  | none => some []
  | some (.listed items) => some items
  | some (.any v) => (listOrEmpty? v).map (·.map .any)

/-- Step `i`. -/
def Step.read (i : Nat) (d : Step) : Except Rejection ExploitReplay.Step :=
  match d.listed?, listOrEmpty? (d.outputs.getD .null) with
  | some inputs, some outputs =>
    (d.call.read i).bind fun c =>
      (eachFrom (Input.read i) 0 inputs).map fun as => ⟨c, as, outputs.map outputOf⟩
  | _, _ => .error (.malformed (.step i) .mappingsNotLists)

/-- The funding that the settings describe. -/
def Settings.read (d : Settings) : Except Rejection Funding :=
  match grantItems? (d.grants.getD .null) with
  | none => .error .grantsNotIterable
  | some items =>
    (grantsOf 0 items).map fun grants =>
      { amount := optionalText (d.funds.getD .null)
        grants := grants
        always := !(d.always.getD .null).isVacant }

/-- The exploit that a draft describes. -/
def read (d : Draft) : Except Rejection Exploit :=
  (eachFrom Step.read 0 d.steps).bind fun ss =>
    ((d.settings.map Settings.read).getD (.ok {})).map fun f => ⟨ss, f⟩

/-! ### How a draft is spelled -/

/-- The value holds the call. -/
inductive Call.Spelled : Spelling → Call → Json → Prop
  | editor {c : Call} {fields info contract : Fields}
      (hinfo : Json.field? fields "callInfo" = some (.object info))
      (hcontract : Json.field? fields "contract" = some (.object contract))
      (caller : Json.field? info "from" = c.caller)
      (target : Json.field? contract "address" = c.target)
      (signature : Json.field? contract "functionString" = c.signature)
      (value : Json.field? info "value" = c.value)
      (gasLimit : Json.field? info "gasLimit" = c.gasLimit) : Call.Spelled .editor c (.object fields)
  | flat {c : Call} {fields : Fields}
      (hinfo : Json.field? fields "callInfo" = none)
      (hcontract : Json.field? fields "contract" = none)
      (caller : Json.field? fields "caller_address" = c.caller)
      (target : Json.field? fields "target_address" = c.target)
      (signature : Json.field? fields "signature" = c.signature)
      (value : Json.field? fields "value" = c.value)
      (gasLimit : Json.field? fields "gas_limit" = c.gasLimit) : Call.Spelled .flat c (.object fields)

/-- The value holds the argument. -/
inductive Input.Spelled (s : Spelling) : Input → Json → Prop
  | mapping {kind value : Option Json} {fields : Fields} (hkind : Key.kind.Holds s fields kind)
      (hvalue : Json.field? fields "value" = value) :
      Input.Spelled s (.mapping kind value) (.object fields)
  | any (v : Json) : Input.Spelled s (.any v) v

/-- The value holds the arguments, or there is no value. -/
inductive Inputs.Spelled (s : Spelling) : Option Inputs → Option Json → Prop
  | none : Inputs.Spelled s none none
  | listed {items : List Input} {values : List Json}
      (each : List.Forall₂ (Input.Spelled s) items values) :
      Inputs.Spelled s (some (.listed items)) (some (.list values))
  | any (v : Json) : Inputs.Spelled s (some (.any v)) (some v)

/-- The value holds the step. -/
inductive Step.Spelled (s : Spelling) (d : Step) : Json → Prop
  | step {fields : Fields} {call : Json} {inputs : Option Json}
      (hcall : Json.field? fields "call" = some call) (spelled : d.call.Spelled s call)
      (hinputs : Key.inputs.Holds s fields inputs) (arguments : Inputs.Spelled s d.inputs inputs)
      (houtputs : Key.outputs.Holds s fields d.outputs) : Step.Spelled s d (.object fields)

/-- The value holds the settings. -/
inductive Settings.Spelled (s : Spelling) (d : Settings) : Json → Prop
  | settings {fields : Fields} (funds : Key.funds.Holds s fields d.funds)
      (grants : Key.grants.Holds s fields d.grants)
      (always : Key.always.Holds s fields d.always) : Settings.Spelled s d (.object fields)

/-- The document holds what the draft says. Without settings it may be the list of its steps. -/
inductive Spelled (s : Spelling) (d : Draft) : Json → Prop
  | settled {fields : Fields} {items : List Json} {settings : Json} {given : Settings}
      (hsteps : Json.field? fields "sequence" = some (.list items))
      (each : List.Forall₂ (Step.Spelled s) d.steps items)
      (hsettings : Json.field? fields "settings" = some settings) (hgiven : d.settings = some given)
      (spelled : given.Spelled s settings) : Spelled s d (.object fields)
  | unsettled {fields : Fields} {items : List Json}
      (hsteps : Json.field? fields "sequence" = some (.list items))
      (each : List.Forall₂ (Step.Spelled s) d.steps items)
      (hsettings : Json.field? fields "settings" = none) (hgiven : d.settings = none) :
      Spelled s d (.object fields)
  | bare {items : List Json} (each : List.Forall₂ (Step.Spelled s) d.steps items)
      (hgiven : d.settings = none) : Spelled s d (.list items)

/-! ### Every part is read as its draft -/

variable {s : Spelling}

theorem callOf_of_spelled {c : Call} {v : Json} (h : c.Spelled s v) (i : Nat) :
    callOf i v = c.read i := by
  cases h with
  | editor hinfo hcontract caller target signature value gasLimit =>
    simp [callOf, rawCall, Json.hasField, fieldOrNull, hinfo, hcontract, objectOrEmpty?, nestedCall,
      Except.bind, Call.read, caller, target, signature, value, gasLimit]
  | flat hinfo hcontract caller target signature value gasLimit =>
    simp [callOf, rawCall, Json.hasField, fieldOrNull, hinfo, hcontract, flatCall, Except.bind,
      Call.read, caller, target, signature, value, gasLimit]

theorem inputOf_of_spelled {d : Input} {v : Json} (h : d.Spelled s v) (i j : Nat) :
    inputOf i j v = d.read i j := by
  cases h with
  | @mapping kind value fields hkind hvalue =>
    have hkind : either fields "type" "kind" = kind.getD .null := hkind.either_eq
    cases hargument : argumentOf? (kind.getD .null) (value.getD (.text "")).display <;>
      simp only [inputOf, hkind, hvalue, Input.read, hargument]
  | any => rfl

/-- What is listed as arguments is one value for every argument of the draft. -/
theorem listOrEmpty?_of_spelled {d : Step} {inputs : Option Json}
    (h : Inputs.Spelled s d.inputs inputs) :
    d.listed? = none ∧ listOrEmpty? (inputs.getD .null) = none ∨
      ∃ items values, d.listed? = some items ∧ listOrEmpty? (inputs.getD .null) = some values ∧
        List.Forall₂ (Input.Spelled s) items values := by
  -- the draft and the value are listed, or hold the same value, or both say nothing
  unfold Step.listed?
  revert h
  generalize d.inputs = given
  intro h
  cases h with
  | none => exact .inr ⟨[], [], rfl, rfl, .nil⟩
  | listed each => exact .inr ⟨_, _, rfl, rfl, each⟩
  | any v =>
    simp only [Option.getD_some]
    cases listOrEmpty? v with
    | none => exact .inl ⟨rfl, rfl⟩
    | some values =>
      refine .inr ⟨values.map .any, values, rfl, rfl, ?_⟩
      rw [List.forall₂_map_left_iff, List.forall₂_same]
      intro w _
      exact .any w

/-- **A step is read as its draft**, in both spellings. -/
theorem stepOf_of_spelled {d : Step} {v : Json} (h : d.Spelled s v) (i : Nat) :
    stepOf i v = d.read i := by
  cases h with
  | @step fields call inputs hcall spelled hinputs arguments houtputs =>
    have hinputs : either fields "inputMappings" "input_mappings" = inputs.getD .null :=
      hinputs.either_eq
    have houtputs : either fields "outputMappings" "output_mappings" = d.outputs.getD .null :=
      houtputs.either_eq
    simp only [stepOf, hcall, hinputs, houtputs, Step.read]
    rcases listOrEmpty?_of_spelled arguments with ⟨hnone, hnone'⟩ | ⟨items, values, hi, hv, each⟩
    · simp only [hnone, hnone']
    · -- every argument is read as its draft, whatever its number
      have hread : ∀ j, inputsOf i j values = eachFrom (Input.read i) j items := by
        intro j
        rw [inputsOf_eq_eachFrom]
        refine (eachFrom_congr ?_ j).symm
        exact each.imp fun _ _ hspelled n => (inputOf_of_spelled hspelled i n).symm
      simp only [hi, hv, callOf_of_spelled spelled]
      cases listOrEmpty? (d.outputs.getD .null) with
      | none => rfl
      | some outputs => simp only [hread]

theorem stepsOf_of_spelled {steps : List Step} {items : List Json}
    (h : List.Forall₂ (Step.Spelled s) steps items) :
    stepsOf 0 items = eachFrom Step.read 0 steps := by
  rw [stepsOf_eq_eachFrom]
  refine (eachFrom_congr ?_ 0).symm
  exact h.imp fun _ _ hspelled n => (stepOf_of_spelled hspelled n).symm

/-- **Settings are read as their draft**, in both spellings. -/
theorem fundingOf_of_spelled {d : Settings} {v : Json} (h : d.Spelled s v) :
    fundingOf v = d.read := by
  cases h with
  | @settings fields funds grants always =>
    have hfunds : either fields "fundsToCaller" "funds_to_caller" = d.funds.getD .null :=
      funds.either_eq
    have hgrants : either fields "tokensToCaller" "tokens_to_caller" = d.grants.getD .null :=
      grants.either_eq
    have halways : either fields "alwaysFundCaller" "always_fund_caller" = d.always.getD .null :=
      always.either_eq
    cases hitems : grantItems? (d.grants.getD .null) <;>
      simp only [fundingOf, fundingOfFields, hfunds, hgrants, halways, Settings.read, hitems]

/-- **A document is read as its draft**, in both spellings. -/
theorem ofJson_of_spelled {d : Draft} {v : Json} (h : d.Spelled s v) : ofJson v = d.read := by
  cases h with
  | settled hsteps each hsettings hgiven spelled =>
    simp [ofJson, hsteps, fieldOrNull, hsettings, ofParts, stepsOf_of_spelled each,
      fundingOf_of_spelled spelled, read, hgiven]
  | unsettled hsteps each hsettings hgiven =>
    simp [ofJson, hsteps, fieldOrNull, hsettings, ofParts, stepsOf_of_spelled each, fundingOf, read,
      hgiven]
  | bare each hgiven =>
    simp [ofJson, ofParts, stepsOf_of_spelled each, fundingOf, read, hgiven]

/-! ### Every draft can be written -/

/-- The fields that are there. -/
def present (entries : List (String × Option Json)) : Fields :=
  entries.filterMap fun (key, value) => value.map (key, ·)

theorem field?_present_of_not_mem {entries : List (String × Option Json)} {key : String}
    (h : key ∉ entries.map Prod.fst) : Json.field? (present entries) key = none := by
  induction entries with
  | nil => rfl
  | cons entry rest ih =>
    obtain ⟨k, value⟩ := entry
    obtain ⟨hne, hrest⟩ := not_or.mp (mt List.mem_cons.mpr h)
    have ih := ih hrest
    cases value with
    | none => exact ih
    | some v =>
      change Json.field? ((k, v) :: present rest) key = none
      rw [Json.field?_cons, if_neg hne, ih]

/-- A field that is there is found under its key. -/
theorem field?_present {entries : List (String × Option Json)}
    (hkeys : (entries.map Prod.fst).Nodup) {key : String} {value : Option Json}
    (h : (key, value) ∈ entries) : Json.field? (present entries) key = value := by
  induction entries with
  | nil => cases h
  | cons entry rest ih =>
    obtain ⟨k, w⟩ := entry
    obtain ⟨hfirst, hothers⟩ : k ∉ rest.map Prod.fst ∧ (rest.map Prod.fst).Nodup :=
      List.nodup_cons.mp hkeys
    rcases List.mem_cons.mp h with heq | hrest
    · obtain ⟨rfl, rfl⟩ := Prod.mk.inj heq
      cases value with
      | none =>
        change Json.field? (present rest) key = none
        exact field?_present_of_not_mem hfirst
      | some v =>
        change Json.field? ((key, v) :: present rest) key = some v
        rw [Json.field?_cons, if_pos rfl]
    · -- the key stands further back, so it is not the first one
      have hne : key ≠ k := by
        rintro rfl
        exact hfirst (List.mem_map.mpr ⟨_, hrest, rfl⟩)
      cases w with
      | none => exact ih hothers hrest
      | some v =>
        change Json.field? ((k, v) :: present rest) key = value
        rw [Json.field?_cons, if_neg hne, ih hothers hrest]

/-- The call, written in a spelling. -/
def Call.written (c : Call) : Spelling → Json
  | .editor =>
    .object
      [("callInfo", .object
          (present [("from", c.caller), ("value", c.value), ("gasLimit", c.gasLimit)])),
        ("contract", .object
          (present [("address", c.target), ("functionString", c.signature)]))]
  | .flat =>
    .object (present
      [("caller_address", c.caller), ("target_address", c.target), ("signature", c.signature),
        ("value", c.value), ("gas_limit", c.gasLimit)])

/-- The argument, written in a spelling. -/
def Input.written (s : Spelling) : Input → Json
  | .mapping kind value => .object (present [(Key.kind.spelled s, kind), ("value", value)])
  | .any v => v

/-- The arguments, written in a spelling. -/
def Inputs.written (s : Spelling) : Inputs → Json
  | .listed items => .list (items.map (Input.written s))
  | .any v => v

/-- The step, written in a spelling. -/
def Step.written (s : Spelling) (d : Step) : Json :=
  .object (present
    [("call", some (d.call.written s)), (Key.inputs.spelled s, d.inputs.map (Inputs.written s)),
      (Key.outputs.spelled s, d.outputs)])

/-- The settings, written in a spelling. -/
def Settings.written (s : Spelling) (d : Settings) : Json :=
  .object (present
    [(Key.funds.spelled s, d.funds), (Key.grants.spelled s, d.grants),
      (Key.always.spelled s, d.always)])

/-- The document of a draft, written in a spelling. -/
def written (s : Spelling) (d : Draft) : Json :=
  .object (present
    [("sequence", some (.list (d.steps.map (Step.written s)))),
      ("settings", d.settings.map (Settings.written s))])

theorem Call.spelled_written (s : Spelling) (c : Call) : c.Spelled s (c.written s) := by
  cases s with
  | editor =>
    refine .editor rfl rfl ?_ ?_ ?_ ?_ ?_ <;> exact field?_present (by simp) (by simp)
  | flat =>
    refine .flat (field?_present_of_not_mem (by simp)) (field?_present_of_not_mem (by simp))
      ?_ ?_ ?_ ?_ ?_ <;> exact field?_present (by simp) (by simp)

theorem holds_present {s : Spelling} {k : Key} {value : Option Json}
    {entries : List (String × Option Json)} (hkeys : (entries.map Prod.fst).Nodup)
    (hother : k.spelled s.other ∉ entries.map Prod.fst) (h : (k.spelled s, value) ∈ entries) :
    k.Holds s (present entries) value where
  here := field?_present hkeys h
  other := field?_present_of_not_mem hother

theorem Input.spelled_written (s : Spelling) (d : Input) : d.Spelled s (d.written s) := by
  cases d with
  | any v => exact .any v
  | mapping kind value =>
    refine .mapping (holds_present ?_ ?_ (by simp)) (field?_present ?_ (by simp)) <;>
      cases s <;> simp [Key.spelled, Key.kind, Spelling.other]

theorem Inputs.spelled_written (s : Spelling) (d : Option Inputs) :
    Inputs.Spelled s d (d.map (Inputs.written s)) := by
  cases d with
  | none => exact .none
  | some given =>
    cases given with
    | any v => exact .any v
    | listed items =>
      refine .listed ?_
      rw [List.forall₂_map_right_iff, List.forall₂_same]
      intro item _
      exact item.spelled_written s

theorem Step.spelled_written (s : Spelling) (d : Step) : d.Spelled s (d.written s) := by
  refine .step (field?_present ?_ (by simp)) (d.call.spelled_written s)
    (holds_present ?_ ?_ (by simp)) (Inputs.spelled_written s d.inputs)
    (holds_present ?_ ?_ (by simp)) <;>
  cases s <;> simp [Key.spelled, Key.inputs, Key.outputs, Spelling.other]

theorem Settings.spelled_written (s : Spelling) (d : Settings) : d.Spelled s (d.written s) := by
  refine .settings (holds_present ?_ ?_ (by simp)) (holds_present ?_ ?_ (by simp))
    (holds_present ?_ ?_ (by simp)) <;>
  cases s <;> simp [Key.spelled, Key.funds, Key.grants, Key.always, Spelling.other]

theorem forall₂_spelled_written (s : Spelling) (steps : List Step) :
    List.Forall₂ (Step.Spelled s) steps (steps.map (Step.written s)) := by
  rw [List.forall₂_map_right_iff, List.forall₂_same]
  intro step _
  exact step.spelled_written s

/-- **Every draft can be written in both spellings.** -/
theorem spelled_written (s : Spelling) (d : Draft) : d.Spelled s (d.written s) := by
  have heach := forall₂_spelled_written s d.steps
  cases hgiven : d.settings with
  | none =>
    refine .unsettled (field?_present ?_ (by simp)) heach (field?_present ?_ ?_) hgiven <;>
      simp [hgiven]
  | some given =>
    refine .settled (field?_present ?_ (by simp)) heach (field?_present ?_ ?_) hgiven
      (given.spelled_written s) <;>
      simp [hgiven]

/-- Without settings, a draft can be written as the list of its steps. -/
theorem spelled_bare (s : Spelling) {d : Draft} (h : d.settings = none) :
    d.Spelled s (.list (d.steps.map (Step.written s))) :=
  .bare (forall₂_spelled_written s d.steps) h

end Draft

/-- **The spelling makes no difference.** Whatever a draft says, its documents in the two spellings
describe the same exploit, or are rejected alike; without settings, so does the list of its steps.
The same holds of any two documents that hold what the draft says and keep to one spelling each. -/
theorem ofJson_spellings (d : Draft) :
    ofJson (d.written .editor) = ofJson (d.written .flat) ∧
    (d.settings = none → ∀ s,
      ofJson (.list (d.steps.map (Draft.Step.written s))) = ofJson (d.written s)) ∧
    ∀ s s' v v', d.Spelled s v → d.Spelled s' v' → ofJson v = ofJson v' := by
  have hread : ∀ s, ofJson (d.written s) = d.read := by
    intro s
    exact Draft.ofJson_of_spelled (d.spelled_written s)
  refine ⟨(hread .editor).trans (hread .flat).symm, ?_, ?_⟩
  · intro hnone s
    rw [Draft.ofJson_of_spelled (Draft.spelled_bare s hnone), hread]
  · intro s s' v v' h h'
    rw [Draft.ofJson_of_spelled h, Draft.ofJson_of_spelled h']

/-- The caller is a number, nothing is said of the value, and the second argument is of no kind. -/
def oddDraft : Draft where
  steps :=
    [{ call :=
        { caller := some (.int 10)
          target := some (.text "0xA")
          signature := some (.text "f(uint256)")
          value := none
          gasLimit := some .null }
       inputs := some (.listed [.mapping (some (.text "concrete")) none, .mapping none (some .null)])
       outputs := some (.bool false) }]
  settings := none

theorem ofJson_spellings_oddDraft :
    oddDraft.settings = none ∧
      (∀ s, ofJson (.list (oddDraft.steps.map (Draft.Step.written s))) =
        ofJson (oddDraft.written s)) ∧
      ofJson (oddDraft.written .flat) =
        .error (.malformed (.input 0 1) (.unknownInputKind .null)) := by
  obtain ⟨hspellings, hbare, -⟩ := ofJson_spellings oddDraft
  refine ⟨rfl, hbare rfl, ?_⟩
  rw [← hspellings]
  rfl

end ExploitReplay.Exploit
