import ExploitReplay.Proofs.Grammar

/-!
# What is loaded of a document

An accepted document is loaded part by part. Every raw step becomes a step, every raw mapping an
argument or a kept name, and every raw grant a grant, in the same places; nothing is left out or
added. A text field takes any value: what is filled in is kept as the text that stands for it, which
is never empty, so a reader of the exploit tells what was left out from what was given.

## Main definitions

* `LoadsLiteral v t`, `LoadsText v t`: a text that may be left out, and one that may be empty
* `LoadsCall v c`, `LoadsInput v a`, `LoadsOutput v name`, `LoadsStep v s`: what a call, an argument,
  a kept name and a step are loaded as
* `LoadsGrant v g`, `LoadsFunding v grants f`: what a token grant and the settings are loaded as

## Main results

* `Json.display_eq_empty_iff`: no value but the empty text is displayed as the empty text
* `ofJson_loads`: an accepted document is loaded as a whole
-/

namespace ExploitReplay

/-! ### The text of a value -/

/-- The text of a decimal has a point or an exponent. -/
theorem Decimal.text_ne_empty (d : Decimal) : d.text ≠ "" := by
  simp only [Decimal.text]
  split
  · simp
  · split
    · split <;> simp
    · simp

theorem Double.text_ne_empty (d : Double) : d.text ≠ "" := by
  cases d with
  | nan => decide
  | infinite negative => cases negative <;> decide
  | finite negative mantissa exponent =>
    have hunsigned :
        (if mantissa = 0 then "0.0" else (Decimal.shortest mantissa exponent).text) ≠ "" := by
      split
      · decide
      · exact Decimal.text_ne_empty _
    rw [Double.text]
    exact fun h => hunsigned (String.append_eq_empty_iff.mp h).2

namespace Json

theorem toString_int_ne_empty (n : Int) : toString n ≠ "" := by
  cases n with
  | ofNat n => exact Nat.repr_ne_empty
  | negSucc n =>
    show "-" ++ Nat.repr (n + 1) ≠ ""
    simp

theorem listing_ne_empty (v : Json) : v.listing ≠ "" := by
  cases v with
  | null => simp [listing]
  | bool b => cases b <;> simp [listing]
  | int n => simpa [listing] using toString_int_ne_empty n
  | double d => simpa [listing] using d.text_ne_empty
  | text s => simp [listing, Text.quoted, Text.quotedChars]
  | list items => simp [listing]
  | object fields => simp [listing]

/-- **No value but the empty text is displayed as the empty text.** -/
theorem display_eq_empty_iff {v : Json} : v.display = "" ↔ v = .text "" := by
  cases v with
  | text s => simp
  | _ => simp [display, listing_ne_empty]

/-- What is filled in is displayed. -/
theorem display_ne_empty_of_filled {v : Json} (h : v.isVacant = false) : v.display ≠ "" := by
  intro hempty
  obtain rfl := display_eq_empty_iff.mp hempty
  simp at h

end Json

namespace Exploit

/-! ### Parts of a document -/

/-- A text that may be left out: null and the empty text leave it out, anything else is kept as the
text that stands for it. -/
inductive LoadsLiteral : Json → Option String → Prop
  | null : LoadsLiteral .null none
  | empty : LoadsLiteral (.text "") none
  | given {v : Json} (notNull : v ≠ .null) (visible : v.display ≠ "") :
      LoadsLiteral v (some v.display)

/-- A text that may be empty: a vacant value leaves it empty. -/
inductive LoadsText : Json → String → Prop
  | vacant {v : Json} (vacant : v.isVacant = true) : LoadsText v ""
  | filled {v : Json} (filled : v.isVacant = false) (visible : v.display ≠ "") :
      LoadsText v v.display

/-- A call is loaded from its raw parts: the target and the signature are not empty. -/
structure LoadsParts (raw : RawCall) (c : Call) : Prop where
  caller : LoadsText raw.caller c.caller
  target : c.target = raw.target.display
  target_ne_empty : c.target ≠ ""
  signature : c.signature = raw.signature.display
  signature_ne_empty : c.signature ≠ ""
  value : LoadsLiteral raw.value c.value
  gasLimit : LoadsLiteral raw.gasLimit c.gasLimit

/-- What a call is loaded as, in either of its two forms. -/
inductive LoadsCall : Json → Call → Prop
  | flat {fields : Fields} {c : Call} (contract : Json.hasField fields "contract" = false)
      (info : Json.hasField fields "callInfo" = false) (parts : LoadsParts (flatCall fields) c) :
      LoadsCall (.object fields) c
  | nested {fields info contract : Fields} {c : Call}
      (apart : Json.hasField fields "contract" = true ∨ Json.hasField fields "callInfo" = true)
      (hinfo : HoldsFields (fieldOrNull fields "callInfo") info)
      (hcontract : HoldsFields (fieldOrNull fields "contract") contract)
      (parts : LoadsParts (nestedCall info contract) c) : LoadsCall (.object fields) c

/-- The text of a mapping: that of its value, and the empty one if it has none. -/
def mappedText (fields : Fields) : String :=
  ((Json.field? fields "value").getD (.text "")).display

/-- What an argument is loaded as: it is of one of two kinds. -/
inductive LoadsInput : Json → Argument → Prop
  | concrete {fields : Fields} (kind : either fields "type" "kind" = .text "concrete") :
      LoadsInput (.object fields) (.literal (mappedText fields))
  | stateMapping {fields : Fields} (kind : either fields "type" "kind" = .text "stateMapping") :
      LoadsInput (.object fields) (.captured (mappedText fields))

/-- What the name of a returned value is loaded as: null becomes the empty name. -/
inductive LoadsOutput : Json → String → Prop
  | null : LoadsOutput .null ""
  | named {v : Json} (notNull : v ≠ .null) : LoadsOutput v v.display

/-- What a step is loaded as: its mappings are loaded one by one. -/
inductive LoadsStep (v : Json) (s : Step) : Prop
  | step {call : Json} {inputs outputs : List Json} (parts : HasParts v call inputs outputs)
      (hcall : LoadsCall call s.call) (hinputs : List.Forall₂ LoadsInput inputs s.inputs)
      (houtputs : List.Forall₂ LoadsOutput outputs s.outputs)

/-- What a token grant is loaded as. -/
inductive LoadsGrant : Json → TokenGrant → Prop
  | grant {fields : Fields} {account token amount : Json}
      (haccount : Json.field? fields "account" = some account)
      (htoken : Json.field? fields "address" = some token)
      (hamount : Json.field? fields "amount" = some amount) :
      LoadsGrant (.object fields) ⟨account.display, token.display, amount.display⟩

/-- What settings with some raw grants are loaded as. -/
inductive LoadsFunding : Json → List Json → Funding → Prop
  | vacant {v : Json} (vacant : v.isVacant = true) : LoadsFunding v [] {}
  | settings {fields : Fields} {grants : List Json} {f : Funding}
      (hgrants : ListsAs (either fields "tokensToCaller" "tokens_to_caller") grants)
      (each : List.Forall₂ LoadsGrant grants f.grants)
      (amount : LoadsLiteral (either fields "fundsToCaller" "funds_to_caller") f.amount)
      (always : f.always = !(either fields "alwaysFundCaller" "always_fund_caller").isVacant) :
      LoadsFunding (.object fields) grants f

/-! ### Every part is loaded -/

theorem loadsLiteral_optionalText (v : Json) : LoadsLiteral v (optionalText v) := by
  unfold optionalText
  split
  · exact .null
  · rename_i s
    split
    · rename_i hs
      rw [hs]
      exact .empty
    · rename_i hs
      exact .given (by simp) (by simpa using hs)
  · rename_i hnull htext
    refine .given hnull fun hempty => ?_
    exact htext "" (Json.display_eq_empty_iff.mp hempty)

theorem loadsText_textOrEmpty (v : Json) : LoadsText v (textOrEmpty v) := by
  rw [textOrEmpty]
  cases h : v.isVacant with
  | true => exact .vacant h
  | false => exact .filled h (Json.display_ne_empty_of_filled h)

theorem loadsOutput_outputOf (v : Json) : LoadsOutput v (outputOf v) := by
  unfold outputOf
  split
  · exact .null
  · rename_i hnull
    exact .named hnull

/-- A call that passes its check is loaded from its parts. -/
theorem loadsParts_of_check {raw : RawCall} {i : Nat} {c : Call} (h : raw.check i = .ok c) :
    LoadsParts raw c := by
  obtain ⟨htarget, hsignature⟩ := (check_isOk_iff raw i).mp ⟨c, h⟩
  simp only [RawCall.check, htarget, hsignature] at h
  obtain rfl := Except.ok.inj h
  exact
    { caller := loadsText_textOrEmpty _
      target := rfl
      target_ne_empty := Json.display_ne_empty_of_filled htarget
      signature := rfl
      signature_ne_empty := Json.display_ne_empty_of_filled hsignature
      value := loadsLiteral_optionalText _
      gasLimit := loadsLiteral_optionalText _ }

theorem loadsCall_of_callOf {i : Nat} {v : Json} {c : Call} (h : callOf i v = .ok c) :
    LoadsCall v c := by
  -- which parts there are depends on the form of the call, which is that of its fields
  cases (callOf_isOk_iff i v).mp ⟨c, h⟩ with
  | flat hcontract hinfo target signature =>
    obtain ⟨raw, hraw, hcheck⟩ := bind_eq_ok_iff.mp h
    obtain rfl : flatCall _ = raw := by simpa [rawCall, hcontract, hinfo] using hraw
    exact .flat hcontract hinfo (loadsParts_of_check hcheck)
  | nested apart hinfo hcontract target signature =>
    obtain ⟨raw, hraw, hcheck⟩ := bind_eq_ok_iff.mp h
    obtain rfl : nestedCall _ _ = raw := by
      simpa [rawCall, apart, objectOrEmpty?_eq_some_iff.mpr hinfo,
        objectOrEmpty?_eq_some_iff.mpr hcontract] using hraw
    exact .nested apart hinfo hcontract (loadsParts_of_check hcheck)

theorem loadsInput_of_inputOf {i j : Nat} {v : Json} {a : Argument} (h : inputOf i j v = .ok a) :
    LoadsInput v a := by
  obtain ⟨fields, rfl, hkind⟩ := (inputOf_isOk_iff i j v).mp ⟨a, h⟩
  rcases hkind with hkind | hkind
  · simp only [inputOf, hkind, argumentOf?] at h
    obtain rfl := Except.ok.inj h
    exact .concrete hkind
  · simp only [inputOf, hkind, argumentOf?] at h
    obtain rfl := Except.ok.inj h
    exact .stateMapping hkind

theorem loadsGrant_of_grantOf {i : Nat} {v : Json} {g : TokenGrant} (h : grantOf i v = .ok g) :
    LoadsGrant v g := by
  unfold grantOf at h
  split at h
  · split at h
    · rename_i haccount htoken hamount
      obtain rfl := Except.ok.inj h
      exact .grant haccount htoken hamount
    · cases h
  · cases h

/-! ### Lists, steps and settings -/

theorem forall₂_loadsOutput (outputs : List Json) :
    List.Forall₂ LoadsOutput outputs (outputs.map outputOf) := by
  rw [List.forall₂_map_right_iff, List.forall₂_same]
  exact fun v _ => loadsOutput_outputOf v

theorem loadsStep_of_stepOf {i : Nat} {v : Json} {s : Step} (h : stepOf i v = .ok s) :
    LoadsStep v s := by
  obtain ⟨call, inputs, outputs, hparts, -, -⟩ := (stepOf_isOk_iff i v).mp ⟨s, h⟩
  rw [stepOf_of_hasParts hparts] at h
  obtain ⟨c, hcall, hrest⟩ := bind_eq_ok_iff.mp h
  obtain ⟨as, hinputs, rfl⟩ := map_eq_ok_iff.mp hrest
  exact .step hparts (loadsCall_of_callOf hcall)
    (forall₂_of_eachFrom hinputs fun _ _ _ => loadsInput_of_inputOf)
    (forall₂_loadsOutput outputs)

theorem exists_loadsFunding_of_fundingOf {v : Json} {f : Funding} (h : fundingOf v = .ok f) :
    ∃ grants, LoadsFunding v grants f := by
  cases (fundingOf_isOk_iff v).mp ⟨f, h⟩ with
  | vacant empty =>
    obtain rfl := Except.ok.inj ((fundingOf_of_isVacant empty).symm.trans h)
    exact ⟨[], .vacant empty⟩
  | object hgrants each =>
    -- the raw grants are the members of a list, as nothing else that is gone through holds grants
    simp only [fundingOf, fundingOfFields, grantItems?_of_listsAs hgrants] at h
    obtain ⟨grants, hread, rfl⟩ := map_eq_ok_iff.mp h
    rw [grantsOf_eq_eachFrom] at hread
    exact ⟨_, .settings hgrants (forall₂_of_eachFrom hread fun _ _ _ => loadsGrant_of_grantOf)
      (loadsLiteral_optionalText _) rfl⟩

/-- The grants of a document are as many as are loaded. -/
theorem LoadsFunding.length_grants {v : Json} {grants : List Json} {f : Funding}
    (h : LoadsFunding v grants f) : grants.length = f.grants.length := by
  cases h with
  | vacant => rfl
  | settings _ each _ _ => exact each.length_eq

/-- **An accepted document is loaded as a whole.** Its steps are loaded one by one, with all their
mappings, and so are its grants; of these it is said how many are ignored, if there are any. -/
theorem ofJson_loads {v : Json} {e : Exploit} (h : ofJson v = .ok e) :
    ∃ items settings grants, partsOf? v = some (items, settings) ∧
      List.Forall₂ LoadsStep items e.steps ∧ LoadsFunding settings grants e.funding ∧
      e.warnings = if grants = [] then [] else [.ignoredGrants grants.length] := by
  obtain ⟨items, settings, hparts, heach, hsettings⟩ := (ofJson_isOk_iff v).mp ⟨e, h⟩
  rw [ofJson_eq_of_parts hparts] at h
  obtain ⟨steps, hsteps, hrest⟩ := bind_eq_ok_iff.mp h
  obtain ⟨funding, hfunding, rfl⟩ := map_eq_ok_iff.mp hrest
  rw [stepsOf_eq_eachFrom] at hsteps
  obtain ⟨grants, hgrants⟩ := exists_loadsFunding_of_fundingOf hfunding
  -- the warning counts the grants that are loaded, and these are as many as the raw ones
  refine ⟨items, settings, grants, hparts, ?_, hgrants, ?_⟩
  · exact forall₂_of_eachFrom hsteps fun _ _ _ => loadsStep_of_stepOf
  · simp only [warnings, ← List.length_eq_zero_iff, hgrants.length_grants]

/-- A document whose fields have values of all kinds. -/
def mixedDocument : Json :=
  .object
    [("sequence", .list
      [.object
        [("call", .object
          [("callInfo", .object [("from", .bool false), ("value", .int 0), ("gasLimit", .text "")]),
           ("contract", .object
            [("address", .int 178), ("functionString", .text "f(uint256) view")])]),
         ("inputMappings", .list
          [.object [("type", .text "concrete"), ("value", .list [.int 1, .null])],
           .object [("kind", .text "stateMapping")]]),
         ("output_mappings", .list [.null, .bool true])]]),
     ("settings", .object
      [("fundsToCaller", .bool false),
       ("tokensToCaller", .list
        [.object [("account", .text "0xA"), ("address", .null), ("amount", .int 5)]])])]

/-- What is loaded of it. -/
def mixedExploit : Exploit where
  steps :=
    [{ call := ⟨"", "178", "f(uint256) view", some "0", none⟩
       inputs := [.literal "[1, None]", .captured ""]
       outputs := ["", "True"] }]
  funding := { amount := some "False", grants := [⟨"0xA", "None", "5"⟩] }

theorem ofJson_loads_mixedDocument :
    ofJson mixedDocument = .ok mixedExploit ∧ mixedExploit.warnings = [.ignoredGrants 1] ∧
      ∃ items settings grants, partsOf? mixedDocument = some (items, settings) ∧
        List.Forall₂ LoadsStep items mixedExploit.steps ∧
        LoadsFunding settings grants mixedExploit.funding ∧ grants.length = 1 := by
  have hof : ofJson mixedDocument = .ok mixedExploit := by
    rfl
  have hwarnings : mixedExploit.warnings = [.ignoredGrants 1] := by decide
  obtain ⟨items, settings, grants, hparts, hsteps, hfunding, -⟩ := ofJson_loads hof
  exact ⟨hof, hwarnings, items, settings, grants, hparts, hsteps, hfunding, hfunding.length_grants⟩

end Exploit

end ExploitReplay
