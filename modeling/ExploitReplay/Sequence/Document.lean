import ExploitReplay.Failure
import ExploitReplay.Sequence.Rejection
import ExploitReplay.Sequence.Step

/-!
# Exploit documents

An exploit is described by a JSON document: a list of steps, or an object with the steps and the
settings. Fields have two spellings. A call is an object of its own fields, or one with the caller
and the contract apart. The documents are written by other programs and by hand, so a text field
takes any value, and a vacant value counts as none.

## Main definitions

* `Exploit`: the steps of an exploit, and how its callers are funded
* `Exploit.ofJson v`: the exploit that a document describes
* `Exploit.warnings e`: what of the document is ignored
-/

namespace ExploitReplay

/-- The steps of an exploit, and how its callers are funded. -/
structure Exploit where
  steps : List Step
  funding : Funding := {}
deriving DecidableEq, Repr

namespace Exploit

/-- The fields of an object. -/
abbrev Fields := List (String × Json)

/-! ### Fields -/

/-- The value of a field under the first of two spellings that is there; null if none is. -/
def either (fields : Fields) (spelling other : String) : Json :=
  (Json.field? fields spelling).getD ((Json.field? fields other).getD .null)

/-- A text that may be left out: null and the empty text leave it out. -/
def optionalText : Json → Option String
  | .null => none
  | .text s => if s = "" then none else some s
  | v => some v.display

/-- A text, the empty one for a vacant value. -/
def textOrEmpty (v : Json) : String :=
  if v.isVacant then "" else v.display

/-- The members of a list; a vacant value counts as the empty list. -/
def listOrEmpty? : Json → Option (List Json)
  | .list items => some items
  | v => if v.isVacant then some [] else none

/-- The fields of an object; a vacant value counts as the empty object. -/
def objectOrEmpty? : Json → Option Fields
  | .object fields => some fields
  | v => if v.isVacant then some [] else none

/-! ### Calls -/

/-- The parts of a call before they are checked. -/
structure RawCall where
  caller : Json
  target : Json
  signature : Json
  value : Json
  gasLimit : Json

/-- The value of a field, null if it is not there. -/
def fieldOrNull (fields : Fields) (key : String) : Json :=
  (Json.field? fields key).getD .null

/-- The parts of a call whose fields are its own. -/
def flatCall (fields : Fields) : RawCall where
  caller := fieldOrNull fields "caller_address"
  target := fieldOrNull fields "target_address"
  signature := fieldOrNull fields "signature"
  value := fieldOrNull fields "value"
  gasLimit := fieldOrNull fields "gas_limit"

/-- The parts of a call whose caller and contract are objects of their own. -/
def nestedCall (info contract : Fields) : RawCall where
  caller := fieldOrNull info "from"
  target := fieldOrNull contract "address"
  signature := fieldOrNull contract "functionString"
  value := fieldOrNull info "value"
  gasLimit := fieldOrNull info "gasLimit"

/-- The parts of a call, from whichever of the two forms its fields have. -/
def rawCall (fields : Fields) : Except Rejection RawCall :=
  if Json.hasField fields "contract" || Json.hasField fields "callInfo" then
    match objectOrEmpty? (fieldOrNull fields "callInfo"),
      objectOrEmpty? (fieldOrNull fields "contract") with
    | some info, some contract => .ok (nestedCall info contract)
    | _, _ => .error .partNotAnObject
  else .ok (flatCall fields)

/-- A call from its parts: the target and the signature must be filled in. -/
def RawCall.check (raw : RawCall) (i : Nat) : Except Rejection Call :=
  if raw.target.isVacant then .error (.malformed (.call i) .noTarget)
  else if raw.signature.isVacant then .error (.malformed (.call i) .noSignature)
  else
    .ok
      { caller := textOrEmpty raw.caller
        target := raw.target.display
        signature := raw.signature.display
        value := optionalText raw.value
        gasLimit := optionalText raw.gasLimit }

/-- The call of step `i`. -/
def callOf (i : Nat) : Json → Except Rejection Call
  | .object fields => (rawCall fields).bind (·.check i)
  | _ => .error (.malformed (.call i) .callNotAnObject)

/-! ### Arguments and captures -/

/-- The argument that a mapping of a kind stands for. -/
def argumentOf? (kind : Json) (text : String) : Option Argument :=
  match kind with
  | .text "concrete" => some (.literal text)
  | .text "stateMapping" => some (.captured text)
  | _ => none

/-- Argument `j` of step `i`. -/
def inputOf (i j : Nat) : Json → Except Rejection Argument
  | .object fields =>
    let kind := either fields "type" "kind"
    let text := ((Json.field? fields "value").getD (.text "")).display
    match argumentOf? kind text with
    | some a => .ok a
    | none => .error (.malformed (.input i j) (.unknownInputKind kind))
  | _ => .error (.malformed (.input i j) .inputNotAnObject)

/-- The arguments of step `i` from number `j` on, up to the first that is rejected. -/
def inputsOf (i : Nat) : Nat → List Json → Except Rejection (List Argument)
  | _, [] => .ok []
  | j, v :: rest => (inputOf i j v).bind fun a => (inputsOf i (j + 1) rest).map (a :: ·)

/-- The name a returned value is kept under; null keeps nothing. -/
def outputOf : Json → String
  | .null => ""
  | v => v.display

/-! ### Steps -/

/-- Step `i`. Its mappings must be lists; then its call is looked at, and then its arguments. -/
def stepOf (i : Nat) : Json → Except Rejection Step
  | .object fields =>
    match Json.field? fields "call" with
    | none => .error (.malformed (.step i) .noCall)
    | some call =>
      match listOrEmpty? (either fields "inputMappings" "input_mappings"),
        listOrEmpty? (either fields "outputMappings" "output_mappings") with
      | some inputs, some outputs =>
        (callOf i call).bind fun c =>
          (inputsOf i 0 inputs).map fun as => ⟨c, as, outputs.map outputOf⟩
      | _, _ => .error (.malformed (.step i) .mappingsNotLists)
  | _ => .error (.malformed (.step i) .stepNotAnObject)

/-- The steps from number `i` on, up to the first that is rejected. -/
def stepsOf : Nat → List Json → Except Rejection (List Step)
  | _, [] => .ok []
  | i, v :: rest => (stepOf i v).bind fun s => (stepsOf (i + 1) rest).map (s :: ·)

/-! ### Settings -/

/-- Token grant `i`: an object with all of its three fields. -/
def grantOf (i : Nat) : Json → Except Rejection TokenGrant
  | .object fields =>
    match Json.field? fields "account", Json.field? fields "address",
      Json.field? fields "amount" with
    | some account, some token, some amount =>
      .ok ⟨account.display, token.display, amount.display⟩
    | _, _, _ => .error (.malformed (.grant i) .incompleteGrant)
  | _ => .error (.malformed (.grant i) .incompleteGrant)

/-- The token grants from number `i` on, up to the first that is rejected. -/
def grantsOf : Nat → List Json → Except Rejection (List TokenGrant)
  | _, [] => .ok []
  | i, v :: rest => (grantOf i v).bind fun g => (grantsOf (i + 1) rest).map (g :: ·)

/-- What a value offers to go through as token grants: the members of a list, the keys of an object,
the characters of a text. Numbers and truth values offer nothing. -/
def grantItems? : Json → Option (List Json)
  | .list items => some items
  | .object fields => some (fields.map fun (k, _) => .text k)
  | .text s => some (s.toList.map fun c => .text c.toString)
  | v => if v.isVacant then some [] else none

/-- The funding of a settings object. -/
def fundingOfFields (fields : Fields) : Except Rejection Funding :=
  match grantItems? (either fields "tokensToCaller" "tokens_to_caller") with
  | none => .error .grantsNotIterable
  | some items =>
    (grantsOf 0 items).map fun grants =>
      { amount := optionalText (either fields "fundsToCaller" "funds_to_caller")
        grants := grants
        always := !(either fields "alwaysFundCaller" "always_fund_caller").isVacant }

/-- The funding of settings, which may be vacant. -/
def fundingOf : Json → Except Rejection Funding
  | .object fields => fundingOfFields fields
  | v => if v.isVacant then .ok {} else .error (.malformed .settings .settingsNotAnObject)

/-! ### Documents -/

/-- The exploit of steps and settings; the steps are looked at first. -/
def ofParts (steps settings : Json) : Except Rejection Exploit :=
  match steps with
  | .list items => (stepsOf 0 items).bind fun ss => (fundingOf settings).map fun f => ⟨ss, f⟩
  | _ => .error (.malformed .sequence .sequenceNotAList)

/-- The exploit that a document describes. -/
def ofJson : Json → Except Rejection Exploit
  | .list items => ofParts (.list items) .null
  | .object fields =>
    match Json.field? fields "sequence" with
    | some steps => ofParts steps (fieldOrNull fields "settings")
    | none => .error (.malformed .document .noSequence)
  | _ => .error (.malformed .document .notADocument)

/-- What of the document is ignored. -/
def warnings (e : Exploit) : List Warning :=
  if e.funding.grants = [] then [] else [.ignoredGrants e.funding.grants.length]

end Exploit

end ExploitReplay
