import ExploitReplay.Failure
import ExploitReplay.Signature.Reading
import ExploitReplay.Solidity.Line
import ExploitReplay.Text.Blank
import ExploitReplay.ValueType

/-!
# Call statements

A step becomes one call statement: the call itself, the line that chooses its caller, and the
declarations of the variables that keep its returned values. The statement is settled before
anything is written or declared, so a step that fails changes nothing.

## Main definitions

* `CallStatement`: a settled call statement
* `CallStatement.ofStep scope step target`: the statement of a step
* `CallStatement.lines`, `CallStatement.render`: its lines, and its text
* `CallStatement.warnings`: what is lost by it
-/

namespace ExploitReplay

/-- A settled call statement. -/
structure CallStatement where
  /-- The reference of the account that makes the call, if one is given. -/
  prank : Option String
  /-- The call itself. -/
  invocation : String
  /-- The names of the returned values, blank where one is not kept; none if nothing is kept. -/
  slots : List String
  /-- The variables that keep returned values, in the order of the slots. -/
  captures : List Binding
  /-- A value that was given for the call but is not sent. -/
  ignoredValue : Option String
deriving DecidableEq, Repr

namespace CallStatement

/-! ### Parts of a call -/

/-- A text that is there and not empty. -/
def filled (t : Option String) : Option String :=
  t.filter (· ≠ "")

/-- The value that is sent along: only a payable function takes one. -/
def sentValue (value : Option String) (payable : Bool) : Option String :=
  if payable then filled value else none

/-- The value that is given but not sent. -/
def unsentValue (value : Option String) (payable : Bool) : Option String :=
  if payable then none else filled value

/-- The options of a call between braces, or nothing. -/
def optionsText (value gasLimit : Option String) : String :=
  let options := (value.map ("value: " ++ ·)).toList ++ (gasLimit.map ("gasLimit: " ++ ·)).toList
  if options = [] then "" else "\x7b" ++ ", ".intercalate options ++ "\x7d"

/-- The options of a call of a function. -/
def executionOptions (value gasLimit : Option String) (payable : Bool) : String :=
  optionsText (sentValue value payable) (filled gasLimit)

/-- How an argument is written; a variable must be declared. -/
def argumentText (scope : Scope) : Argument → Except Failure String
  | .literal text => .ok text
  | .captured name =>
    match scope.find? name with
    | some b => .ok b.name
    | none => .error (.unknownVariable name)

/-- How the arguments are written, up to the first that cannot be. -/
def argumentTexts (scope : Scope) : List Argument → Except Failure (List String)
  | [] => .ok []
  | a :: rest =>
    (argumentText scope a).bind fun t => (argumentTexts scope rest).map (t :: ·)

/-- The arguments of a call. -/
def argumentsText (scope : Scope) (inputs : List Argument) : Except Failure String :=
  (argumentTexts scope inputs).map (", ".intercalate ·)

/-- One slot for every returned value, blank from where no more names are given; no slots if no
names are given. -/
def slotsFor (signature : Signature) (outputs : List String) : Except Failure (List String) :=
  if signature.arity < outputs.length then
    .error (.tooManyOutputs signature.raw outputs.length signature.arity)
  else if outputs = [] then .ok []
  else
    .ok (outputs.map Text.trim ++ List.replicate (signature.arity - outputs.length) "")

/-- The variables that keep returned values: one for every slot that is not blank, with the type at
its place. -/
def capturesOf (slots types : List String) : List Binding :=
  (slots.zip types).filterMap fun (name, type) =>
    if name = "" then none else some ⟨name, "", ValueType.declared type⟩

/-! ### The statement of a step -/

/-- The statement of a step, called on a variable. The signature is looked at first, then the names
for returned values, then the arguments. -/
def ofStep (scope : Scope) (step : Step) (target : String) : Except Failure CallStatement :=
  match Signature.parse (some step.call.signature) with
  | .error cause => .error (.malformedSignature cause)
  | .ok signature =>
    match slotsFor signature step.outputs with
    | .error e => .error e
    | .ok slots =>
      match argumentsText scope step.inputs with
      | .error e => .error e
      | .ok arguments =>
        .ok
          { prank :=
              if step.call.caller = "" then none else some (scope.reference step.call.caller)
            invocation :=
              target ++ "." ++ signature.name ++
                executionOptions step.call.value step.call.gasLimit signature.payable ++
                "(" ++ arguments ++ ");"
            slots := slots
            captures := capturesOf slots signature.returns
            ignoredValue := unsentValue step.call.value signature.payable }

/-- What is lost by a statement. -/
def warnings (c : CallStatement) : List Warning :=
  c.ignoredValue.toList.map .ignoredValue

/-- The scope after the statement. -/
def declareIn (c : CallStatement) (scope : Scope) : Scope :=
  scope.defineAll c.captures

/-! ### Its text -/

/-- What stands in a slot whose value is not kept. -/
def discarded : String := " "

/-- The slots between parentheses. -/
def tuple (slots : List String) : String :=
  "(" ++ ", ".intercalate (slots.map fun s => if s = "" then discarded else s) ++ ")"

/-- The line that chooses the caller, if there is one. -/
def prankLines (i : Indent) (c : CallStatement) : List String :=
  c.prank.toList.map (Solidity.prankLine i)

/-- The lines of a statement. The caller is chosen right before the call; a single returned value is
declared by the call, several are declared before. -/
def lines (i : Indent) (c : CallStatement) : List String :=
  match c.captures, c.slots with
  | [], _ => c.prankLines i ++ [i.line c.invocation]
  | [b], [_] => c.prankLines i ++ [i.line (b.type ++ " " ++ b.name ++ " = " ++ c.invocation)]
  | captures, slots =>
    captures.map (Solidity.variableLine i) ++ c.prankLines i ++
      [i.line (tuple slots ++ " = " ++ c.invocation)]

/-- The text of a statement. -/
def render (i : Indent) (c : CallStatement) : String :=
  Solidity.group (c.lines i)

/-! ### Captured variables -/

/-- A captured variable has a name and no value. -/
theorem of_mem_capturesOf {slots types : List String} {b : Binding}
    (h : b ∈ capturesOf slots types) : b.name ∈ slots ∧ b.name ≠ "" ∧ b.value = "" := by
  obtain ⟨⟨name, type⟩, hp, hb⟩ := List.mem_filterMap.mp h
  dsimp only at hb
  split at hb
  · simp at hb
  · obtain rfl := Option.some.inj hb
    exact ⟨(List.of_mem_zip hp).1, by assumption, rfl⟩

end CallStatement

end ExploitReplay
