/-!
# Function signatures

What a call needs to know of the function it calls: the name, the parameters as they are written,
the words between the parameters and the returned values, and the types of the returned values
that are understood.

## Main definitions

* `Signature`: a function signature that has been read
* `Signature.arity`: how many returned values can be captured
* `Signature.Defect`: why a text is no signature
* `Signature.Malformed`: a text that is no signature, with its defect
-/

namespace ExploitReplay

/-- A function signature that has been read. -/
structure Signature where
  /-- The text that was read. -/
  raw : String
  /-- The name calls are made by; it may be empty. -/
  name : String
  /-- The parameters, each as it is written. -/
  parameters : List String
  /-- The words between the parameters and the returned values. -/
  modifiers : List String
  /-- The types of the returned values, as far as they are understood. -/
  returns : List String
  /-- A call may send value along. -/
  payable : Bool
deriving DecidableEq, Repr

namespace Signature

/-- How many returned values can be captured. -/
def arity (s : Signature) : Nat :=
  s.returns.length

/-- Why a text is no signature. -/
inductive Defect where
  /-- There are fewer than two words. -/
  | tooFewWords
  /-- The word with the name opens no parameter list. -/
  | noParameterList
deriving DecidableEq, Repr

/-- The defect in words. -/
def Defect.reason : Defect → String
  | .tooFewWords => "expected at least a name with arguments and one more token"
  | .noParameterList => "missing '(' after function name"

/-- A text that is no signature, with its defect. The text may be missing altogether. -/
structure Malformed where
  text : Option String
  defect : Defect
deriving DecidableEq, Repr

end Signature

end ExploitReplay
