import ExploitReplay.Json.Value

/-!
# Rejected documents

Why a JSON value describes no exploit, and which part of it is to blame.

## Main definitions

* `Rejection.Place`: a part of a document
* `Rejection.Problem`: what is wrong there
* `Rejection`: why a document is rejected
-/

namespace ExploitReplay

namespace Rejection

/-- A part of a document; members of lists are counted from zero. -/
inductive Place where
  | document
  | sequence
  | step (i : Nat)
  | call (i : Nat)
  | input (i j : Nat)
  | settings
  | grant (i : Nat)
deriving DecidableEq, Repr

/-- A position in a list, as a place names it. -/
def position (i : Nat) : String :=
  "[" ++ toString i ++ "]"

/-- The name of a place; the document as a whole has none. -/
def Place.path : Place → Option String
  | .document => none
  | .sequence => some "sequence"
  | .step i => some ("sequence" ++ position i)
  | .call i => some ("sequence" ++ position i ++ ".call")
  | .input i j => some ("sequence" ++ position i ++ ".inputMappings" ++ position j)
  | .settings => some "settings"
  | .grant i => some ("settings.tokensToCaller" ++ position i)

/-- What is wrong at a place. -/
inductive Problem where
  | notADocument
  | noSequence
  | sequenceNotAList
  | stepNotAnObject
  | noCall
  | mappingsNotLists
  | callNotAnObject
  | noTarget
  | noSignature
  | inputNotAnObject
  | unknownInputKind (kind : Json)
  | settingsNotAnObject
  | incompleteGrant

/-- The problem in words. -/
def Problem.message : Problem → String
  | .notADocument => "document must be an object or a list of steps"
  | .noSequence => "document has no 'sequence' key"
  | .sequenceNotAList => "sequence must be a list"
  | .stepNotAnObject => "step must be an object"
  | .noCall => "missing call"
  | .mappingsNotLists => "input and output mappings must be lists"
  | .callNotAnObject => "call must be an object"
  | .noTarget => "missing target address"
  | .noSignature => "missing function signature"
  | .inputNotAnObject => "input mapping must be an object"
  | .unknownInputKind kind => "unknown input mapping kind " ++ kind.listing
  | .settingsNotAnObject => "settings must be an object"
  | .incompleteGrant => "token grant needs account, address and amount"

end Rejection

/-- Why a document is rejected. -/
inductive Rejection where
  /-- A part of the document does not have the form that is expected of it. -/
  | malformed (place : Rejection.Place) (problem : Rejection.Problem)
  /-- The caller or the contract of a call is filled in, but is no object to look into. -/
  | partNotAnObject
  /-- The token grants are filled in, but are nothing to go through. -/
  | grantsNotIterable

/-- A message about a part of something, after the name of the part if it has one. -/
def Rejection.located (path : Option String) (message : String) : String :=
  match path with
  | some p => p ++ ": " ++ message
  | none => message

/-- The rejection in words, where it has any. -/
def Rejection.message? : Rejection → Option String
  | .malformed place problem => some (located place.path problem.message)
  | _ => none

end ExploitReplay
