import ExploitReplay.Signature.Basic
import ExploitReplay.Text.Quoted
import ExploitReplay.Json.Value

/-!
# Failures and warnings

Why a sequence cannot be turned into a test, and what is said about one that can.

## Main definitions

* `Failure`: why no test is made
* `Warning`: what a caller should know of a test that is made
* `Failure.message`, `Warning.message`: both in words
-/

namespace ExploitReplay

/-- The text of a signature between quotes; a missing one is listed as such. -/
def Signature.Malformed.quotedText (m : Signature.Malformed) : String :=
  match m.text with
  | some t => Text.quoted t
  | none => Json.null.listing

/-- A malformed signature in words. -/
def Signature.Malformed.message (m : Signature.Malformed) : String :=
  "Malformed signature " ++ m.quotedText ++ ": " ++ m.defect.reason

/-- Why no test is made of a sequence. -/
inductive Failure where
  /-- The text of a signature is none. -/
  | malformedSignature (cause : Signature.Malformed)
  /-- More returned values are to be kept than the signature declares. -/
  | tooManyOutputs (signature : String) (requested declared : Nat)
  /-- An argument names a variable that is not declared. -/
  | unknownVariable (name : String)
  /-- An address is not in the address book. -/
  | unregistered (address : String)
deriving DecidableEq, Repr

/-- The failure in words. -/
def Failure.message : Failure → String
  | .malformedSignature cause => cause.message
  | .tooManyOutputs signature requested declared =>
    "Invalid output mappings for " ++ Text.quoted signature ++ ": " ++ toString requested ++
      " requested but only " ++ toString declared ++ " return type(s) declared"
  | .unknownVariable name => "Variable " ++ name ++ " does not exist."
  | .unregistered address => Text.quoted address

/-- What a caller should know of a test. -/
inductive Warning where
  /-- The function takes no value, so the given one is not sent. -/
  | ignoredValue (value : String)
  /-- Handing out tokens is not supported. -/
  | ignoredGrants (count : Nat)
  /-- The test was written at a depth other than zero. -/
  | depthLeft (depth : Int)
deriving DecidableEq, Repr

/-- The warning in words. -/
def Warning.message : Warning → String
  | .ignoredValue value => "Ignoring value " ++ value ++ " sent to a non-payable function"
  | .ignoredGrants count =>
    "tokensToCaller is not supported yet; " ++ toString count ++ " grant(s) ignored"
  | .depthLeft depth => "Indentation depth " ++ toString depth ++ " left after compilation"

/-- The result of a computation that changes a state and gives warnings, whether it fails or not. -/
structure Outcome (σ α : Type) where
  result : Except Failure α
  state : σ
  warnings : List Warning := []

end ExploitReplay
