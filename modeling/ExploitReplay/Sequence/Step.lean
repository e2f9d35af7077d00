/-!
# The steps of an exploit

An exploit is a sequence of calls. Each step says who calls what, where the arguments come from and
which returned values are kept for later steps.

## Main definitions

* `Call`: who calls which function where, with how much value and gas
* `Argument`: a literal, or a value captured before
* `Step`: a call with its arguments and captures
* `Funding`: how the callers are funded before the exploit
-/

namespace ExploitReplay

/-- One call of a function on a contract. -/
structure Call where
  /-- The account that calls; the empty text leaves it open. -/
  caller : String
  /-- The contract that is called. -/
  target : String
  /-- The signature of the function, as it was written. -/
  signature : String
  /-- The value that is sent along. -/
  value : Option String := none
  /-- The limit on the gas that is spent. -/
  gasLimit : Option String := none
deriving DecidableEq, Repr

/-- Where an argument comes from. -/
inductive Argument where
  /-- The argument is written as it stands. -/
  | literal (text : String)
  /-- The argument is a declared variable. -/
  | captured (name : String)
deriving DecidableEq, Repr

/-- The text of a literal, or the name of a variable. -/
def Argument.text : Argument → String
  | .literal t => t
  | .captured n => n

/-- A call, its arguments, and the names its returned values are kept under; a blank name keeps
nothing. -/
structure Step where
  call : Call
  inputs : List Argument := []
  outputs : List String := []
deriving DecidableEq, Repr

/-- A balance of a token to hand to an account. -/
structure TokenGrant where
  account : String
  token : String
  amount : String
deriving DecidableEq, Repr

/-- How the callers are funded before the exploit. -/
structure Funding where
  /-- The amount that every caller gets. -/
  amount : Option String := none
  /-- The tokens to hand out, which is not supported. -/
  grants : List TokenGrant := []
  /-- Callers get an amount even if none is given. -/
  always : Bool := false
deriving DecidableEq, Repr

/-- The amount every caller gets, if any: the given one, and otherwise the usual one when callers
are always funded. An empty amount is none given. -/
def Funding.resolve (f : Funding) (usual : String) : Option String :=
  if f.amount.getD "" ≠ "" then f.amount
  else if f.always then some usual else none

/-- The parts of a generated test that do not come from the sequence. -/
structure Template where
  license : String := "UNLICENSED"
  solidityVersion : String := "0.8.19"
  testSymbol : String := "Test"
  testImport : String := "forge-std/Test.sol"
  contractName : String := "TestContract"
  setUpName : String := "setUp"
  exploitName : String := "testExploit"
  /-- The amount for callers that are always funded. -/
  usualFunds : String := "100 ether"
deriving DecidableEq, Repr

end ExploitReplay
