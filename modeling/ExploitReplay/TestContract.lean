import ExploitReplay.AddressBook
import ExploitReplay.Solidity.CallStatement

/-!
# Test contracts

A sequence becomes a test contract: an interface and a variable for every called contract, a
variable for every account, a function that funds the accounts, and a function that makes the calls
in order. The contract is planned first, as a value; its text is a function of the plan.

## Main definitions

* `TestContract`: a planned test contract
* `TestContract.ofSteps`: the plan of a sequence, with the scope it leaves
* `TestContract.render`: the text of a plan
* `Context`, `compile`: the text of a sequence, written in a scope and at a depth
-/

namespace ExploitReplay

/-- A planned test contract. -/
structure TestContract where
  template : Template
  /-- The called contracts with their numbers. -/
  contracts : List (ContractEntry × Nat)
  /-- The accounts with their numbers. -/
  accounts : List (String × Nat)
  /-- The references of the accounts to fund, each with its amount. -/
  deals : List (String × String)
  /-- The statements of the calls. -/
  calls : List CallStatement
deriving DecidableEq, Repr

namespace TestContract

/-! ### The plan of a sequence -/

/-- The generated names of a book: those of the contracts, then those of the accounts. -/
def generatedBindings (book : AddressBook) : List Binding :=
  book.contracts.map (fun (e, n) => Solidity.contractBinding e.address n) ++
    book.accounts.map fun (address, n) => Solidity.accountBinding address n

/-- Every account gets the amount, unless that is missing or empty. -/
def dealsOf (scope : Scope) (accounts : List (String × Nat)) (funds : Option String) :
    List (String × String) :=
  match CallStatement.filled funds with
  | some amount => accounts.map fun (address, _) => (scope.reference address, amount)
  | none => []

/-- The statement of a step, on the variable of its target. -/
def callOf (book : AddressBook) (scope : Scope) (step : Step) : Except Failure CallStatement :=
  match book.contractIndex? step.call.target with
  | none => .error (.unregistered step.call.target)
  | some n => CallStatement.ofStep scope step (Solidity.contractName n)

/-- The statements of the steps, each in the scope that the steps before it leave. The first step
that fails ends them; the scope and the warnings are then those of the steps before it. -/
def callsOf (book : AddressBook) : List Step → Scope → Outcome Scope (List CallStatement)
  | [], scope => ⟨.ok [], scope, []⟩
  | step :: steps, scope =>
    match callOf book scope step with
    | .error e => ⟨.error e, scope, []⟩
    | .ok c =>
      let rest := callsOf book steps (c.declareIn scope)
      ⟨rest.result.map (c :: ·), rest.state, c.warnings ++ rest.warnings⟩

/-- The plan of a sequence, in a scope that may hold earlier declarations. -/
def ofSteps (template : Template) (funding : Funding) (steps : List Step) (scope : Scope) :
    Outcome Scope TestContract :=
  let book := AddressBook.ofSteps steps
  let ready := scope.defineAll (generatedBindings book)
  let deals := dealsOf ready book.accounts (funding.resolve template.usualFunds)
  let calls := callsOf book steps ready
  ⟨calls.result.map fun cs => ⟨template, book.contracts, book.accounts, deals, cs⟩, calls.state,
    calls.warnings⟩

/-! ### The text of a plan -/

/-- The head of the file: the license and the language version. -/
def header (t : TestContract) : String :=
  Solidity.group
    [Solidity.licenseLine t.template.license, Solidity.pragmaLine t.template.solidityVersion]

/-- The interfaces of the called contracts. -/
def interfaces (i : Indent) (t : TestContract) : List String :=
  t.contracts.map fun (e, n) => Solidity.interfaceBlock i n e.signatures

/-- The variables of the called contracts. -/
def contractLines (i : Indent) (t : TestContract) : List String :=
  t.contracts.map fun (e, n) => Solidity.contractLine i e.address n

/-- The variables of the accounts. -/
def accountLines (i : Indent) (t : TestContract) : List String :=
  t.accounts.map fun (address, n) => Solidity.accountLine i address n

/-- The lines that fund the accounts. -/
def dealLines (i : Indent) (t : TestContract) : List String :=
  t.deals.map fun (reference, amount) => Solidity.dealLine i reference amount

/-- The texts of the calls. -/
def callTexts (i : Indent) (t : TestContract) : List String :=
  t.calls.map (·.render i)

/-- The function that funds the accounts. -/
def setUp (i : Indent) (t : TestContract) : String :=
  Solidity.functionBlock i t.template.setUpName Solidity.usualModifiers
    (Solidity.group (t.dealLines i.deeper))

/-- The function that makes the calls. -/
def exploit (i : Indent) (t : TestContract) : String :=
  Solidity.functionBlock i t.template.exploitName Solidity.usualModifiers
    (Solidity.sections (t.callTexts i.deeper))

/-- The contract itself. -/
def body (i : Indent) (t : TestContract) : String :=
  Solidity.contractBlock i t.template.contractName (some Solidity.usualBase)
    (Solidity.sections
      [Solidity.group (t.contractLines i.deeper), Solidity.group (t.accountLines i.deeper),
        t.setUp i.deeper, t.exploit i.deeper])

/-- The pieces of the file, in order. -/
def pieces (i : Indent) (t : TestContract) : List String :=
  [t.header, Solidity.importLine t.template.testSymbol t.template.testImport] ++ t.interfaces i ++
    [t.body i]

/-- The text of the file. -/
def render (i : Indent) (t : TestContract) : String :=
  Solidity.sections (t.pieces i) ++ "\n"

end TestContract

/-! ### Writing in a context -/

/-- What a text is written in: the declared names and the indentation. -/
structure Context where
  scope : Scope := {}
  indent : Indent := {}
deriving DecidableEq, Repr

/-- A test that was written at a depth other than zero deserves a warning. -/
def depthWarnings (i : Indent) : List Warning :=
  if i.depth = 0 then [] else [.depthLeft i.depth]

/-- The test of a sequence, written in a context. The context keeps what was declared, also when the
sequence fails, and its depth. -/
def compile (template : Template) (funding : Funding) (steps : List Step) (context : Context) :
    Outcome Context String :=
  let plan := TestContract.ofSteps template funding steps context.scope
  let left := { context with scope := plan.state }
  match plan.result with
  | .error e => ⟨.error e, left, plan.warnings⟩
  | .ok t =>
    ⟨.ok (t.render context.indent), left, plan.warnings ++ depthWarnings context.indent⟩

end ExploitReplay
