import ExploitReplay.Proofs.Calls
import ExploitReplay.Proofs.Layout
import Mathlib.Data.List.Nodup
import Mathlib.Data.List.Forall2

/-!
# What a test consists of

A test is written as a document of interfaces, variables, cheat codes and calls. The document is
written without leaving anything out, so every part of it can be found in the text. It has one
interface and one variable for every target, and one group of lines for every step; the group of a
step calls the variable of its target, whose interface lists the signature of the step.

## Main definitions

* `Document`: the parts of a test
* `Document.text i d`: the text of a document, with all its parts
* `IsGroupAt all start before step g`: the lines of a group make the call of a step

## Main results

* `CallStatement.lines_settled`: the lines of a settled statement are those of its group
* `render_planned`: the text of a plan is that of its document, nothing is left out
* `exists_document`: a text is written from the document of its sequence
* `compile_document`: interfaces, variables and calls agree
-/

namespace ExploitReplay

/-! ### Documents -/

/-- The interface of a called contract. -/
structure InterfaceDecl where
  name : String
  signatures : List String
deriving DecidableEq, Repr

/-- The variable of a called contract, with the interface it is called through. -/
structure ContractDecl where
  interface : String
  name : String
  address : String
deriving DecidableEq, Repr

/-- What the returned values of a call are assigned to. -/
inductive Assignment where
  | nothing
  /-- A single value is assigned to the variable that the call declares. -/
  | declared (b : Binding)
  | slots (names : List String)
deriving DecidableEq, Repr

/-- The lines of a step: declared variables, the choice of the caller, and the call. -/
structure CallGroup where
  declared : List Binding
  prank : Option String
  assignment : Assignment
  /-- The variable that is called. -/
  contract : String
  /-- The called function with its options and arguments. -/
  message : String
deriving DecidableEq, Repr

/-- The parts of a test. -/
structure Document where
  template : Template
  interfaces : List InterfaceDecl
  contracts : List ContractDecl
  accounts : List Binding
  deals : List (String × String)
  groups : List CallGroup
deriving DecidableEq, Repr

/-! ### Their texts -/

/-- An interface with a line for every signature. -/
def InterfaceDecl.text (i : Indent) (d : InterfaceDecl) : String :=
  Solidity.enclosed i ("interface " ++ d.name) Solidity.lineBreak
    (d.signatures.map fun s => i.deeper.line (s ++ ";"))

/-- The line that declares the variable of a contract. -/
def ContractDecl.text (i : Indent) (d : ContractDecl) : String :=
  i.line (d.interface ++ " " ++ d.name ++ " = " ++ d.interface ++ "(" ++ d.address ++ ");")

/-- What stands on the left of a call, if anything does. -/
def Assignment.target? : Assignment → Option String
  | .nothing => none
  | .declared b => some (b.type ++ " " ++ b.name)
  | .slots names => some (CallStatement.tuple names)

/-- What the returned values are assigned to, if any is kept. -/
def CallGroup.assigned (g : CallGroup) : Option String :=
  g.assignment.target?

/-- The call of a group. -/
def CallGroup.callText (g : CallGroup) : String :=
  (g.assigned.map (· ++ " = ")).getD "" ++ g.contract ++ "." ++ g.message ++ ";"

/-- The lines of a group. -/
def CallGroup.lines (i : Indent) (g : CallGroup) : List String :=
  g.declared.map (Solidity.variableLine i) ++ g.prank.toList.map (Solidity.prankLine i) ++
    [i.line g.callText]

/-- The text of a group. -/
def CallGroup.text (i : Indent) (g : CallGroup) : String :=
  Solidity.lineBreak.intercalate (g.lines i)

namespace Document

/-- The head of the file. -/
def header (d : Document) : String :=
  Solidity.lineBreak.intercalate
    [Solidity.licenseLine d.template.license, Solidity.pragmaLine d.template.solidityVersion]

/-- The function that funds the accounts. -/
def setUp (i : Indent) (d : Document) : String :=
  Solidity.enclosed i ("function " ++ d.template.setUpName ++ "() public") Solidity.lineBreak
    (d.deals.map fun (reference, amount) => Solidity.dealLine i.deeper reference amount)

/-- The function that makes the calls. -/
def exploit (i : Indent) (d : Document) : String :=
  Solidity.enclosed i ("function " ++ d.template.exploitName ++ "() public") Solidity.blankLine
    (d.groups.map (·.text i.deeper))

/-- The contract itself. -/
def body (i : Indent) (d : Document) : String :=
  Solidity.enclosed i ("contract " ++ d.template.contractName ++ " is Test") Solidity.blankLine
    (Solidity.grouped (d.contracts.map (·.text i.deeper)) ++
      Solidity.grouped (d.accounts.map (Solidity.variableLine i.deeper)) ++
      [d.setUp i.deeper, d.exploit i.deeper])

/-- The text of a document, with all its parts. -/
def text (i : Indent) (d : Document) : String :=
  Solidity.blankLine.intercalate
    ([d.header, Solidity.importLine d.template.testSymbol d.template.testImport] ++
      d.interfaces.map (·.text i) ++ [d.body i]) ++ "\n"

end Document

/-! ### The group of a statement -/

namespace CallStatement

/-- The variables that are declared on lines before the call: all of them, unless a single returned
value is declared by the call. -/
def declaredBefore (c : CallStatement) : List Binding :=
  match c.captures, c.slots with
  | [], _ => []
  | [_], [_] => []
  | captures, _ => captures

/-- What the call is assigned to: a single returned value to the variable that it declares. -/
def assignment (c : CallStatement) : Assignment :=
  match c.captures, c.slots with
  | [], _ => .nothing
  | [b], [_] => .declared b
  | _, slots => .slots slots

/-- What stands on the left of the call. -/
def assigned (c : CallStatement) : Option String :=
  c.assignment.target?

/-- **The call is the last line of a statement**, after the declarations and the choice of the
caller. -/
theorem lines_eq (i : Indent) (c : CallStatement) :
    c.lines i = c.declaredBefore.map (Solidity.variableLine i) ++ c.prankLines i ++
      [i.line ((c.assigned.map (· ++ " = ")).getD "" ++ c.invocation)] := by
  unfold assigned declaredBefore assignment lines
  cases hcaptures : c.captures with
  | nil => simp [Assignment.target?]
  | cons b bs =>
    cases bs with
    | cons b' bs => simp [Assignment.target?, String.append_assoc]
    | nil =>
      -- a single variable is declared by the call only if it takes the single value
      cases hslots : c.slots with
      | nil => simp [Assignment.target?, String.append_assoc]
      | cons s ss => cases ss <;> simp [Assignment.target?, String.append_assoc]

/-- The group of a settled statement. -/
def groupOf (scope : Scope) (step : Step) (target : String) (signature : Signature) :
    CallGroup where
  declared := (settled scope step target signature).declaredBefore
  prank := (settled scope step target signature).prank
  assignment := (settled scope step target signature).assignment
  contract := target
  message :=
    signature.name ++ executionOptions step.call.value step.call.gasLimit signature.payable ++
      "(" ++ ", ".intercalate (step.inputs.map Argument.text) ++ ")"

/-- The lines of a settled statement are those of its group. -/
theorem lines_settled (i : Indent) (scope : Scope) (step : Step) (target : String)
    (signature : Signature) :
    (settled scope step target signature).lines i =
      (groupOf scope step target signature).lines i := by
  rw [lines_eq]
  simp [CallGroup.lines, CallGroup.callText, CallGroup.assigned, assigned, groupOf, prankLines,
    settled, String.append_assoc]

end CallStatement

theorem Document.header_ne_empty (d : Document) : d.header ≠ "" :=
  Solidity.intercalate_ne_empty _
    (Solidity.headLines_ne_empty d.template.license d.template.solidityVersion _ (by simp))

theorem ContractDecl.text_ne_empty (i : Indent) (d : ContractDecl) : d.text i ≠ "" :=
  Solidity.line_ne_empty i (by simp)

theorem CallGroup.lines_ne_empty (i : Indent) (g : CallGroup) : ∀ s ∈ g.lines i, s ≠ "" := by
  intro s hs
  simp only [CallGroup.lines, List.mem_append, List.mem_map, List.mem_singleton] at hs
  rcases hs with (⟨b, -, rfl⟩ | ⟨reference, -, rfl⟩) | rfl
  · exact Solidity.variableLine_ne_empty i b
  · exact Solidity.prankLine_ne_empty i reference
  · exact Solidity.line_ne_empty i (by simp [CallGroup.callText])

theorem CallGroup.text_ne_empty (i : Indent) (g : CallGroup) : g.text i ≠ "" := by
  have hne := g.lines_ne_empty i
  cases hlines : g.lines i with
  | nil => simp [CallGroup.lines] at hlines
  | cons l ls =>
    rw [CallGroup.text, hlines]
    exact Solidity.intercalate_ne_empty _ (hne l (by simp [hlines]))

/-- A settled statement is written as its group. -/
theorem CallStatement.render_settled (i : Indent) (scope : Scope) (step : Step) (target : String)
    (signature : Signature) :
    (settled scope step target signature).render i =
      (groupOf scope step target signature).text i := by
  rw [render, lines_settled, Solidity.group,
    Solidity.joined_of_forall_ne _ (CallGroup.lines_ne_empty i _), CallGroup.text]

/-- The group is that of a step behind others: of the statement that is settled, on the variable of
the target, in the scope that the steps before it leave. -/
def IsGroupAt (all : List Step) (start : Scope) (before : List Step) (step : Step)
    (g : CallGroup) : Prop :=
  ∃ cs scope signature, Calls (AddressBook.ofSteps all) start before cs scope ∧
    Signature.parse (some step.call.signature) = .ok signature ∧
    CallStatement.ofStep scope step (contractOf all step) =
      .ok (CallStatement.settled scope step (contractOf all step) signature) ∧
    g = CallStatement.groupOf scope step (contractOf all step) signature

/-- **A run makes one group for every step**, in their order. -/
theorem Calls.exists_groups {all steps : List Step} {scope left : Scope} {cs : List CallStatement}
    (h : Calls (AddressBook.ofSteps all) scope steps cs left) (hsub : ∀ step ∈ steps, step ∈ all) :
    ∃ groups : List CallGroup, groups.length = steps.length ∧
      (∀ i, cs.map (·.render i) = groups.map (·.text i)) ∧
      ∀ k step, steps[k]? = some step →
        ∃ g, groups[k]? = some g ∧ IsGroupAt all scope (steps.take k) step g := by
  induction h with
  | nil => exact ⟨[], rfl, fun _ => rfl, by simp⟩
  | @cons scope left step steps c cs head tail ih =>
    obtain ⟨groups, hlength, hrender, hgroups⟩ := ih fun s hs => hsub s (List.mem_cons_of_mem _ hs)
    have hsettled := head
    rw [callOf_ofSteps (hsub step (by simp))] at hsettled
    obtain ⟨-, signature, hparse, rfl⟩ := CallStatement.ofStep_eq_ok_iff.mp hsettled
    refine ⟨CallStatement.groupOf scope step (contractOf all step) signature :: groups,
      by simp [hlength], fun i => ?_, fun k step' hk => ?_⟩
    · rw [List.map_cons, List.map_cons, hrender, CallStatement.render_settled]
    · cases k with
      | zero =>
        obtain rfl : step = step' := by simpa using hk
        exact ⟨_, rfl, [], scope, signature, .nil, hparse, hsettled, rfl⟩
      | succ k =>
        -- the first step is one of those before the step at `k + 1`
        obtain ⟨g, hg, cs', mid, signature', hbefore, hat⟩ := hgroups k step' (by simpa using hk)
        exact ⟨g, by simpa using hg, _ :: cs', mid, signature', .cons head hbefore, hat⟩

/-! ### The document of a sequence -/

/-- The document of a sequence with the groups of its calls. -/
def documentOf (template : Template) (funding : Funding) (steps : List Step)
    (groups : List CallGroup) : Document where
  template := template
  interfaces := ((targets steps).zipIdx 1).map fun (address, n) =>
    ⟨Solidity.interfaceName n, signaturesOn steps address⟩
  contracts := ((targets steps).zipIdx 1).map fun (address, n) =>
    ⟨Solidity.interfaceName n, Solidity.contractName n, address⟩
  accounts := accountBindingsFrom 1 (callers steps)
  deals := TestContract.dealsOf (readyScope steps {}) ((callers steps).zipIdx 1)
    (funding.resolve template.usualFunds)
  groups := groups

section Planned

variable (template : Template) (funding : Funding) (steps : List Step) {cs : List CallStatement}
  (groups : List CallGroup) (i : Indent)

theorem header_planned :
    (planned template funding steps {} cs).header =
      (documentOf template funding steps groups).header := by
  rw [TestContract.header, Solidity.group,
    Solidity.joined_of_forall_ne _ (Solidity.headLines_ne_empty _ _)]
  rfl

theorem interfaces_planned :
    (planned template funding steps {} cs).interfaces i =
      (documentOf template funding steps groups).interfaces.map (·.text i) := by
  simp only [TestContract.interfaces, planned, documentOf, AddressBook.contracts_ofSteps,
    List.zipIdx_map, List.map_map]
  exact List.map_congr_left fun p _ => Solidity.interfaceBlock_eq i p.2 _

theorem contractLines_planned :
    (planned template funding steps {} cs).contractLines i =
      (documentOf template funding steps groups).contracts.map (·.text i) := by
  simp only [TestContract.contractLines, planned, documentOf, AddressBook.contracts_ofSteps,
    List.zipIdx_map, List.map_map]
  rfl

theorem accountLines_planned :
    (planned template funding steps {} cs).accountLines i =
      (documentOf template funding steps groups).accounts.map (Solidity.variableLine i) := by
  simp only [TestContract.accountLines, planned, documentOf, AddressBook.accounts_ofSteps,
    accountBindingsFrom, List.map_map]
  rfl

theorem dealLines_planned :
    (planned template funding steps {} cs).dealLines i =
      (documentOf template funding steps groups).deals.map fun (reference, amount) =>
        Solidity.dealLine i reference amount := by
  simp only [TestContract.dealLines, planned, documentOf, AddressBook.accounts_ofSteps]

theorem setUp_planned :
    (planned template funding steps {} cs).setUp i =
      (documentOf template funding steps groups).setUp i := by
  have hdeals : ∀ s ∈ (planned template funding steps {} cs).dealLines i.deeper, s ≠ "" :=
    List.forall_mem_map.mpr fun d _ => Solidity.dealLine_ne_empty _ d.1 d.2
  rw [TestContract.setUp, Solidity.group, Solidity.functionBlock_joined _ _ _ hdeals,
    dealLines_planned template funding steps groups]
  rfl

theorem exploit_planned (hcalls : ∀ i, cs.map (·.render i) = groups.map (·.text i)) :
    (planned template funding steps {} cs).exploit i =
      (documentOf template funding steps groups).exploit i := by
  have htexts : ∀ s ∈ groups.map (·.text i.deeper), s ≠ "" :=
    List.forall_mem_map.mpr fun g _ => g.text_ne_empty _
  have hcallTexts : (planned template funding steps {} cs).callTexts i.deeper =
      groups.map (·.text i.deeper) := hcalls i.deeper
  rw [TestContract.exploit, Solidity.sections, hcallTexts,
    Solidity.functionBlock_joined _ _ _ htexts]
  rfl

/-- The contract, with every section that has a line. -/
theorem body_planned (hcalls : ∀ i, cs.map (·.render i) = groups.map (·.text i)) :
    (planned template funding steps {} cs).body i =
      (documentOf template funding steps groups).body i := by
  have hcontracts : ∀ s ∈ (documentOf template funding steps groups).contracts.map
      (·.text i.deeper), s ≠ "" :=
    List.forall_mem_map.mpr fun d _ => d.text_ne_empty _
  have haccounts : ∀ s ∈ (documentOf template funding steps groups).accounts.map
      (Solidity.variableLine i.deeper), s ≠ "" :=
    List.forall_mem_map.mpr fun b _ => Solidity.variableLine_ne_empty _ b
  have hfunctions : ∀ s ∈ [(documentOf template funding steps groups).setUp i.deeper,
      (documentOf template funding steps groups).exploit i.deeper], s ≠ "" := by
    intro s hs
    rcases List.mem_pair.mp hs with rfl | rfl <;> exact Solidity.enclosed_ne_empty _ _ _ _
  -- the two groups may have no line and are then left out, as in the document
  rw [TestContract.body, Solidity.sections,
    contractLines_planned template funding steps groups,
    accountLines_planned template funding steps groups,
    setUp_planned template funding steps groups,
    exploit_planned template funding steps groups i.deeper hcalls,
    Solidity.joined_group_group _ hcontracts haccounts, Solidity.contractBlock_joined]
  · rfl
  · intro s hs
    rcases List.mem_append.mp hs with hs | hs
    · rcases List.mem_append.mp hs with hs | hs
      · exact Solidity.grouped_ne_empty hcontracts s hs
      · exact Solidity.grouped_ne_empty haccounts s hs
    · exact hfunctions s hs

/-- **Nothing of a plan is left out**: its text is that of its document. -/
theorem render_planned (hcalls : ∀ i, cs.map (·.render i) = groups.map (·.text i)) :
    (planned template funding steps {} cs).render i =
      (documentOf template funding steps groups).text i := by
  rw [TestContract.render, TestContract.pieces, header_planned template funding steps groups,
    interfaces_planned template funding steps groups i,
    body_planned template funding steps groups i hcalls, Solidity.sections,
    Solidity.joined_of_forall_ne]
  · rfl
  · intro s hs
    rcases List.mem_append.mp hs with hs | hs
    · rcases List.mem_append.mp hs with hs | hs
      · rcases List.mem_pair.mp hs with rfl | rfl
        · exact Document.header_ne_empty _
        · exact Solidity.importLine_ne_empty _ _
      · obtain ⟨d, -, rfl⟩ := List.mem_map.mp hs
        exact Solidity.enclosed_ne_empty _ _ _ _
    · obtain rfl := List.mem_singleton.mp hs
      exact Solidity.enclosed_ne_empty _ _ _ _

/-- **Every part of a plan is written as the part of a document**, and the whole as its text. -/
structure TestContract.WrittenAs (t : TestContract) (d : Document) : Prop where
  header : t.header = d.header
  interfaces : ∀ i, t.interfaces i = d.interfaces.map (·.text i)
  contractLines : ∀ i, t.contractLines i = d.contracts.map (·.text i)
  accountLines : ∀ i, t.accountLines i = d.accounts.map (Solidity.variableLine i)
  dealLines : ∀ i, t.dealLines i =
    d.deals.map fun (reference, amount) => Solidity.dealLine i reference amount
  setUp : ∀ i, t.setUp i = d.setUp i
  callTexts : ∀ i, t.callTexts i = d.groups.map (·.text i)
  text : ∀ i, t.render i = d.text i

theorem writtenAs_planned (hcalls : ∀ i, cs.map (·.render i) = groups.map (·.text i)) :
    (planned template funding steps {} cs).WrittenAs
      (documentOf template funding steps groups) where
  header := header_planned template funding steps groups
  interfaces := interfaces_planned template funding steps groups
  contractLines := contractLines_planned template funding steps groups
  accountLines := accountLines_planned template funding steps groups
  dealLines := dealLines_planned template funding steps groups
  setUp := setUp_planned template funding steps groups
  callTexts := hcalls
  text := fun i => render_planned template funding steps groups i hcalls

end Planned

/-- **A plan is written as a document.** -/
theorem Calls.exists_writtenAs (template : Template) (funding : Funding) {steps : List Step}
    {scope left : Scope} {cs : List CallStatement}
    (h : Calls (AddressBook.ofSteps steps) scope steps cs left) :
    ∃ d, (planned template funding steps {} cs).WrittenAs d := by
  obtain ⟨groups, -, hgroups, -⟩ := h.exists_groups fun _ => id
  exact ⟨_, writtenAs_planned template funding steps groups hgroups⟩

/-! ### Interfaces, variables and calls -/

/-- Names that carry the numbers of their addresses are all different. -/
theorem nodup_map_zipIdx_snd {f : Nat → String} (hf : Function.Injective f)
    (addresses : List String) : ((addresses.zipIdx 1).map fun p => f p.2).Nodup := by
  rw [map_zipIdx_snd]
  exact List.Nodup.map hf (List.nodup_range' 1)

section Agreement

variable (template : Template) (funding : Funding) (steps : List Step) (groups : List CallGroup)

/-- Every interface has a name of its own. -/
theorem nodup_interfaces :
    ((documentOf template funding steps groups).interfaces.map (·.name)).Nodup := by
  rw [documentOf, List.map_map]
  exact nodup_map_zipIdx_snd (fun _ _ h => Solidity.interfaceName_inj.mp h) (targets steps)

/-- Every contract has a variable of its own. -/
theorem nodup_contracts :
    ((documentOf template funding steps groups).contracts.map (·.name)).Nodup := by
  rw [documentOf, List.map_map]
  exact nodup_map_zipIdx_snd (fun _ _ h => Solidity.contractName_inj.mp h) (targets steps)

/-- Every target has one variable. -/
theorem addresses_contracts :
    (documentOf template funding steps groups).contracts.map (·.address) = targets steps := by
  rw [documentOf, List.map_map]
  exact List.zipIdx_map_fst 1 _

end Agreement

/-- The signature of a step is listed once under its target. -/
theorem count_signaturesOn {steps : List Step} {step : Step} (h : step ∈ steps) :
    (signaturesOn steps step.call.target).count step.call.signature = 1 := by
  refine List.count_eq_one_of_mem (AddressBook.nodup_eraseDups _) ?_
  rw [signaturesOn, List.mem_eraseDups, List.mem_map]
  exact ⟨step, List.mem_filter.mpr ⟨h, by simp⟩, rfl⟩

/-- **A text is written from the document of its sequence**, with one group for every step. -/
theorem exists_document {template : Template} {funding : Funding} {steps : List Step} {i : Indent}
    {source : String} (h : (compile template funding steps { indent := i }).result = .ok source) :
    ∃ groups, source = (documentOf template funding steps groups).text i ∧
      groups.length = steps.length ∧
      ∀ k step, steps[k]? = some step →
        ∃ g, groups[k]? = some g ∧ IsGroupAt steps (readyScope steps {}) (steps.take k) step g := by
  obtain ⟨cs, left, hcalls, -, rfl⟩ := exists_planned h
  obtain ⟨groups, hlength, hrender, hgroups⟩ := hcalls.exists_groups fun _ => id
  exact ⟨groups, render_planned template funding steps groups i hrender, hlength, hgroups⟩

/-- **Interfaces, variables and calls agree.** The test of a sequence is written from a document,
with all its parts and no others. The document has one interface and one variable for every distinct
target, in the order of their first appearance and under names of their own, and one variable for
every distinct caller. It has one group of lines for every step, in their order: that of the
statement that is settled in the scope that the steps before it leave. The call of a step is made on
the variable of its target, and the interface of that variable lists the signature of the step
once. -/
theorem compile_document {template : Template} {funding : Funding} {steps : List Step} {i : Indent}
    {source : String} (h : (compile template funding steps { indent := i }).result = .ok source) :
    ∃ d : Document, source = d.text i ∧ d.template = template ∧
      d.interfaces = ((targets steps).zipIdx 1).map (fun (address, n) =>
        ⟨Solidity.interfaceName n, signaturesOn steps address⟩) ∧
      (d.interfaces.map (·.name)).Nodup ∧
      d.contracts = ((targets steps).zipIdx 1).map (fun (address, n) =>
        ⟨Solidity.interfaceName n, Solidity.contractName n, address⟩) ∧
      (d.contracts.map (·.name)).Nodup ∧ (d.contracts.map (·.address)).Nodup ∧
      d.accounts = ((callers steps).zipIdx 1).map (fun (address, n) =>
        Solidity.accountBinding address n) ∧
      d.deals = TestContract.dealsOf (readyScope steps {}) ((callers steps).zipIdx 1)
        (funding.resolve template.usualFunds) ∧
      d.groups.length = steps.length ∧
      ∀ (k : Nat) (step : Step), steps[k]? = some step →
        ∃ (n : Nat) (g : CallGroup) (e : InterfaceDecl) (signature : Signature)
          (cs : List CallStatement) (scope : Scope),
          (targets steps)[n]? = some step.call.target ∧
          d.contracts[n]? =
            some ⟨Solidity.interfaceName (n + 1), Solidity.contractName (n + 1),
              step.call.target⟩ ∧
          Signature.parse (some step.call.signature) = .ok signature ∧
          Calls (AddressBook.ofSteps steps) (readyScope steps {}) (steps.take k) cs scope ∧
          d.groups[k]? = some g ∧
          g = CallStatement.groupOf scope step (Solidity.contractName (n + 1)) signature ∧
          g.contract = Solidity.contractName (n + 1) ∧
          g.message = signature.name ++
            CallStatement.executionOptions step.call.value step.call.gasLimit signature.payable ++
            "(" ++ ", ".intercalate (step.inputs.map Argument.text) ++ ")" ∧
          d.interfaces[n]? = some e ∧ e.name = Solidity.interfaceName (n + 1) ∧
          e.signatures.count step.call.signature = 1 := by
  obtain ⟨groups, hsource, hlength, hgroups⟩ := exists_document h
  refine ⟨documentOf template funding steps groups, hsource, rfl, rfl, nodup_interfaces _ _ _ _, rfl,
    nodup_contracts _ _ _ _, ?_, rfl, rfl, hlength, ?_⟩
  · rw [addresses_contracts]
    exact AddressBook.nodup_targets steps
  · -- the call, the variable and the interface all use the place of the target
    intro k step hk
    obtain ⟨g, hg, cs, scope, signature, hcalls, hparse, -, rfl⟩ := hgroups k step hk
    have hstep : step ∈ steps := List.mem_of_getElem? hk
    have hn := List.getElem?_idxOf (target_mem_targets hstep)
    let n := (targets steps).idxOf step.call.target
    refine ⟨n, _, ⟨Solidity.interfaceName (n + 1), signaturesOn steps step.call.target⟩, signature,
      cs, scope, hn, ?_, hparse, hcalls, hg, rfl, rfl, rfl, ?_, rfl, count_signaturesOn hstep⟩
    · simp [documentOf, List.getElem?_zipIdx, n, hn, Int.add_comm]
    · simp [documentOf, List.getElem?_zipIdx, n, hn, Int.add_comm]

/-- Three calls of two targets, two of them with the same signature. -/
def twoTargets : List Step :=
  [{ call := ⟨"0xA", "0xF", "function f(uint256) external returns (uint256, bool)", none, none⟩,
     inputs := [.literal "1"], outputs := ["x"] },
   { call := ⟨"", "0xE", "function g() external payable", some "1 ether", none⟩ },
   { call := ⟨"0xB", "0xF", "function f(uint256) external returns (uint256, bool)", none, none⟩,
     inputs := [.captured "x"] }]

theorem compile_document_twoTargets :
    ∃ source, (compile {} {} twoTargets { indent := {} }).result = .ok source ∧
      ∃ d : Document, source = d.text {} ∧ d.groups.length = 3 ∧
        d.contracts.map (·.address) = ["0xF", "0xE"] := by
  obtain ⟨source, h⟩ := exists_ok_of_isOk
    (show (compile {} {} twoTargets { indent := {} }).result.isOk = true by decide +kernel)
  obtain ⟨d, hsource, -, -, -, hcontracts, -, -, -, -, hlength, -⟩ := compile_document h
  refine ⟨source, h, d, hsource, hlength, ?_⟩
  rw [hcontracts]
  decide +kernel

end ExploitReplay
