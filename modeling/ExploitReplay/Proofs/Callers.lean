import ExploitReplay.Proofs.Accounts
import ExploitReplay.Proofs.Document

/-!
# Who is funded and who calls

The accounts of a sequence are funded in the order of their numbers. A step is called by the account
of its caller, even if that address is called itself by some step: an address is written by the
account that holds it before it is written by a contract. The calls cannot change that, as a
variable that keeps a returned value holds no address, unless one of them takes the name of the
account.

## Main definitions

* `Solidity.fundingLines i count amount`: the lines that fund the accounts up to a number
* `CallGroup.linesWith i prank g`: the lines of a group, with given lines before the call

## Main results

* `dealsOf_readyScope`: the accounts are funded in the order of their numbers
* `prank_settled`: a step is called by the account of its caller
* `compile_callers`: both, for the text of a sequence
-/

namespace ExploitReplay

open Solidity (accountName)

/-! ### Funding -/

/-- The account at a place is written by the next number. -/
theorem reference_readyScope {steps : List Step} {a : String} (ha : a ∈ callers steps) :
    (readyScope steps {}).reference a = accountName (1 + (callers steps).idxOf a : Nat) := by
  have hready := HoldsAccounts.empty.readyScope steps
  rw [hready.reference (List.mem_append_left _ ha), List.idxOf_append_of_mem ha]

/-- **The accounts are funded in the order of their numbers**, each by its own name. -/
theorem dealsOf_readyScope (steps : List Step) (funds : Option String) :
    TestContract.dealsOf (readyScope steps {}) (AddressBook.ofSteps steps).accounts funds =
      match CallStatement.filled funds with
      | some amount =>
        (List.range' 1 (callers steps).length).map fun n : Nat => (accountName n, amount)
      | none => [] := by
  unfold TestContract.dealsOf
  cases CallStatement.filled funds with
  | none => rfl
  | some amount =>
    simp only [AddressBook.accounts_ofSteps]
    rw [← map_zipIdx_snd (fun n : Nat => (accountName n, amount))]
    refine List.map_congr_left ?_
    rintro ⟨a, n⟩ hp
    -- every caller is listed once, so its place is the one where it is found
    obtain ⟨hle, hlt, ha⟩ := List.mem_zipIdx hp
    have hplace := (AddressBook.nodup_callers steps).idxOf_getElem (n - 1) (by omega)
    have hmem : a ∈ callers steps := ha ▸ List.getElem_mem _
    rw [← ha] at hplace
    dsimp only
    rw [reference_readyScope hmem, hplace, Nat.add_sub_cancel' hle]

/-! ### Calling -/

/-- **A step is called by the account of its caller**, unless a step before it keeps a value under
the name of that account. -/
theorem prank_settled {steps : List Step} {k : Nat} {step : Step} (hk : steps[k]? = some step)
    (hcaller : step.call.caller ≠ "") {mid : Scope} {cs : List CallStatement}
    (hcalls : Calls (AddressBook.ofSteps steps) (readyScope steps {}) (steps.take k) cs mid)
    (hkept : accountName (1 + (callers steps).idxOf step.call.caller : Nat) ∉
      keptNamesOf (steps.take k)) (target : String) (signature : Signature) :
    (CallStatement.settled mid step target signature).prank =
      some (accountName (1 + (callers steps).idxOf step.call.caller : Nat)) := by
  have hmem := caller_mem_callers (List.mem_of_getElem? hk) hcaller
  have hready : (readyScope steps {}).WritesAs step.call.caller
      (accountName (1 + (callers steps).idxOf step.call.caller : Nat)) := by
    have hwrites := (HoldsAccounts.empty.readyScope steps).writesAs (List.mem_append_left _ hmem)
    rwa [List.idxOf_append_of_mem hmem] at hwrites
  have hmid := hready.calls hcalls (fun s hs => List.mem_of_mem_take hs) hkept
  rw [CallStatement.settled, if_neg hcaller, hmid.reference]

/-! ### The text of a sequence -/

/-- The lines that give an amount to the accounts with the numbers up to `count`. -/
def Solidity.fundingLines (i : Indent) (count : Nat) (amount : String) : List String :=
  (List.range' 1 count).map fun n : Nat =>
    i.line ("vm.deal(" ++ accountName n ++ ", " ++ amount ++ ");")

/-- The lines of a group, with the given lines between its declarations and the call. -/
def CallGroup.linesWith (i : Indent) (prank : List String) (g : CallGroup) : List String :=
  g.declared.map (Solidity.variableLine i) ++ prank ++ [i.line g.callText]

/-- A group without a prank has no line between its declarations and the call. -/
theorem CallGroup.lines_of_prank_none (i : Indent) {g : CallGroup} (h : g.prank = none) :
    g.lines i = g.linesWith i [] := by
  rw [lines, linesWith, h]
  rfl

theorem CallGroup.lines_of_prank_some (i : Indent) {g : CallGroup} {reference : String}
    (h : g.prank = some reference) :
    g.lines i = g.linesWith i [Solidity.prankLine i reference] := by
  rw [lines, linesWith, h]
  rfl

theorem CallStatement.filled_of_ne_empty {text : String} (h : text ≠ "") :
    filled (some text) = some text := by
  simp [filled, h]

theorem CallStatement.filled_eq_none {text : Option String} (h : ∀ t, text = some t → t = "") :
    filled text = none := by
  cases text with
  | none => rfl
  | some t => simp [filled, h t rfl]

/-- The function that funds the accounts: a line for every account, or none without an amount. -/
theorem setUp_documentOf (template : Template) (funding : Funding) (steps : List Step)
    (groups : List CallGroup) (i : Indent) :
    (documentOf template funding steps groups).setUp i =
      Solidity.enclosed i ("function " ++ template.setUpName ++ "() public") Solidity.lineBreak
        (match CallStatement.filled (funding.resolve template.usualFunds) with
        | some amount => Solidity.fundingLines i.deeper (callers steps).length amount
        | none => []) := by
  have hdeals := dealsOf_readyScope steps (funding.resolve template.usualFunds)
  rw [AddressBook.accounts_ofSteps] at hdeals
  rw [Document.setUp, documentOf, hdeals]
  cases CallStatement.filled (funding.resolve template.usualFunds) with
  | none => rfl
  | some amount =>
    dsimp only
    rw [List.map_map]
    rfl

/-- **Who is funded and who calls.** The test of a sequence is written from its document, whose
accounts stand for the distinct callers in the order of their first appearance. If there is an
amount, the function that funds them has exactly one line for every account, in the order of their
numbers, and otherwise no line. The group of a step without a caller chooses none. The group of any
other step chooses the account of its caller right before the call, and nothing else, unless a step
before it keeps a value under the name of that account. -/
theorem compile_callers {template : Template} {funding : Funding} {steps : List Step} {i : Indent}
    {source : String} (h : (compile template funding steps { indent := i }).result = .ok source) :
    ∃ d : Document, d = documentOf template funding steps d.groups ∧ source = d.text i ∧
      (∀ amount, funding.resolve template.usualFunds = some amount → amount ≠ "" →
        ∀ j, d.setUp j = Solidity.enclosed j ("function " ++ template.setUpName ++ "() public")
          Solidity.lineBreak (Solidity.fundingLines j.deeper (callers steps).length amount)) ∧
      ((∀ amount, funding.resolve template.usualFunds = some amount → amount = "") →
        ∀ j, d.setUp j = Solidity.enclosed j ("function " ++ template.setUpName ++ "() public")
          Solidity.lineBreak []) ∧
      d.groups.length = steps.length ∧
      ∀ (k : Nat) (step : Step), steps[k]? = some step → ∃ g, d.groups[k]? = some g ∧
        IsGroupAt steps (readyScope steps {}) (steps.take k) step g ∧
        (step.call.caller = "" → ∀ j, g.lines j = g.linesWith j []) ∧
        (step.call.caller ≠ "" → ∃ n : Nat, (callers steps)[n]? = some step.call.caller ∧
          (accountName (n + 1) ∉ keptNamesOf (steps.take k) →
            ∀ j, g.lines j =
              g.linesWith j [j.line ("vm.prank(" ++ accountName (n + 1) ++ ");")])) := by
  obtain ⟨groups, hsource, hlength, hgroups⟩ := exists_document h
  have hsetUp := setUp_documentOf template funding steps groups
  refine ⟨documentOf template funding steps groups, rfl, hsource, ?_, ?_, hlength, ?_⟩
  · intro amount hresolve hamount j
    rw [hsetUp, hresolve, CallStatement.filled_of_ne_empty hamount]
  · intro hnone j
    rw [hsetUp, CallStatement.filled_eq_none hnone]
  · intro k step hk
    obtain ⟨g, hg, hat⟩ := hgroups k step hk
    refine ⟨g, hg, hat, ?_⟩
    obtain ⟨cs, mid, signature, hbefore, -, -, rfl⟩ := hat
    refine ⟨fun hcaller j => ?_, fun hcaller => ?_⟩
    · refine CallGroup.lines_of_prank_none j ?_
      rw [CallStatement.groupOf, CallStatement.settled, if_pos hcaller]
    · have hmem := caller_mem_callers (List.mem_of_getElem? hk) hcaller
      have hnumber : ((callers steps).idxOf step.call.caller : Int) + 1 =
          (1 + (callers steps).idxOf step.call.caller : Nat) := by omega
      refine ⟨_, List.getElem?_idxOf hmem, fun hkept j => ?_⟩
      rw [hnumber] at hkept ⊢
      exact CallGroup.lines_of_prank_some j
        (prank_settled hk hcaller hbefore hkept (contractOf steps step) signature)

/-- Three callers, two of which are called themselves. The second call keeps a value under the name
of the third account. -/
def calledCallers : List Step :=
  [{ call := ⟨"0xA", "0xF", "function f() external", none, none⟩ },
   { call := ⟨"0xF", "0xA", "function g() external returns (address)", none, none⟩,
     outputs := [" account3 "] },
   { call := ⟨"", "0xB", "function h() external", none, none⟩ },
   { call := ⟨"0xF", "0xB", "function h() external", none, none⟩ },
   { call := ⟨"0xB", "0xF", "function f() external", none, none⟩ }]

theorem compile_callers_calledCallers :
    ∃ source, (compile {} { amount := some "1 ether" } calledCallers {}).result = .ok source ∧
      ∃ d : Document, source = d.text {} ∧
        d.setUp {} = Solidity.enclosed {} "function setUp() public" Solidity.lineBreak
          ["    vm.deal(account1, 1 ether);", "    vm.deal(account2, 1 ether);",
            "    vm.deal(account3, 1 ether);"] ∧
        ∃ g, d.groups[3]? = some g ∧ g.lines {} = g.linesWith {} ["vm.prank(account2);"] := by
  obtain ⟨source, h⟩ := exists_ok_of_isOk
    (show (compile {} { amount := some "1 ether" } calledCallers {}).result.isOk = true by
      decide +kernel)
  obtain ⟨d, -, hsource, hsetUp, -, -, hcalls⟩ := compile_callers h
  have hfunded := hsetUp "1 ether" rfl (by decide) {}
  obtain ⟨g, hg, -, -, hnamed⟩ := hcalls 3 calledCallers[3] rfl
  obtain ⟨n, hn, hprank⟩ := hnamed (by decide)
  -- the fourth call is made by the second caller
  have hsecond : (callers calledCallers)[1]? = some "0xF" := by decide +kernel
  obtain rfl : 1 = n := (List.getElem?_inj (by decide +kernel)
    (AddressBook.nodup_callers calledCallers)).mp (hsecond.trans hn.symm)
  have hline : Indent.line {} ("vm.prank(" ++ accountName ((1 : Nat) + 1) ++ ");") =
      "vm.prank(account2);" := by decide +kernel
  refine ⟨source, h, d, hsource, hfunded.trans (by decide +kernel), g, hg, ?_⟩
  rw [hprank (by decide +kernel) {}, hline]

end ExploitReplay
