import ExploitReplay.Proofs.SourceLines

/-!
# The variables that a test declares

A test declares a variable for every contract and every account, and one for every value that is
kept; no other line declares anything. The generated names are all different. The names of the kept
values are those that the sequence gives them, whatever has been declared before: so the variables of
a test are all different just if the names of the kept values are, and none of these is a generated
name.

## Main definitions

* `Declares i v line`: the line declares the variable
* `Document.declaredNames i d`: the names of the variables that the lines of a document declare

## Main results

* `SourceLine.declares_text`: a line that declares a variable says so
* `declarations_groupOf`: the group of a statement declares what the statement keeps
* `declaredNames_documentOf`: the names are the generated ones and those of the kept values
* `nodup_generatedNames`: the generated names are all different
* `compile_declaredNames`: when the variables of a test are all different
-/

namespace ExploitReplay

/-! ### Lines that declare variables -/

/-- The line declares the variable with the type and the name: it ends there, or a value follows. -/
def Declares (i : Indent) (v : String × String) (line : String) : Prop :=
  ∃ rest, line = i.line (v.1 ++ " " ++ v.2 ++ rest) ∧ (rest = ";" ∨ ∃ value, rest = " = " ++ value)

theorem declares_variableLine (i : Indent) (b : Binding) :
    Declares i (b.type, b.name) (Solidity.variableLine i b) := by
  by_cases hvalue : b.value = ""
  · exact ⟨";", by simp [Solidity.variableLine, hvalue, String.append_assoc], .inl rfl⟩
  · refine ⟨" = " ++ (b.value ++ ";"), ?_, .inr ⟨_, rfl⟩⟩
    simp [Solidity.variableLine, hvalue, String.append_assoc]

theorem declares_contractDecl (i : Indent) (d : ContractDecl) :
    Declares i (d.interface, d.name) (d.text i) := by
  refine ⟨" = " ++ (d.interface ++ "(" ++ d.address ++ ");"), ?_, .inr ⟨_, rfl⟩⟩
  simp [ContractDecl.text, String.append_assoc]

/-- A call that is assigned to a variable declares it. -/
theorem declares_callText (i : Indent) {g : CallGroup} {b : Binding}
    (h : g.assignment = .declared b) : Declares i (b.type, b.name) (i.line g.callText) := by
  refine ⟨" = " ++ (g.contract ++ "." ++ g.message ++ ";"), ?_, .inr ⟨_, rfl⟩⟩
  simp [CallGroup.callText, CallGroup.assigned, h, Assignment.target?, String.append_assoc]

/-- **A line that declares a variable says so.** -/
theorem SourceLine.declares_text {l : SourceLine} {v : String × String}
    (h : l.declared? = some v) : ∃ i, Declares i v l.text := by
  cases l with
  | contract i d =>
    obtain rfl := Option.some.inj h
    exact ⟨i, declares_contractDecl i d⟩
  | declaration i b =>
    obtain rfl := Option.some.inj h
    exact ⟨i, declares_variableLine i b⟩
  | call i g =>
    change g.assignment.declared? = some v at h
    cases hassigned : g.assignment with
    | declared b =>
      rw [hassigned] at h
      obtain rfl := Option.some.inj h
      exact ⟨i, declares_callText i hassigned⟩
    | _ =>
      rw [hassigned] at h
      cases h
  | _ => cases h

/-! ### Their names -/

/-- The names of the variables that the lines of a document declare. -/
def Document.declaredNames (i : Indent) (d : Document) : List String :=
  (d.declarations i).map (·.2)

/-- **The group of a statement declares what the statement keeps**, each variable once. -/
theorem declarations_groupOf (scope : Scope) (step : Step) (target : String)
    (signature : Signature) :
    (CallStatement.groupOf scope step target signature).declarations =
      (CallStatement.settled scope step target signature).captures.map fun b => (b.type, b.name) := by
  rw [CallGroup.declarations, CallStatement.groupOf]
  cases hcaptures : (CallStatement.settled scope step target signature).captures with
  | nil =>
    simp [CallStatement.declaredBefore, CallStatement.assignment, hcaptures, Assignment.declared?]
  | cons b bs =>
    -- a single variable is declared by the call only if it takes the single value
    rcases hslots : (CallStatement.settled scope step target signature).slots with
        _ | ⟨s, _ | ⟨s', ss⟩⟩ <;> cases bs <;>
      simp [CallStatement.declaredBefore, CallStatement.assignment, hcaptures, hslots,
        Assignment.declared?]

/-- The group of a step declares the names that the step keeps values under. -/
theorem IsGroupAt.names_declarations {all before : List Step} {start : Scope} {step : Step}
    {g : CallGroup} (h : IsGroupAt all start before step g) :
    g.declarations.map (·.2) = keptNames step := by
  obtain ⟨cs, scope, signature, -, -, hsettled, rfl⟩ := h
  rw [declarations_groupOf, List.map_map, ← names_captures_of_ofStep hsettled]
  rfl

theorem map_eq_map_of_getElem? {α β γ : Type} {f : α → γ} {g : β → γ} {xs : List α} {ys : List β}
    (hlength : ys.length = xs.length)
    (h : ∀ (k : Nat) x, xs[k]? = some x → ∃ y, ys[k]? = some y ∧ g y = f x) :
    ys.map g = xs.map f := by
  refine List.ext_getElem? fun k => ?_
  rw [List.getElem?_map, List.getElem?_map]
  cases hk : xs[k]? with
  | none =>
    rw [List.getElem?_eq_none (hlength ▸ List.getElem?_eq_none_iff.mp hk)]
    rfl
  | some x =>
    obtain ⟨y, hy, hxy⟩ := h k x hk
    rw [hy, Option.map_some, Option.map_some, hxy]

/-- **The names of a test** are the generated ones and those of the kept values. -/
theorem declaredNames_documentOf (template : Template) (funding : Funding) {steps : List Step}
    {groups : List CallGroup} (i : Indent) (hlength : groups.length = steps.length)
    (hgroups : ∀ k step, steps[k]? = some step →
      ∃ g, groups[k]? = some g ∧ IsGroupAt steps (readyScope steps {}) (steps.take k) step g) :
    (documentOf template funding steps groups).declaredNames i =
      generatedNames steps ++ keptNamesOf steps := by
  have hkept : groups.map (fun g => g.declarations.map (·.2)) = steps.map keptNames := by
    refine map_eq_map_of_getElem? hlength fun k step hk => ?_
    obtain ⟨g, hg, hat⟩ := hgroups k step hk
    exact ⟨g, hg, hat.names_declarations⟩
  have hflat : (groups.flatMap CallGroup.declarations).map (·.2) = keptNamesOf steps := by
    rw [List.map_flatMap, List.flatMap_def, hkept, ← List.flatMap_def]
    rfl
  have hdeclared := (documentOf template funding steps groups).declarations_eq i
  rw [Document.declaredNames, hdeclared, List.map_append, List.map_append, generatedNames,
    ← names_contractBindingsFrom, ← names_accountBindingsFrom, ← hflat, contractBindingsFrom]
  simp only [documentOf, List.map_map]
  rfl

/-- **The generated names are all different.** -/
theorem nodup_generatedNames (steps : List Step) : (generatedNames steps).Nodup := by
  have hcontracts : Function.Injective fun n : Nat => Solidity.contractName n :=
    fun _ _ h => Solidity.contractName_inj.mp h
  have haccounts : Function.Injective fun n : Nat => Solidity.accountName n :=
    fun _ _ h => Solidity.accountName_inj.mp h
  refine List.nodup_append.mpr
    ⟨(List.nodup_range' 1).map hcontracts, (List.nodup_range' 1).map haccounts, ?_⟩
  intro name hcontract other haccount
  obtain ⟨m, -, rfl⟩ := List.mem_map.mp hcontract
  obtain ⟨n, -, rfl⟩ := List.mem_map.mp haccount
  exact Solidity.contractName_ne_accountName m n

/-- **When the variables of a test are all different.** A test is made of the lines of its document.
It declares a variable for every contract, one for every account, and, in the order of the steps, one
for every value that is kept, each on a line of its own, and no other line declares anything. The
generated names are all different. So the names of all variables are different just if no two values
are kept under one name, and none under a generated name. -/
theorem compile_declaredNames {template : Template} {funding : Funding} {steps : List Step}
    {i : Indent} {source : String}
    (h : (compile template funding steps { indent := i }).result = .ok source) :
    ∃ d : Document, d = documentOf template funding steps d.groups ∧ source = d.text i ∧
      source = SourceLine.unlines (d.lines i) ++ "\n" ∧
      d.declarations i = (d.lines i).filterMap SourceLine.declared? ∧
      (∀ l ∈ d.lines i, ∀ v, l.declared? = some v → ∃ j, Declares j v l.text) ∧
      d.declaredNames i = generatedNames steps ++ keptNamesOf steps ∧
      (generatedNames steps).Nodup ∧
      ((d.declaredNames i).Nodup ↔
        (keptNamesOf steps).Nodup ∧ ∀ name ∈ keptNamesOf steps, name ∉ generatedNames steps) := by
  obtain ⟨groups, hsource, hlength, hgroups⟩ := exists_document h
  have hnames := declaredNames_documentOf template funding i hlength hgroups
  refine ⟨documentOf template funding steps groups, rfl, hsource, ?_, rfl,
    fun l _ v hv => l.declares_text hv, hnames, nodup_generatedNames steps, ?_⟩
  · rw [hsource, Document.text_eq_unlines]
  rw [hnames, List.nodup_append]
  constructor
  · rintro ⟨-, hkept, hapart⟩
    exact ⟨hkept, fun name hname hgenerated => hapart name hgenerated name hname rfl⟩
  · rintro ⟨hkept, hapart⟩
    refine ⟨nodup_generatedNames steps, hkept, ?_⟩
    rintro name hgenerated other hother rfl
    exact hapart name hother hgenerated

/-- Two calls that keep values under names of their own. -/
def keptApart : List Step :=
  [{ call := ⟨"0xA", "0xF", "function f() external returns (uint256, address)", none, none⟩,
     outputs := ["amount", " owner "] },
   { call := ⟨"0xB", "0xF", "function g() external returns (bool)", none, none⟩,
     outputs := ["ok"] }]

theorem compile_declaredNames_keptApart :
    ∃ source, (compile {} {} keptApart {}).result = .ok source ∧
      ∃ d : Document, source = d.text {} ∧
        d.declaredNames {} = ["contract1", "account1", "account2", "amount", "owner", "ok"] ∧
        (d.declaredNames {}).Nodup := by
  obtain ⟨source, h⟩ := exists_ok_of_isOk
    (show (compile {} {} keptApart {}).result.isOk = true by decide +kernel)
  obtain ⟨d, -, hsource, -, -, -, hnames, -, hnodup⟩ := compile_declaredNames h
  have hkept : keptNamesOf keptApart = ["amount", "owner", "ok"] := by decide +kernel
  have hgenerated : generatedNames keptApart = ["contract1", "account1", "account2"] := by
    decide +kernel
  rw [hkept, hgenerated] at hnames hnodup
  exact ⟨source, h, d, hsource, hnames, hnodup.mpr (by decide)⟩

/-- Two values are kept under one name, and a third under the name of the account. -/
def keptTwice : List Step :=
  [{ call := ⟨"0xA", "0xF", "function f() external returns (uint256, address)", none, none⟩,
     outputs := ["a", " a "] },
   { call := ⟨"0xA", "0xF", "function g() external returns (address)", none, none⟩,
     outputs := ["account1"] }]

/-- What the calls of the sequence are written as. -/
def keptTwiceGroups : List CallGroup :=
  [⟨[⟨"a", "", "uint256"⟩, ⟨"a", "", "address"⟩], some "account1", .slots ["a", "a"], "contract1",
      "f()"⟩,
    ⟨[], some "account1", .declared ⟨"account1", "", "address"⟩, "contract1", "g()"⟩]

/-- The sequence is accepted, and two of its names are declared twice. -/
theorem declaredNames_keptTwice :
    (compile {} {} keptTwice {}).result =
        .ok ((documentOf {} {} keptTwice keptTwiceGroups).text {}) ∧
      (documentOf {} {} keptTwice keptTwiceGroups).declaredNames {} =
        ["contract1", "account1", "a", "a", "account1"] ∧
      ¬((documentOf {} {} keptTwice keptTwiceGroups).declaredNames {}).Nodup ∧
      keptTwiceGroups.map (·.lines {}) =
        [["uint256 a;", "address a;", "vm.prank(account1);", "(a, a) = contract1.f();"],
          ["vm.prank(account1);", "address account1 = contract1.g();"]] := by
  refine ⟨?_, ?_, ?_, ?_⟩ <;> decide +kernel

end ExploitReplay
