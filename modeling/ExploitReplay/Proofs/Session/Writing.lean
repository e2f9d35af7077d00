import ExploitReplay.Proofs.Calls
import ExploitReplay.Proofs.Session.Depth

/-!
# A test as a session

The contract of a test is a block: its commands declare the variables of the contracts and the
accounts, and hold two further blocks, one that funds the accounts and one that makes the calls.
Running this block answers with the same text as writing the test, leaves the same scope, gives the
same warnings, and fails in the same way. So writing a test restores the depth as every block does,
and a warning is given just for a test that was written at a depth other than zero.

## Main definitions

* `bodyCommands template funding steps`: the commands in the contract of a test
* `writtenInBlock template funding steps context`: the block of the contract, with the text of the
  test as its answer

## Main results

* `runAll_bodyCommands`: what the commands answer, and what they leave
* `compile_eq_inBlock`: writing the test does what the block does
* `depth_restored`: blocks and tests restore the depth, also when they fail
-/

namespace ExploitReplay

namespace Command

/-! ### Runs of several commands -/

theorem runAll_cons_of_ok {c : Command} {context mid : Context} {reply : Reply}
    {warnings : List Warning} (h : run c context = ⟨.ok reply, mid, warnings⟩)
    (cs : List Command) :
    runAll (c :: cs) context =
      ⟨(runAll cs mid).result.map (reply :: ·), (runAll cs mid).state,
        warnings ++ (runAll cs mid).warnings⟩ := by
  simp only [runAll, h]

theorem runAll_cons_of_error {c : Command} {context mid : Context} {e : Failure}
    {warnings : List Warning} (h : run c context = ⟨.error e, mid, warnings⟩)
    (cs : List Command) : runAll (c :: cs) context = ⟨.error e, mid, warnings⟩ := by
  simp only [runAll, h]

theorem runAll_singleton (c : Command) (context : Context) :
    runAll [c] context =
      ⟨(run c context).result.map ([·]), (run c context).state, (run c context).warnings⟩ := by
  rcases hrun : run c context with ⟨e | reply, mid, warnings⟩
  · exact runAll_cons_of_error hrun []
  · rw [runAll_cons_of_ok hrun, runAll, List.append_nil]
    rfl

section Each

variable {α : Type} (f : α → Command)

/-- Commands that declare a variable each answer with their lines, and the commands behind them run
with all the variables. -/
theorem runAll_declaring_append (line : Indent → α → String) (binding : α → Binding)
    (h : ∀ x context, run (f x) context =
      ⟨.ok (.text (line context.indent x)),
        { context with scope := context.scope.define (binding x) }, []⟩)
    (xs : List α) (cs : List Command) (context : Context) :
    runAll (xs.map f ++ cs) context =
      let rest := runAll cs { context with scope := context.scope.defineAll (xs.map binding) }
      ⟨rest.result.map (xs.map (fun x => .text (line context.indent x)) ++ ·), rest.state,
        rest.warnings⟩ := by
  induction xs generalizing context with
  | nil =>
    have hmap : (runAll cs context).result.map ([] ++ ·) = (runAll cs context).result :=
      congrFun Except.map_id _
    simp only [List.map_nil, Scope.defineAll_nil, hmap]
    rfl
  | cons x xs ih =>
    rw [List.map_cons, List.cons_append, runAll_cons_of_ok (h x context), ih]
    simp only [List.map_cons, Scope.defineAll_cons, List.nil_append]
    congr 1
    cases (runAll cs _).result <;> rfl

/-- Commands that only write a line answer with their lines. -/
theorem runAll_writing (line : Context → α → String)
    (h : ∀ x context, run (f x) context = ⟨.ok (.text (line context x)), context, []⟩)
    (xs : List α) (context : Context) :
    runAll (xs.map f) context =
      ⟨.ok (xs.map fun x => .text (line context x)), context, []⟩ := by
  induction xs with
  | nil => rfl
  | cons x xs ih =>
    rw [List.map_cons, runAll_cons_of_ok (h x context), ih]
    rfl

end Each

/-- **Calls are settled one after another** by the commands that make them. -/
theorem runAll_calls {all steps : List Step} (hsub : ∀ step ∈ steps, step ∈ all)
    (context : Context) :
    runAll (steps.map fun step => .call step (contractOf all step)) context =
      let calls := TestContract.callsOf (AddressBook.ofSteps all) steps context.scope
      ⟨calls.result.map fun cs => cs.map fun c => .text (c.render context.indent),
        { context with scope := calls.state }, calls.warnings⟩ := by
  induction steps generalizing context with
  | nil => rfl
  | cons step steps ih =>
    have hcall := callOf_ofSteps (hsub step (by simp)) context.scope
    cases hof : CallStatement.ofStep context.scope step (contractOf all step) with
    | error e =>
      have hrun : run (.call step (contractOf all step)) context = ⟨.error e, context, []⟩ := by
        simp only [run, runCall, hof]
      rw [List.map_cons, runAll_cons_of_error hrun]
      simp only [TestContract.callsOf, hcall, hof]
      rfl
    | ok c =>
      have hrun : run (.call step (contractOf all step)) context =
          ⟨.ok (.text (c.render context.indent)),
            { context with scope := c.declareIn context.scope }, c.warnings⟩ := by
        simp only [run, runCall, hof]
      rw [List.map_cons, runAll_cons_of_ok hrun, ih fun s hs => hsub s (List.mem_cons_of_mem _ hs)]
      simp only [TestContract.callsOf, hcall, hof]
      congr 1
      cases (TestContract.callsOf (AddressBook.ofSteps all) steps
        (c.declareIn context.scope)).result <;> rfl

end Command

/-! ### The contract of a test -/

open Command

/-- The outcome of a block whose answer is a test: one that is written at a depth other than zero has
a warning of it. -/
def Answer.asTest (written : Answer) : Outcome Context String :=
  ⟨written.result.map Reply.written, written.state,
    written.warnings ++
      (if written.result.isOk then depthWarnings written.state.indent else [])⟩

section Body

variable (template : Template) (funding : Funding) (steps : List Step)

/-- The commands that fund the accounts, if there is an amount. -/
def dealCommands : List Command :=
  match CallStatement.filled (funding.resolve template.usualFunds) with
  | some amount => (AddressBook.ofSteps steps).accounts.map fun p => .deal p.1 amount
  | none => []

/-- The commands that make the calls. -/
def callCommands : List Command :=
  steps.map fun step => .call step (contractOf steps step)

/-- The function that funds the accounts. -/
def setUpCommand : Command :=
  .function template.setUpName Solidity.usualModifiers Solidity.lineBreak
    (dealCommands template funding steps)

/-- The function that makes the calls. -/
def exploitCommand : Command :=
  .function template.exploitName Solidity.usualModifiers Solidity.blankLine (callCommands steps)

/-- The commands in the contract of a test: the variables, and the two functions. -/
def bodyCommands : List Command :=
  (AddressBook.ofSteps steps).contracts.map (fun p => .contractVariable p.1.address p.2) ++
    ((AddressBook.ofSteps steps).accounts.map (fun p => .accountVariable p.1 p.2) ++
      [setUpCommand template funding steps, exploitCommand template steps])

/-- The text of a test, put together from the texts of the commands in its contract: those of the
contracts belong together, and so do those of the accounts. -/
def assembled (i : Indent) (texts : List String) : String :=
  let book := AddressBook.ofSteps steps
  let functions := texts.drop (book.contracts.length + book.accounts.length)
  Solidity.sections
    ([Solidity.group
        [Solidity.licenseLine template.license, Solidity.pragmaLine template.solidityVersion],
        Solidity.importLine template.testSymbol template.testImport] ++
      book.contracts.map (fun (e, n) => Solidity.interfaceBlock i n e.signatures) ++
      [Solidity.contractBlock i template.contractName (some Solidity.usualBase)
        (Solidity.sections
          ([Solidity.group (texts.take book.contracts.length),
              Solidity.group ((texts.drop book.contracts.length).take book.accounts.length)] ++
            functions))]) ++ "\n"

/-- The block of the contract, whose answers are put together as the text of the test. -/
def writtenInBlock (context : Context) : Answer :=
  inBlock context 1 (runAll (bodyCommands template funding steps)) fun replies =>
    .text (assembled template steps context.indent (replies.map Reply.written))

/-- The accounts are funded by the references of the scope. -/
theorem runAll_dealCommands (context : Context) :
    runAll (dealCommands template funding steps) context =
      ⟨.ok ((TestContract.dealsOf context.scope (AddressBook.ofSteps steps).accounts
          (funding.resolve template.usualFunds)).map fun deal =>
            .text (Solidity.dealLine context.indent deal.1 deal.2)), context, []⟩ := by
  unfold dealCommands TestContract.dealsOf
  cases CallStatement.filled (funding.resolve template.usualFunds) with
  | none => rfl
  | some amount =>
    dsimp only
    rw [List.map_map, runAll_writing (fun p : String × Nat => .deal p.1 amount)
      (fun context p => Solidity.dealLine context.indent (context.scope.reference p.1) amount)
      fun _ _ => by rw [run]; rfl]
    rfl

/-- Texts are written as they are answered. -/
theorem map_written_map_text {α : Type} (xs : List α) (text : α → String) :
    (xs.map fun x => Reply.text (text x)).map Reply.written = xs.map text := by
  rw [List.map_map]
  rfl

/-- The function that funds the accounts changes nothing. -/
theorem run_setUpCommand (context : Context) :
    run (setUpCommand template funding steps) context =
      ⟨.ok (.text (Solidity.functionBlock context.indent template.setUpName
        Solidity.usualModifiers
        (Solidity.group ((TestContract.dealsOf context.scope (AddressBook.ofSteps steps).accounts
          (funding.resolve template.usualFunds)).map fun deal =>
            Solidity.dealLine context.indent.deeper deal.1 deal.2)))), context, []⟩ := by
  simp only [setUpCommand, run, inBlock, runAll_dealCommands, Except.map, map_written_map_text]
  rfl

/-- The function that makes the calls settles them one after another. -/
theorem run_exploitCommand (context : Context) :
    run (exploitCommand template steps) context =
      let calls := TestContract.callsOf (AddressBook.ofSteps steps) steps context.scope
      ⟨calls.result.map fun cs => .text (Solidity.functionBlock context.indent template.exploitName
          Solidity.usualModifiers (Solidity.sections (cs.map (·.render context.indent.deeper)))),
        { context with scope := calls.state }, calls.warnings⟩ := by
  simp only [exploitCommand, callCommands, run, inBlock, runAll_calls fun _ => id]
  congr 1
  cases (TestContract.callsOf (AddressBook.ofSteps steps) steps context.scope).result with
  | error e => rfl
  | ok cs => simp only [Except.map, map_written_map_text, Solidity.sections]

/-- **What the commands in a contract answer, and what they leave.** -/
theorem runAll_bodyCommands (context : Context) :
    runAll (bodyCommands template funding steps) context =
      let plan := TestContract.ofSteps template funding steps context.scope
      ⟨plan.result.map fun t =>
          (t.contractLines context.indent ++ t.accountLines context.indent ++
            [t.setUp context.indent, t.exploit context.indent]).map .text,
        { context with scope := plan.state }, plan.warnings⟩ := by
  have hready : (context.scope.defineAll ((AddressBook.ofSteps steps).contracts.map fun p =>
        Solidity.contractBinding p.1.address p.2)).defineAll
      ((AddressBook.ofSteps steps).accounts.map fun p => Solidity.accountBinding p.1 p.2) =
        readyScope steps context.scope :=
    (Scope.defineAll_append _ _ _).symm
  rw [bodyCommands,
    runAll_declaring_append (fun p : ContractEntry × Nat => .contractVariable p.1.address p.2)
      (fun i p => Solidity.contractLine i p.1.address p.2)
      (fun p => Solidity.contractBinding p.1.address p.2) fun _ _ => by rw [run]; rfl,
    runAll_declaring_append (fun p : String × Nat => .accountVariable p.1 p.2)
      (fun i p => Solidity.accountLine i p.1 p.2)
      (fun p => Solidity.accountBinding p.1 p.2) fun _ _ => by rw [run]; rfl]
  dsimp only
  rw [hready, runAll_cons_of_ok (run_setUpCommand template funding steps _), runAll_singleton,
    run_exploitCommand]
  unfold readyScope
  simp only [TestContract.ofSteps, List.nil_append]
  congr 1
  -- the answers are put together only if every call is settled
  cases (TestContract.callsOf (AddressBook.ofSteps steps) steps
      (context.scope.defineAll
        (TestContract.generatedBindings (AddressBook.ofSteps steps)))).result with
  | error e => rfl
  | ok cs =>
    simp only [Except.map, TestContract.contractLines, TestContract.accountLines, List.map_append,
      List.map_map, List.append_assoc]
    rfl

/-- A plan has the contracts and the accounts of its book. -/
theorem ofSteps_parts {scope : Scope} {t : TestContract}
    (h : (TestContract.ofSteps template funding steps scope).result = .ok t) :
    t.template = template ∧ t.contracts = (AddressBook.ofSteps steps).contracts ∧
      t.accounts = (AddressBook.ofSteps steps).accounts := by
  unfold TestContract.ofSteps at h
  cases hcalls : (TestContract.callsOf (AddressBook.ofSteps steps) steps
      (scope.defineAll (TestContract.generatedBindings (AddressBook.ofSteps steps)))).result with
  | error e => simp [hcalls, Except.map] at h
  | ok cs =>
    simp only [hcalls, Except.map] at h
    obtain rfl := Except.ok.inj h
    exact ⟨rfl, rfl, rfl⟩

/-- The texts of a plan, put together, are its text. -/
theorem assembled_eq_render (i : Indent) {t : TestContract} (htemplate : t.template = template)
    (hcontracts : t.contracts = (AddressBook.ofSteps steps).contracts)
    (haccounts : t.accounts = (AddressBook.ofSteps steps).accounts) :
    assembled template steps i (t.contractLines i.deeper ++ t.accountLines i.deeper ++
      [t.setUp i.deeper, t.exploit i.deeper]) = t.render i := by
  have hlength : (t.contractLines i.deeper).length = t.contracts.length := List.length_map _
  have hlength' : (t.accountLines i.deeper).length = t.accounts.length := List.length_map _
  rw [List.append_assoc, assembled, ← hcontracts, ← haccounts, ← htemplate]
  dsimp only
  rw [List.take_left' hlength, ← List.drop_drop, List.drop_left' hlength, List.take_left' hlength',
    List.drop_left' hlength']
  rfl

/-- **Writing a test does what its contract does as a block**: the texts of the commands are put
together as its text, it leaves the same context, and fails in the same way with the same warnings. A
test that is written may have one more warning, by the depth that the block leaves. -/
theorem compile_eq_inBlock (context : Context) :
    compile template funding steps context =
      Answer.asTest (writtenInBlock template funding steps context) := by
  have htext : ∀ t, (TestContract.ofSteps template funding steps context.scope).result = .ok t →
      assembled template steps context.indent
        (((t.contractLines context.indent.deeper ++ t.accountLines context.indent.deeper ++
          [t.setUp context.indent.deeper, t.exploit context.indent.deeper]).map
            Reply.text).map Reply.written) = t.render context.indent := by
    intro t ht
    obtain ⟨htemplate, hcontracts, haccounts⟩ := ofSteps_parts template funding steps ht
    rw [map_written_map_text, List.map_id']
    exact assembled_eq_render template steps _ htemplate hcontracts haccounts
  simp only [Answer.asTest, writtenInBlock, inBlock, runAll_bodyCommands, compile]
  cases hplan : (TestContract.ofSteps template funding steps context.scope).result with
  | error e => exact congrArg _ (List.append_nil _).symm
  | ok t =>
    simp only [Except.map, Reply.written, htext t hplan]
    rfl

end Body

/-! ### The depth of a test -/

/-- The warning is that of a test written at a depth other than zero. -/
def Warning.isDepthLeft : Warning → Bool
  | .depthLeft _ => true
  | _ => false

/-- Calls say nothing about the depth. -/
theorem filter_isDepthLeft_calls (cs : List CallStatement) :
    (cs.flatMap CallStatement.warnings).filter Warning.isDepthLeft = [] := by
  rw [List.filter_eq_nil_iff]
  intro w hw
  obtain ⟨c, -, hw⟩ := List.mem_flatMap.mp hw
  obtain ⟨value, -, rfl⟩ := List.mem_map.mp hw
  exact Bool.false_ne_true

theorem filter_isDepthLeft_depthWarnings (i : Indent) :
    (depthWarnings i).filter Warning.isDepthLeft =
      if i.depth ≠ 0 then [.depthLeft i.depth] else [] := by
  unfold depthWarnings
  split <;> simp_all [Warning.isDepthLeft]

/-- **A test warns of its depth** just if it is written and that depth is not zero. -/
theorem filter_isDepthLeft_compile (template : Template) (funding : Funding) (steps : List Step)
    (context : Context) :
    (compile template funding steps context).warnings.filter Warning.isDepthLeft =
      if (compile template funding steps context).result.isOk ∧ context.indent.depth ≠ 0 then
        [.depthLeft context.indent.depth]
      else [] := by
  rcases compile_cases template funding steps context with
    ⟨cs, left, hcalls⟩ | ⟨before, step, after, cs, left, e, -, -, -, hof⟩
  · rw [compile_of_calls template funding hcalls, List.filter_append, filter_isDepthLeft_calls,
      filter_isDepthLeft_depthWarnings]
    simp [Except.isOk, Except.toBool]
  · rw [hof, filter_isDepthLeft_calls]
    simp [Except.isOk, Except.toBool]

/-- **Depths are restored.** In a session, every command at any nesting is run at the depth of its
place, and leaves that depth as it was, whether it fails or not, unless it is one of the two moves;
in particular this holds of blocks, whose bodies may move the depth by any number of levels and fail
at any point. The session as a whole moves the depth by its own moves only. Writing a test does what
its contract does as a block: so it leaves the depth as it was, also when it fails, and warns of the
depth just if it succeeds at a depth other than zero. -/
theorem depth_restored (program : List Command) (start : Context) (template : Template)
    (funding : Funding) (steps : List Step) (context : Context) :
    (∀ c before, Visits program start c before →
      Stands program start.indent.depth c before.indent.depth ∧
        (c.isMove = false → (run c before).state.indent.depth = before.indent.depth)) ∧
    (stateAfter program start).indent.depth = depthAfter program start.indent.depth ∧
    compile template funding steps context =
      Answer.asTest (writtenInBlock template funding steps context) ∧
    (compile template funding steps context).state.indent.depth = context.indent.depth ∧
    (compile template funding steps context).warnings.filter Warning.isDepthLeft =
      if (compile template funding steps context).result.isOk ∧ context.indent.depth ≠ 0 then
        [.depthLeft context.indent.depth]
      else [] := by
  have hblock := compile_eq_inBlock template funding steps context
  refine ⟨fun c before hvisits => ⟨hvisits.stands, fun hmove => ?_⟩, ?_, hblock, ?_,
    filter_isDepthLeft_compile template funding steps context⟩
  · rw [indent_run, moved_of_not_isMove hmove]
  · rw [indent_stateAfter]
  · -- a block restores what its body moves
    rw [hblock, Answer.asTest, writtenInBlock, indent_inBlock]

/-- A function whose body moves out further than it stands, and fails before it moves back. -/
def failingFunction : Command :=
  .function "inner" ["public"] "\n" [.decrease 9, .get "missing", .increase 1]

/-- A session that starts below zero, with the failing function inside of a contract. -/
def unbalancedSession : List Command :=
  [.increase (-3), .contract "Outer" none [.increase 5, failingFunction, .indent], .decrease 1]

theorem depth_restored_unbalancedSession :
    Visits unbalancedSession {} failingFunction { indent := { depth := 3 } } ∧
      (run failingFunction { indent := { depth := 3 } }).result =
        .error (.unknownVariable "missing") ∧
      (run failingFunction { indent := { depth := 3 } }).state.indent.depth = 3 ∧
      (stateAfter unbalancedSession {}).indent.depth = 0 := by
  obtain ⟨hvisited, hsession, -⟩ := depth_restored unbalancedSession {} {} {} [] {}
  have hvisits : Visits unbalancedSession {} failingFunction { indent := { depth := 3 } } :=
    .later (.inside rfl (.later .here))
  exact ⟨hvisits, rfl, (hvisited _ _ hvisits).2 rfl, hsession⟩

end ExploitReplay
