import ExploitReplay.Session.Command
import ExploitReplay.TestContract

/-!
# Running sessions

Every command answers, or fails, and leaves a context. A block runs its body at a deeper indentation
and then returns to the depth it started from, however its body ends.

## Main definitions

* `Command.run c context`: the answer of a command and the context it leaves
* `Command.runAll cs context`: the answers of several commands, up to the first that fails
-/

namespace ExploitReplay

/-- The outcome of a command: its answer, the context it leaves, and warnings. -/
abbrev Answer := Outcome Context Reply

namespace Answer

/-- A text is answered and the context stays as it is. -/
def text (context : Context) (s : String) : Answer :=
  ⟨.ok (.text s), context, []⟩

/-- A binding is declared. -/
def declaring (context : Context) (b : Binding) (reply : Reply) : Answer :=
  ⟨.ok reply, { context with scope := context.scope.define b }, []⟩

/-- The indentation is moved. -/
def moving (context : Context) (i : Indent) : Answer :=
  ⟨.ok .nothing, { context with indent := i }, []⟩

end Answer

/-- A binding as a reply. -/
def Binding.reply (b : Binding) : Reply :=
  .binding b.name b.value b.type

namespace Command

/-- The outcome of a block: the body starts deeper, and what it leaves is brought back to the depth
of the context before it. -/
def inBlock (context : Context) (levels : Int)
    (body : Context → Outcome Context (List Reply)) (finish : List Reply → Reply) : Answer :=
  let inner := body { context with indent := context.indent.deeper levels }
  ⟨inner.result.map finish, { inner.state with indent := context.indent }, inner.warnings⟩

/-- The outcome of a call statement: nothing is declared if it fails. -/
def runCall (context : Context) (step : Step) (target : String) : Answer :=
  match CallStatement.ofStep context.scope step target with
  | .error e => ⟨.error e, context, []⟩
  | .ok c =>
    ⟨.ok (.text (c.render context.indent)),
      { context with scope := c.declareIn context.scope }, c.warnings⟩

mutual

/-- The answer of a command and the context it leaves. -/
def run : Command → Context → Answer
  | .text s, context => .text context s
  | .define name value type, context =>
    .declaring context ⟨name, value, type⟩ (.binding name value type)
  | .get name, context =>
    match context.scope.find? name with
    | some b => ⟨.ok b.reply, context, []⟩
    | none => ⟨.error (.unknownVariable name), context, []⟩
  | .reverseLookup value, context =>
    ⟨.ok (((context.scope.holding? value).map Binding.reply).getD .nothing), context, []⟩
  | .contains name, context => ⟨.ok (.flag (context.scope.contains name)), context, []⟩
  | .count, context => ⟨.ok (.number context.scope.size), context, []⟩
  | .increase levels, context => .moving context (context.indent.deeper levels)
  | .decrease levels, context => .moving context (context.indent.shallower levels)
  | .indent, context => .text context context.indent.text
  | .indented levels body, context => inBlock context levels (runAll body) .replies
  | .license id, context => .text context (Solidity.licenseLine id)
  | .pragma version, context => .text context (Solidity.pragmaLine version)
  | .importing symbol path, context => .text context (Solidity.importLine symbol path)
  | .interface index signatures, context =>
    .text context (Solidity.interfaceBlock context.indent index signatures)
  | .declare name type value, context =>
    .declaring context ⟨name, value, type⟩
      (.text (Solidity.variableLine context.indent ⟨name, value, type⟩))
  | .contractVariable address index, context =>
    .declaring context (Solidity.contractBinding address index)
      (.text (Solidity.contractLine context.indent address index))
  | .accountVariable address index, context =>
    .declaring context (Solidity.accountBinding address index)
      (.text (Solidity.accountLine context.indent address index))
  | .reference address, context => .text context (context.scope.reference address)
  | .prank caller, context =>
    .text context (Solidity.prankLine context.indent (context.scope.reference caller))
  | .deal account amount, context =>
    .text context (Solidity.dealLine context.indent (context.scope.reference account) amount)
  | .options value gasLimit payable, context =>
    ⟨.ok (.text (CallStatement.executionOptions value gasLimit payable)), context,
      (CallStatement.unsentValue value payable).toList.map .ignoredValue⟩
  | .arguments inputs, context =>
    ⟨(CallStatement.argumentsText context.scope inputs).map .text, context, []⟩
  | .call step target, context => runCall context step target
  | .function name modifiers separator body, context =>
    inBlock context 1 (runAll body) fun replies =>
      .text (Solidity.functionBlock context.indent name modifiers
        (Solidity.joined separator (replies.map Reply.written)))
  | .contract name base body, context =>
    inBlock context 1 (runAll body) fun replies =>
      .text (Solidity.contractBlock context.indent name base
        (Solidity.sections (replies.map Reply.written)))
  | .joinGroup items, context => .text context (Solidity.group items)
  | .joinSections items, context => .text context (Solidity.sections items)

/-- The answers of several commands, each in the context that the one before it leaves. The first
that fails ends them. -/
def runAll : List Command → Context → Outcome Context (List Reply)
  | [], context => ⟨.ok [], context, []⟩
  | c :: cs, context =>
    let first := run c context
    match first.result with
    | .error e => ⟨.error e, first.state, first.warnings⟩
    | .ok reply =>
      let rest := runAll cs first.state
      ⟨rest.result.map (reply :: ·), rest.state, first.warnings ++ rest.warnings⟩

end

/-- **A block restores the indentation**, however its body ends. -/
@[simp] theorem indent_inBlock (context : Context) (levels : Int)
    (body : Context → Outcome Context (List Reply)) (finish : List Reply → Reply) :
    (inBlock context levels body finish).state.indent = context.indent := rfl

end Command

end ExploitReplay
