import ExploitReplay.Sequence.Step

/-!
# Session commands

A session writes pieces of a test one by one in one context. Its commands declare and look up names,
move the indentation, and write lines, statements and blocks; a block holds further commands.

## Main definitions

* `Command`: one command
* `Reply`: what a command answers
-/

namespace ExploitReplay

/-- A command of a session. -/
inductive Command where
  /-- Text that stands for itself, in the body of a block. -/
  | text (s : String)
  | define (name value type : String)
  | get (name : String)
  | reverseLookup (value : String)
  | contains (name : String)
  | count
  | increase (levels : Int)
  | decrease (levels : Int)
  | indent
  | indented (levels : Int) (body : List Command)
  | license (id : String)
  | pragma (version : String)
  | importing (symbol path : String)
  | interface (index : Int) (signatures : List String)
  | declare (name type value : String)
  | contractVariable (address : String) (index : Int)
  | accountVariable (address : String) (index : Int)
  | reference (address : String)
  | prank (caller : String)
  | deal (account amount : String)
  | options (value gasLimit : Option String) (payable : Bool)
  | arguments (inputs : List Argument)
  | call (step : Step) (target : String)
  | function (name : String) (modifiers : List String) (separator : String) (body : List Command)
  | contract (name : String) (base : Option String) (body : List Command)
  | joinGroup (items : List String)
  | joinSections (items : List String)
deriving Inhabited

/-- What a command answers. -/
inductive Reply where
  | nothing
  | text (s : String)
  | flag (b : Bool)
  | number (n : Nat)
  | binding (name value type : String)
  | replies (rs : List Reply)
deriving Repr, Inhabited

/-- What a reply adds to the body of a block: only text is written. -/
def Reply.written : Reply → String
  | .text s => s
  | _ => ""

end ExploitReplay
