import ExploitReplay.Session.Run

/-!
# The depth of a session

A block runs its body deeper and returns to the depth it started from, whatever the body does: it may
move the depth by any number of levels, open further blocks, or fail at any point. So the depth at
which a command runs depends on its place in the program only, and a program moves the depth by its
own moves, those inside of blocks aside.

## Main definitions

* `Command.moved c depth`: the depth after a command; only the two moves change it
* `Command.depthAfter program depth`: the depth after the commands of a program
* `Command.block? c`: the levels and the body of a block
* `Visits program context c before`: a command is run in a context while a program is run
* `Stands program depth c place`: the depth of the place where a command stands in a program

## Main results

* `indent_run`: what a command leaves of the depth, whether it fails or not
* `Visits.stands`: a command is run at the depth of its place
* `indent_stateAfter`: what a session leaves of the depth
-/

namespace ExploitReplay.Command

/-! ### One command -/

/-- The depth after a command: only the two moves change it. -/
def moved : Command → Int → Int
  | .increase levels, depth => depth + levels
  | .decrease levels, depth => max (depth - levels) 0
  | _, depth => depth

/-- The command moves the depth. -/
def isMove : Command → Bool
  | .increase _ => true
  | .decrease _ => true
  | _ => false

theorem moved_of_not_isMove {c : Command} (h : c.isMove = false) (depth : Int) :
    c.moved depth = depth := by
  cases c <;> first | rfl | cases h

/-- A call statement leaves the indentation alone, whether it is settled or not. -/
theorem indent_runCall (context : Context) (step : Step) (target : String) :
    (runCall context step target).state.indent = context.indent := by
  unfold runCall
  split <;> rfl

/-- **What a command leaves of the depth**, whether it fails or not: a block returns to the depth it
started from, and a move changes it. -/
theorem indent_run (c : Command) (context : Context) :
    (run c context).state.indent =
      { context.indent with depth := c.moved context.indent.depth } := by
  cases c with
  | get name =>
    rw [run]
    split <;> rfl
  | call step target => rw [run, indent_runCall]; rfl
  | indented | function | contract => rw [run, indent_inBlock]; rfl
  | _ => rw [run]; rfl

/-! ### What is run inside of blocks -/

/-- The levels and the body of a block. -/
def block? : Command → Option (Int × List Command)
  | .indented levels body => some (levels, body)
  | .function _ _ _ body => some (1, body)
  | .contract _ _ body => some (1, body)
  | _ => none

/-- A command is run in a context while a program is run in another: it is a command of the program,
or of the body of a block, at any nesting. A command that stands behind one that fails counts as
well, in what that one leaves, as a session goes on after a failure. -/
inductive Visits : List Command → Context → Command → Context → Prop where
  | here {c : Command} {cs : List Command} {context : Context} : Visits (c :: cs) context c context
  | later {c c' : Command} {cs : List Command} {context before : Context}
      (rest : Visits cs (run c context).state c' before) : Visits (c :: cs) context c' before
  | inside {c c' : Command} {cs body : List Command} {context before : Context} {levels : Int}
      (block : c.block? = some (levels, body))
      (inner : Visits body { context with indent := context.indent.deeper levels } c' before) :
      Visits (c :: cs) context c' before

/-- The depth of the place where a command stands in a program that starts at a depth: the moves
before it in the same body count, and the levels of the blocks around it, but nothing that stands in
the body of another block. -/
inductive Stands : List Command → Int → Command → Int → Prop where
  | here {c : Command} {cs : List Command} {depth : Int} : Stands (c :: cs) depth c depth
  | later {c c' : Command} {cs : List Command} {depth place : Int}
      (rest : Stands cs (c.moved depth) c' place) : Stands (c :: cs) depth c' place
  | inside {c c' : Command} {cs body : List Command} {depth place levels : Int}
      (block : c.block? = some (levels, body)) (inner : Stands body (depth + levels) c' place) :
      Stands (c :: cs) depth c' place

/-- **A command is run at the depth of its place.** -/
theorem Visits.stands {program : List Command} {context before : Context} {c : Command}
    (h : Visits program context c before) :
    Stands program context.indent.depth c before.indent.depth := by
  induction h with
  | here => exact .here
  | later _ ih =>
    rw [indent_run] at ih
    exact .later ih
  | inside block _ ih => exact .inside block ih

/-! ### Sessions -/

/-- The context after a session, which goes on after a command that fails. -/
def stateAfter (program : List Command) (context : Context) : Context :=
  program.foldl (fun context c => (run c context).state) context

/-- The depth after the commands of a program: what stands in the body of a block does not count. -/
def depthAfter (program : List Command) (depth : Int) : Int :=
  program.foldl (fun depth c => c.moved depth) depth

/-- **What a session leaves of the depth.** -/
theorem indent_stateAfter (program : List Command) (context : Context) :
    (stateAfter program context).indent =
      { context.indent with depth := depthAfter program context.indent.depth } := by
  induction program generalizing context with
  | nil => rfl
  | cons c program ih =>
    rw [stateAfter, List.foldl_cons]
    refine (ih _).trans ?_
    rw [indent_run]
    rfl

end ExploitReplay.Command
