import ExploitReplay.Console.Markup
import ExploitReplay.Console.Pictures
import ExploitReplay.Console.Table

/-!
# Plain terminals

A terminal without colours is a console: a message comes out as lines of plain text. Controls that
would move the cursor are left out, a tab leads to the next tab stop, and a line that does not fit is
broken. A table is as wide as it has to be.

## Main definitions

* `Terminal`: what a terminal knows
* `Terminal.plain t cs`: the plain text of a text with markup
* `Terminal.message t cs`: a text with markup, as a message of its own
* `Terminal.table t title heading rows`: a table whose texts are written with markup
* `Terminal.console t`: the terminal as a console
-/

namespace ExploitReplay

/-- What a terminal knows: the columns of its lines, and the pictures that have names. -/
structure Terminal where
  width : Nat := 80
  picture? : List Char → Option (List Char) := Pictures.named?

namespace Terminal

/-! ### Messages -/

/-- The plain text of a text with markup. Its tabs are still there. -/
def plain (t : Terminal) (cs : List Char) : Except Console.Fault (List Char) :=
  (Markup.render t.picture? cs).map fun shown => shown.filter fun c => !Markup.movesCursor c

/-- The lines that a line comes out as. -/
def lines (t : Terminal) (cs : List Char) : List (List Char) :=
  let line := Line.expandTabs cs
  if line.length ≤ t.width ∧ Text.columnsOf line ≤ t.width then [line]
  else (Line.broken (Line.chopped t.width) t.width line).map (Line.withoutExcess t.width)

/-- A text with markup, as a message of its own. -/
def message (t : Terminal) (markup : String) : Except Console.Fault String :=
  (t.plain markup.toList).map fun cs =>
    String.ofList (['\n'].intercalate ((cs.splitOn '\n').flatMap t.lines)) ++ "\n"

/-! ### Tables -/

/-- What is shown of two cells. -/
def row (t : Terminal) (cells : String × String) : Except Console.Fault Table.Row :=
  (t.plain cells.1.toList).bind fun left =>
    (t.plain cells.2.toList).map fun right => (left, right)

/-- What is shown of several rows. -/
def rows (t : Terminal) : List (String × String) → Except Console.Fault (List Table.Row)
  | [] => .ok []
  | cells :: rest => (t.row cells).bind fun row => (t.rows rest).map (row :: ·)

/-- A table whose texts are written with markup. -/
def table (t : Terminal) (title : String) (heading : String × String)
    (cells : List (String × String)) : Except Console.Fault String :=
  (t.plain title.toList).bind fun title => (t.row heading).bind fun heading =>
    (t.rows cells).map fun rows => Table.render { title, heading, rows }

/-- The terminal as a console. -/
def console (t : Terminal) : Console where
  width := t.width
  columns text := Text.columnsOf text.toList
  print := t.message
  table := t.table

end Terminal

end ExploitReplay
