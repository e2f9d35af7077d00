import ExploitReplay.Indent

/-!
# Layout of generated source

Generated source is put together from pieces, some of which may be empty. Empty pieces leave no
trace: neither a line nor a blank line.

## Main definitions

* `Solidity.joined sep items`: the pieces that are not empty, separated
* `Solidity.group items`, `Solidity.sections items`: pieces on lines of their own, and pieces with a
  blank line between them
* `Solidity.block i head body`: a head and a body between braces
-/

namespace ExploitReplay.Solidity

/-- The pieces that are not empty, with a separator between neighbours. -/
def joined (sep : String) (items : List String) : String :=
  sep.intercalate (items.filter (· ≠ ""))

/-- The separator of lines that belong together. -/
def lineBreak : String := "\n"

/-- The separator of sections. -/
def blankLine : String := "\n\n"

/-- The pieces on lines of their own. -/
def group (items : List String) : String :=
  joined lineBreak items

/-- The pieces with a blank line between neighbours. -/
def sections (items : List String) : String :=
  joined blankLine items

/-- A head and a body between braces; the body has its own indentation. -/
def block (i : Indent) (head body : String) : String :=
  group [i.line (head ++ " \x7b"), body, i.line "\x7d"]

@[simp] theorem joined_nil (sep : String) : joined sep [] = "" := by
  simp [joined]

@[simp] theorem joined_empty_cons (sep : String) (items : List String) :
    joined sep ("" :: items) = joined sep items := by
  simp [joined]

/-- A piece that is alone is written as it stands. -/
@[simp] theorem joined_singleton (sep s : String) : joined sep [s] = s := by
  by_cases h : s = "" <;> simp [joined, h]

end ExploitReplay.Solidity
