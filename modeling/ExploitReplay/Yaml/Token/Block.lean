import ExploitReplay.Yaml.Token.Cursor

/-!
# Block YAML scalars

A block scalar is introduced by a bar or an angle and holds the indented lines that follow, as they
are or folded into one.

## Main definitions

* `Yaml.BlockHeader`, `Yaml.blockHeader?`: how a block scalar is to be read
* `Yaml.blockScalar?`: a block scalar
-/

namespace ExploitReplay.Yaml

/-- How a block scalar is to be read: what to do with the line breaks at its end, and how far its
lines are indented, where that is said. -/
structure BlockHeader where
  /-- Keep the line breaks at the end (`true`), or none of them (`false`); by default, one. -/
  keep : Option Bool := none
  increment : Option Nat := none

/-- A sign in the header of a block scalar. -/
def keepSign? (c : Char) : Option Bool :=
  if c = '+' then some true else if c = '-' then some false else none

/-- A digit in the header of a block scalar. -/
def incrementDigit? (c : Char) : Option Nat :=
  if '0' ≤ c ∧ c ≤ '9' then some (c.toNat - '0'.toNat) else none

/-- A sign and a digit, in either order and each at most once. -/
def headerMarks (c : Cursor) : BlockHeader × Cursor :=
  match keepSign? c.next, incrementDigit? c.next with
  | some k, _ =>
    match incrementDigit? (c.ahead 1) with
    | some n => (⟨some k, some n⟩, c.skip 2)
    | none => (⟨some k, none⟩, c.step)
  | none, some n =>
    match keepSign? (c.ahead 1) with
    | some k => (⟨some k, some n⟩, c.skip 2)
    | none => (⟨none, some n⟩, c.step)
  | none, none => ({}, c)

/-- The rest of a header line: spaces and a comment at most. -/
def headerRest? (c : Cursor) : Option Cursor :=
  let c := c.skipWhile (· == ' ')
  let c := if c.next = '#' then c.skipWhile (fun ch => !endsLine ch) else c
  if isBreak c.next then some c.step else if c.next = endMark then some c else none

/-- The header of a block scalar, after its first character. -/
def blockHeader? (c : Cursor) : Option (BlockHeader × Cursor) :=
  let (header, c) := headerMarks c
  if header.increment = some 0 then none
  else if c.next ≠ ' ' ∧ !endsLine c.next then none
  else (headerRest? c).map fun c => (header, c)

/-- Blank lines and the indentation of the first other line: the line breaks, and the greatest
column that is reached. -/
def blockIndentation : Nat → Cursor → List Char → Nat → Cursor × List Char × Nat
  | 0, c, breaks, reached => (c, breaks, reached)
  | fuel + 1, c, breaks, reached =>
    if c.next = ' ' then blockIndentation fuel c.step breaks (max reached c.step.column)
    else if isBreak c.next then
      blockIndentation fuel c.step (breaks ++ [breakText c.next]) reached
    else (c, breaks, reached)

/-- Blank lines, and the indentation of the next line up to column `indent`. -/
def blockBreaks (indent : Nat) : Nat → Cursor → List Char → Cursor × List Char
  | 0, c, breaks => (c, breaks)
  | fuel + 1, c, breaks =>
    if c.column < indent ∧ c.next = ' ' then blockBreaks indent fuel c.step breaks
    else if isBreak c.next then
      blockBreaks indent fuel c.step (breaks ++ [breakText c.next])
    else (c, breaks)

/-- A line of the block scalar starts here. -/
def atBlockLine (indent : Nat) (c : Cursor) : Bool :=
  c.column == indent && c.next != endMark

/-- The lines of a block scalar after `done`: the text, the line break after the last line, and the
blank lines after that. -/
def blockLines (folded : Bool) (indent : Nat) :
    Nat → Cursor → List Char → List Char → List Char → Cursor × List Char × List Char × List Char
  | 0, c, done, ending, breaks => (c, done, ending, breaks)
  | fuel + 1, c, done, ending, breaks =>
    if atBlockLine indent c then
      let indented := c.next = ' ' ∨ c.next = '\t'
      let line := c.text (c.count fun ch => !endsLine ch)
      let c := c.skip line.length
      let (ending, c) := if isBreak c.next then ([breakText c.next], c.step) else ([], c)
      let done := done ++ breaks ++ line
      let (c, breaks) := blockBreaks indent c.rest.length c []
      if atBlockLine indent c then
        let foldable := folded ∧ ending = ['\n'] ∧ ¬indented ∧ c.next ≠ ' ' ∧ c.next ≠ '\t'
        let joint := if foldable then (if breaks = [] then [' '] else []) else ending
        blockLines folded indent fuel c (done ++ joint) ending breaks
      else (c, done, ending, breaks)
    else (c, done, ending, breaks)

/-- A block scalar, read after its first character: the place after it, and its text. `parent` is
the column of the collection it stands in. -/
def blockScalar? (folded : Bool) (parent : Int) (c : Cursor) : Option (Cursor × List Char) :=
  (blockHeader? c).map fun (header, c) =>
    let least := max (parent + 1) 1
    let (c, breaks, indent) :=
      match header.increment with
      | none =>
        let (c, breaks, reached) := blockIndentation c.rest.length c [] 0
        (c, breaks, max least.toNat reached)
      | some n =>
        let indent := least.toNat + n - 1
        let (c, breaks) := blockBreaks indent c.rest.length c []
        (c, breaks, indent)
    let (c, done, ending, breaks) := blockLines folded indent (c.rest.length + 1) c [] [] breaks
    let kept :=
      match header.keep with
      | none => ending
      | some true => ending ++ breaks
      | some false => []
    (c, done ++ kept)

end ExploitReplay.Yaml
