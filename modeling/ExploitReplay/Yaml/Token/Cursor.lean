import ExploitReplay.Yaml.Token

/-!
# Places in a YAML text

## Main definitions

* `Yaml.Cursor`: the text that is left, with its place
* `Yaml.Cursor.step`, `Yaml.Cursor.skip`, `Yaml.Cursor.moveTo`: places further on
* `Yaml.Cursor.atMarker`: a document starts or ends here
-/

namespace ExploitReplay.Yaml

/-- The text that is left, with its place; lines and columns count from zero. -/
structure Cursor where
  rest : List Char
  index : Nat := 0
  line : Nat := 0
  column : Nat := 0
deriving Repr

namespace Cursor

/-- The character `k` places on. -/
def ahead (c : Cursor) (k : Nat) : Char :=
  c.rest.getD k endMark

/-- The next character. -/
def next (c : Cursor) : Char :=
  c.ahead 0

/-- The place after the next character. A byte order mark takes no column. -/
def step (c : Cursor) : Cursor :=
  match c.rest with
  | [] => c
  | ch :: cs =>
    if isBreak ch then ⟨cs, c.index + 1, c.line + 1, 0⟩
    else ⟨cs, c.index + 1, c.line, if ch = '\uFEFF' then c.column else c.column + 1⟩

/-- The place after the next `n` characters. -/
def skip (c : Cursor) : Nat → Cursor
  | 0 => c
  | n + 1 => skip c.step n

/-- The place where only `rest` is left. -/
def moveTo (c : Cursor) (rest : List Char) : Cursor :=
  c.skip (c.rest.length - rest.length)

/-- How many of the next characters have a property. -/
def count (c : Cursor) (p : Char → Bool) : Nat :=
  (c.rest.takeWhile p).length

/-- The place after the characters with a property. -/
def skipWhile (c : Cursor) (p : Char → Bool) : Cursor :=
  c.skip (c.count p)

/-- The next characters. -/
def text (c : Cursor) (n : Nat) : List Char :=
  c.rest.take n

/-- The text starts with a marker, three characters that form a word of their own. -/
def startsWithMarker (mark : List Char) (cs : List Char) : Bool :=
  mark.isPrefixOf cs && endsWord (cs.getD 3 endMark)

/-- A document starts here, in the first column. -/
def startsDocument (cs : List Char) : Bool :=
  startsWithMarker ['-', '-', '-'] cs

/-- A document ends here, in the first column. -/
def endsDocument (cs : List Char) : Bool :=
  startsWithMarker ['.', '.', '.'] cs

/-- A document starts or ends here, in the first column. -/
def atMarker (cs : List Char) : Bool :=
  startsDocument cs || endsDocument cs

end Cursor

end ExploitReplay.Yaml
