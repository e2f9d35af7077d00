/-!
# Paths

A path is a list of parts, read from the text between its slashes. Empty parts and single dots say
nothing and are left out; two dots are kept, since what they lead to is only known on a disk.

## Main definitions

* `Path`, `Path.ofString`, `Path.toString`: a path, read and written
* `Path.name`, `Path.stem`, `Path.suffix`: the last part, and the two parts of it
* `Path.isNameable`: there may be such a path on a disk
* `Path.parent`, `Path.child`: one part less, one part more
* `Path.expandHome?`: the path with the home directory in place of a tilde
* `Path.resolve`: the absolute path without dots
-/

namespace ExploitReplay

/-- A path, with the number of slashes it starts with: none for a relative path, and one for an
absolute path unless it is written with exactly two. -/
structure Path where
  slashes : Nat := 0
  parts : List String := []
deriving DecidableEq, Repr

namespace Path

/-- The part of a path that leads one directory up. -/
def up : String := ".."

/-- The slashes a path starts with, as far as they matter. -/
def leadingSlashes (cs : List Char) : Nat :=
  match (cs.takeWhile (· == '/')).length with
  | 0 => 0
  | 2 => 2
  | _ => 1

/-- The path that a text writes. -/
def ofString (s : String) : Path where
  slashes := leadingSlashes s.toList
  parts := ((s.toList.splitOn '/').map String.ofList).filter fun p => p ≠ "" ∧ p ≠ "."

/-- The path as text; the empty relative path is a dot. -/
def toString (p : Path) : String :=
  if p.slashes = 0 ∧ p.parts = [] then "."
  else String.ofList (List.replicate p.slashes '/') ++ "/".intercalate p.parts

/-- The path leads from the root. -/
def isAbsolute (p : Path) : Bool :=
  p.slashes ≠ 0

/-- The path holds no NUL, which ends names on a disk. -/
def isNameable (p : Path) : Bool :=
  p.parts.all fun part => !part.toList.contains '\x00'

/-- The last part; the empty text if there is none. -/
def name (p : Path) : String :=
  p.parts.getLast?.getD ""

/-- A name cut before its last dot, unless that is its first or its last character. -/
def cutName (name : List Char) : List Char × List Char :=
  let afterDot := (name.reverse.takeWhile (· != '.')).reverse
  let upToDot := name.take (name.length - afterDot.length - 1)
  if afterDot = [] ∨ upToDot = [] then (name, []) else (upToDot, '.' :: afterDot)

/-- The name without its suffix. -/
def stem (p : Path) : String :=
  String.ofList (cutName p.name.toList).1

/-- The suffix of the name with its dot; the empty text if there is none. -/
def suffix (p : Path) : String :=
  String.ofList (cutName p.name.toList).2

/-- The path without its last part. -/
def parent (p : Path) : Path :=
  { p with parts := p.parts.dropLast }

/-- The path with one more part. -/
def child (p : Path) (part : String) : Path :=
  { p with parts := p.parts ++ [part] }

/-- The path with the home directory in place of a tilde in front. Other names that start with a
tilde stand for the home directory of somebody else, which is not known. -/
def expandHome? (p home : Path) : Option Path :=
  match p.slashes, p.parts with
  | 0, first :: rest =>
    if first = "~" then some { home with parts := home.parts ++ rest }
    else if first.toList.head? = some '~' then none
    else some p
  | _, _ => some p

/-- A step along a path without dots: two dots lead back, and nowhere from the root. -/
def advance (parts : List String) (part : String) : List String :=
  if part = up then parts.dropLast else parts ++ [part]

/-- The absolute path without dots, for a path from the directory `here`. -/
def resolve (here : List String) (p : Path) : Path where
  slashes := 1
  parts := p.parts.foldl advance (if p.isAbsolute then [] else here)

@[simp] theorem parent_child (p : Path) (part : String) : (p.child part).parent = p := by
  simp [parent, child]

@[simp] theorem name_child (p : Path) (part : String) : (p.child part).name = part := by
  simp [name, child]

end Path

end ExploitReplay
