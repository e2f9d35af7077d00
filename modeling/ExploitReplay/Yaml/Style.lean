import ExploitReplay.Yaml.Resolution

/-!
# The styles of scalars

A text is written plain where it reads back as it stands on one line. Otherwise it is put between
single quotes, where only the single quote means something, and between double quotes where a
character needs an escape or white space at a line end would be lost.

## Main definitions

* `Yaml.Style`: how a scalar is written
* `Yaml.isPlain cs`: the text reads back as it stands
* `Yaml.styleOf cs`: how a text is written
-/

namespace ExploitReplay.Yaml

/-- How a scalar is written. -/
inductive Style where
  | plain
  | singleQuoted
  | doubleQuoted
deriving DecidableEq, Repr

/-! ### Plain scalars -/

/-- The characters that mean something at the beginning of a scalar. -/
def indicators : List Char :=
  "#,[]\x7b\x7d&*!|>'\"%@\x60".toList

/-- A question mark or a dash that is a word of its own. -/
def startsEntry : List Char → Bool
  | '?' :: rest => rest.head?.all (· == ' ')
  | '-' :: rest => rest.head?.all (· == ' ')
  | _ => false

/-- The text would be taken for something else from its first characters. -/
def startsMarked (cs : List Char) : Bool :=
  cs.head?.any indicators.contains || "---".toList.isPrefixOf cs || "...".toList.isPrefixOf cs ||
    startsEntry cs

/-- The text holds a key or a comment. -/
def holdsMark : List Char → Bool
  | [] => false
  | [c] => c == ':'
  | c :: d :: rest => (c == ':' && d == ' ') || (c == ' ' && d == '#') || holdsMark (d :: rest)

/-- The text is on one line and reads back as it stands. -/
def isPlain (cs : List Char) : Bool :=
  tagOf cs == .text && !cs.contains '\n' && cs.head? != some ' ' && cs.getLast? != some ' ' &&
    !startsMarked cs && !holdsMark cs

/-! ### Quoted scalars -/

/-- The character stands for itself between single quotes. -/
def isVisible (c : Char) : Bool :=
  ' ' ≤ c && c ≤ '~'

/-- The text has a space next to a line end, where it would be lost. -/
def hasLooseSpace : List Char → Bool
  | c :: d :: rest =>
    (c == ' ' && d == '\n') || (c == '\n' && d == ' ') || hasLooseSpace (d :: rest)
  | _ => false

/-- A character needs an escape, or white space would be lost. -/
def needsEscapes (cs : List Char) : Bool :=
  !cs.all (fun c => isVisible c || c == '\n') || hasLooseSpace cs

/-- How a text is written. -/
def styleOf (cs : List Char) : Style :=
  if needsEscapes cs then .doubleQuoted
  else if isPlain cs then .plain
  else .singleQuoted

end ExploitReplay.Yaml
