import ExploitReplay.Text.Digits
import ExploitReplay.Yaml.Style

/-!
# Writing YAML

A mapping between texts is written one pair after the other. A line that has become too long ends at
the next space between two words. Between double quotes it ends after a backslash, so that it need
not end at a space.

## Main definitions

* `Yaml.foldedText`: a text on lines, plain or between single quotes
* `Yaml.escapedText`: a text on lines between double quotes
* `Yaml.scalarText column s`: a text as a scalar
* `Yaml.mappingText pairs`: a mapping between texts
-/

namespace ExploitReplay.Yaml

/-- How long a line becomes before it ends. -/
def lineWidth : Nat := 80

/-- The indentation of a line in the middle of a scalar. -/
def indentation : List Char := [' ', ' ']

/-- The column after the indentation. -/
def indented : Nat := indentation.length

/-! ### Plain and single-quoted scalars -/

/-- The space after `last` and before the others stands alone between two words. -/
def isLoneSpace (last : Option Char) (rest : List Char) : Bool :=
  last.any (· != ' ') && rest.head?.any (· != ' ')

/-- The text of a character, from which a single quote is doubled if it would end the scalar. -/
def quoteDoubled (quoted : Bool) (c : Char) : List Char :=
  if quoted && c == '\'' then ['\'', '\''] else [c]

/-- The lines of a text after the character `last` in a column. Line ends of the text are written
with one more, since a line end alone is read as a space. -/
def foldedFrom (quoted : Bool) : Option Char → Nat → List Char → List Char
  | _, _, [] => []
  | last, column, c :: cs =>
    if c = '\n' then
      (if last = some '\n' then ['\n'] else ['\n', '\n']) ++
        (if cs.head? = some '\n' then [] else indentation) ++
        foldedFrom quoted (some c) indented cs
    else if c = ' ' ∧ lineWidth < column ∧ isLoneSpace last cs then
      '\n' :: indentation ++ foldedFrom quoted (some c) indented cs
    else
      let written := quoteDoubled quoted c
      written ++ foldedFrom quoted (some c) (column + written.length) cs

/-- A text on lines, plain or for single quotes. -/
def foldedText (quoted : Bool) (column : Nat) (cs : List Char) : List Char :=
  foldedFrom quoted none column cs

/-! ### Double-quoted scalars -/

/-- The letters after a backslash that stand for a character. -/
def shortEscapes : List (Char × Char) :=
  [('\x00', '0'), ('\x07', 'a'), ('\x08', 'b'), ('\t', 't'), ('\n', 'n'), ('\x0B', 'v'),
    ('\x0C', 'f'), ('\r', 'r'), ('\x1B', 'e'), ('"', '"'), ('\\', '\\'), ('\x85', 'N'),
    ('\xA0', '_'), ('\u2028', 'L'), ('\u2029', 'P')]

/-- The code of a character after a letter that says how long it is. -/
def codeEscape (c : Char) : List Char :=
  let (letter, width) :=
    if c.toNat < 0x100 then ('x', 2) else if c.toNat < 0x10000 then ('u', 4) else ('U', 8)
  letter :: (Text.hexDigits width c.toNat).map Char.toUpper

/-- The escape that a character needs between double quotes, if it needs one. -/
def escapeOf? (c : Char) : Option (List Char) :=
  match shortEscapes.lookup c with
  | some letter => some ['\\', letter]
  | none => if isVisible c then none else some ('\\' :: codeEscape c)

/-- A line end that is not read, after a backslash. A space at the beginning of the next line needs
one too. -/
def hiddenBreak (next : Option Char) : List Char :=
  '\\' :: '\n' :: indentation ++ if next = some ' ' then ['\\'] else []

/-- The column after a line end that is not read. -/
def columnAfterBreak (next : Option Char) : Nat :=
  indented + if next = some ' ' then 1 else 0

/-- The lines of a text in a column, where `first` says that nothing of it is written yet, and
`fresh` that an escape has just been. A line may end before a space and at an escape, but neither at
the first nor at the last character. -/
def escapedFrom : Bool → Bool → Nat → List Char → List Char
  | _, _, _, [] => []
  | first, fresh, column, c :: cs =>
    let mayEnd := !first && !cs.isEmpty
    match escapeOf? c with
    | some escape =>
      let column := column + escape.length
      if mayEnd ∧ lineWidth + 1 < column then
        escape ++ hiddenBreak cs.head? ++
          escapedFrom false true (columnAfterBreak cs.head?) cs
      else escape ++ escapedFrom false true column cs
    | none =>
      if mayEnd ∧ (c = ' ' ∨ fresh) ∧ lineWidth < column then
        hiddenBreak (some c) ++ c :: escapedFrom false false (columnAfterBreak (some c) + 1) cs
      else c :: escapedFrom false false (column + 1) cs

/-- A text on lines, for double quotes. -/
def escapedText (column : Nat) (cs : List Char) : List Char :=
  escapedFrom true false column cs

/-! ### Scalars and mappings -/

/-- A text as a scalar that starts in a column. -/
def scalarText (column : Nat) (s : String) : String :=
  let cs := s.toList
  String.ofList <|
    match styleOf cs with
    | .plain => foldedText false column cs
    | .singleQuoted => '\'' :: foldedText true (column + 1) cs ++ ['\'']
    | .doubleQuoted => '"' :: escapedText (column + 1) cs ++ ['"']

/-- A pair of a mapping between texts. -/
def pairText (key value : String) : String :=
  let start := scalarText 0 key ++ ": "
  start ++ scalarText start.length value ++ "\n"

/-- A mapping between texts, one pair after the other. -/
def mappingText (pairs : List (String × String)) : String :=
  String.join (pairs.map fun (k, v) => pairText k v)

end ExploitReplay.Yaml
