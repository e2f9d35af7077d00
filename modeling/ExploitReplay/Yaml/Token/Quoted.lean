import ExploitReplay.Text.Digits
import ExploitReplay.Yaml.Token.Cursor

/-!
# Quoted YAML scalars

A quoted scalar is first read as atoms, up to its closing quote, and then folded: a line break with
the spaces around it becomes a space, and further line breaks are kept.

## Main definitions

* `Yaml.Atom`, `Yaml.atoms`: what a quoted scalar is made of, and its reading
* `Yaml.fold`: the text that atoms stand for
-/

namespace ExploitReplay.Yaml

/-- What a quoted scalar is made of. -/
inductive Atom where
  /-- A character that is kept. -/
  | char (c : Char)
  /-- A space or a tab. -/
  | space (c : Char)
  /-- The end of a line. -/
  | lineBreak (c : Char)
  /-- The end of a line after a backslash. -/
  | joined
deriving DecidableEq, Repr

/-- Where the reading of a quoted scalar is: in its text, after a backslash, or before the digits of
a character code. -/
inductive QuoteMode where
  | text
  | escape
  | code (left value : Nat)

/-- The character that a letter after a backslash stands for. -/
def escapedChar? (c : Char) : Option Char :=
  [('0', '\x00'), ('a', '\x07'), ('b', '\x08'), ('t', '\t'), ('\t', '\t'), ('n', '\n'),
    ('v', '\x0B'), ('f', '\x0C'), ('r', '\r'), ('e', '\x1B'), (' ', ' '), ('"', '"'),
    ('\\', '\\'), ('/', '/'), ('N', '\x85'), ('_', '\xA0'), ('L', '\u2028'),
    ('P', '\u2029')].lookup c

/-- How many digits a character code has after a letter. -/
def codeLength? (c : Char) : Option Nat :=
  [('x', 2), ('u', 4), ('U', 8)].lookup c

/-- The greatest code that can be looked for among the characters at all. -/
def greatestCode : Nat := 0x7FFFFFFF

/-- The character of a code. -/
def ofCharCode (n : Nat) : Except Fault Char :=
  if greatestCode < n then .error .tooLarge
  else if 0x10FFFF < n then .error .impossibleValue
  else .ok (Char.ofNat n)

/-- What is read of a quoted scalar: its atoms up to the closing quote, and the text after it. -/
abbrev QuotedReading := Except Fault (List Atom × List Char)

/-- An atom in front of those read later. -/
def consAtom (a : Atom) (r : QuotedReading) : QuotedReading :=
  r.map fun p => (a :: p.1, p.2)

/-- The atoms of a quoted scalar up to its closing quote, and the text after it. No document may
start or end inside. Only double quotes know backslashes; a single quote is written twice. -/
def atoms (double : Bool) : QuoteMode → List Char → QuotedReading
  | _, [] => .error .notYaml
  | .code left value, c :: cs =>
    match Text.digitValue? c with
    | none => .error .notYaml
    | some d =>
      if left ≤ 1 then
        (ofCharCode (16 * value + d)).bind fun e => consAtom (.char e) (atoms double .text cs)
      else atoms double (.code (left - 1) (16 * value + d)) cs
  | .escape, c :: cs =>
    if isBreak c then
      if Cursor.atMarker cs then .error .notYaml else consAtom .joined (atoms double .text cs)
    else
      match escapedChar? c, codeLength? c with
      | some e, _ => consAtom (.char e) (atoms double .text cs)
      | none, some n => atoms double (.code n 0) cs
      | none, none => .error .notYaml
  | .text, c :: cs =>
    if c = ' ' ∨ c = '\t' then consAtom (.space c) (atoms double .text cs)
    else if isBreak c then
      if Cursor.atMarker cs then .error .notYaml
      else consAtom (.lineBreak (breakText c)) (atoms double .text cs)
    else if double then
      if c = '"' then .ok ([], cs)
      else if c = '\\' then atoms double .escape cs
      else consAtom (.char c) (atoms double .text cs)
    else if c = '\'' then
      match cs with
      | '\'' :: rest => consAtom (.char '\'') (atoms double .text rest)
      | _ => .ok ([], cs)
    else consAtom (.char c) (atoms double .text cs)

/-- What line breaks in a row stand for: a line feed alone is a space, one that others follow is
nothing, and all others are kept. -/
def foldBreaks (first : Char) (more : List Char) : List Char :=
  (if first ≠ '\n' then [first] else if more = [] then [' '] else []) ++ more

/-- What of the white space before an atom is not settled yet. -/
inductive Pending where
  /-- Spaces within a line. -/
  | spaces (cs : List Char)
  /-- Line breaks, the first and the others. -/
  | breaks (first : Char) (more : List Char)
  /-- Line breaks after one behind a backslash. -/
  | joined (more : List Char)

/-- The text that pending white space stands for. -/
def Pending.text : Pending → List Char
  | .spaces cs => cs
  | .breaks first more => foldBreaks first more
  | .joined more => more

/-- The text that atoms stand for, after pending white space. -/
def fold : Pending → List Atom → List Char
  | p, [] => p.text
  | p, .char c :: rest => p.text ++ c :: fold (.spaces []) rest
  | .spaces cs, .space c :: rest => fold (.spaces (cs ++ [c])) rest
  | p, .space _ :: rest => fold p rest
  | .spaces _, .lineBreak b :: rest => fold (.breaks b []) rest
  | .breaks first more, .lineBreak b :: rest => fold (.breaks first (more ++ [b])) rest
  | .joined more, .lineBreak b :: rest => fold (.joined (more ++ [b])) rest
  | p, .joined :: rest => p.text ++ fold (.joined []) rest

/-- A quoted scalar, read after its opening quote: its text, and what follows its closing quote. -/
def quotedScalar (double : Bool) (cs : List Char) : Except Fault (List Char × List Char) :=
  (atoms double .text cs).map fun p => (fold (.spaces []) p.1, p.2)

end ExploitReplay.Yaml
