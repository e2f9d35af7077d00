/-!
# YAML tokens

## Main definitions

* `Yaml.Token`, `Yaml.Directive`: what a YAML text is made of
* `Yaml.Fault`: why a text gives no value
* `Yaml.isBreak`, `Yaml.endsField`, `Yaml.endsWord`: the characters that end a line, a part of it,
  and a word
-/

namespace ExploitReplay.Yaml

/-- A line in front of a document that says how to read it. -/
inductive Directive where
  /-- The version of YAML; only its first number counts. -/
  | version (major : Nat)
  /-- What a handle stands for in tags. -/
  | handle (name stands : String)
  /-- A directive that is not understood. -/
  | other
deriving DecidableEq, Repr

/-- What a YAML text is made of. The marks that open and close block collections are not written:
they follow from the indentation. -/
inductive Token where
  | directive (content : Directive)
  | documentStart
  | documentEnd
  | blockSequenceStart
  | blockMappingStart
  | blockEnd
  | blockEntry
  | flowSequenceStart
  | flowMappingStart
  | flowSequenceEnd
  | flowMappingEnd
  | flowEntry
  | key
  | value
  | alias (name : String)
  | anchor (name : String)
  /-- A tag: a handle and what comes after it, or a name of its own without a handle. -/
  | tag (handle : Option String) (name : String)
  | scalar (text : String) (plain : Bool)
deriving DecidableEq, Repr

/-- Why a text gives no value. -/
inductive Fault where
  /-- The text is no YAML, or uses what is not supported. -/
  | notYaml
  /-- A value has the form of a number, a date or a character code, but is none. -/
  | impossibleValue
  /-- A number is too large for a double, or a character code for any character set. -/
  | tooLarge
  /-- What is tagged as a number has no digits. -/
  | noDigits
  /-- What is tagged as a truth value is no word for one. -/
  | notTruth
  /-- What is tagged as a date has not the form of one. -/
  | notMoment
  /-- Too many collections are inside each other. -/
  | tooDeep
deriving DecidableEq, Repr

/-- The fault in words. -/
def Fault.message : Fault → String
  | .notYaml => "this is not a YAML document"
  | .impossibleValue => "there is no such number, date or character"
  | .tooLarge => "a number is too large"
  | .noDigits => "a number has no digits"
  | .notTruth => "a truth value is neither true nor false"
  | .notMoment => "a date has not the form of one"
  | .tooDeep => "the document is nested too deep"

/-- The end of the text, seen as a character; a text does not hold it. -/
def endMark : Char := '\x00'

/-- The characters that end a line. Carriage returns have been made line feeds before. -/
def isBreak (c : Char) : Bool :=
  c == '\n' || c == '\x85' || c == '\u2028' || c == '\u2029'

/-- A line ending as it is read: a next line becomes a line feed. -/
def breakText (c : Char) : Char :=
  if c = '\x85' then '\n' else c

/-- The line ends here, or the text. -/
def endsLine (c : Char) : Bool :=
  isBreak c || c == endMark

/-- The part of a line ends here: at a space, or the end of the line. -/
def endsField (c : Char) : Bool :=
  c == ' ' || endsLine c

/-- The word ends here: at a space, a tab, or the end of the line. -/
def endsWord (c : Char) : Bool :=
  c == ' ' || c == '\t' || endsLine c

/-- The characters that a YAML text may hold. -/
def isAllowed (c : Char) : Bool :=
  let n := c.toNat
  n == 0x9 || n == 0xA || n == 0xD || (0x20 ≤ n && n ≤ 0x7E) || n == 0x85 ||
    (0xA0 ≤ n && n ≤ 0xFFFD) || 0x10000 ≤ n

end ExploitReplay.Yaml
