import ExploitReplay.Yaml.Token.Quoted

/-!
# Plain YAML scalars

A plain scalar is a text without quotes. It ends before a comment, before the colon of a mapping,
inside brackets also before their punctuation, and, when it goes on over several lines, before a
line that is not indented enough.

## Main definitions

* `Yaml.wordLength`: how long the next word of a plain scalar is
* `Yaml.plainGap`: the white space between two words, folded
* `Yaml.plainScalar`: a plain scalar
-/

namespace ExploitReplay.Yaml

/-- The punctuation of collections in brackets. -/
def isFlowMark (c : Char) : Bool :=
  c == ',' || c == '[' || c == ']' || c == '\x7b' || c == '\x7d'

/-- How long the next word of a plain scalar is, inside brackets or not. -/
def wordLength (inFlow : Bool) : List Char → Nat
  | [] => 0
  | c :: cs =>
    let after := cs.headD endMark
    if endsWord c then 0
    else if c = ':' ∧ (endsWord after ∨ (inFlow ∧ isFlowMark after)) then 0
    else if inFlow ∧ (isFlowMark c ∨ c = '?') then 0
    else wordLength inFlow cs + 1

/-- The line breaks after a first one, with the spaces between them left out. Nothing if a document
starts or ends at one of them. -/
def plainBreaks : Nat → Cursor → List Char → Cursor × Option (List Char)
  | 0, c, breaks => (c, some breaks)
  | fuel + 1, c, breaks =>
    if c.next = ' ' then plainBreaks fuel c.step breaks
    else if isBreak c.next then
      let after := c.step
      if Cursor.atMarker after.rest then (after, none)
      else plainBreaks fuel after (breaks ++ [breakText c.next])
    else (c, some breaks)

/-- The white space between two words of a plain scalar: the place after it, what it stands for, and
whether it holds a line break. It stands for nothing if the scalar ends there. -/
def plainGap (c : Cursor) : Cursor × List Char × Bool :=
  let spaces := c.text (c.count (· == ' '))
  let c := c.skip spaces.length
  if isBreak c.next then
    let first := breakText c.next
    let after := c.step
    if Cursor.atMarker after.rest then (after, [], true)
    else
      match plainBreaks after.rest.length after [] with
      | (c, some breaks) => (c, foldBreaks first breaks, true)
      | (c, none) => (c, [], true)
  else (c, spaces, false)

/-- The words of a plain scalar after `done` and a gap: the place after them, their text, and
whether the last gap held a line break. Lines must start in column `indent` or after it. -/
def plainWords (inFlow : Bool) (indent : Int) :
    Nat → Cursor → List Char → List Char → Bool → Cursor × List Char × Bool
  | 0, c, done, _, broken => (c, done, broken)
  | fuel + 1, c, done, gap, broken =>
    let n := wordLength inFlow c.rest
    if c.next = '#' ∨ n = 0 then (c, done, broken)
    else
      let done := done ++ gap ++ c.text n
      let (c, gap, broken) := plainGap (c.skip n)
      if gap = [] ∨ c.next = '#' ∨ (¬inFlow ∧ (c.column : Int) < indent) then (c, done, broken)
      else plainWords inFlow indent fuel c done gap broken

/-- A plain scalar: the place after it, its text, and whether a line break follows it. -/
def plainScalar (inFlow : Bool) (indent : Int) (c : Cursor) : Cursor × List Char × Bool :=
  plainWords inFlow indent (c.rest.length + 1) c [] [] false

/-- A plain scalar may start here. -/
def startsPlain (inFlow : Bool) (c : Cursor) : Bool :=
  let ch := c.next
  !(endsWord ch || isFlowMark ch || "-?:#&*!|>'\"%@\x60".toList.contains ch) ||
    (!endsWord (c.ahead 1) && (ch == '-' || (!inFlow && (ch == '?' || ch == ':'))))

end ExploitReplay.Yaml
