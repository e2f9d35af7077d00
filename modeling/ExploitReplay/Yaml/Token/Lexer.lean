import ExploitReplay.Yaml.Token.Block
import ExploitReplay.Yaml.Token.Directive
import ExploitReplay.Yaml.Token.Plain

/-!
# From text to tokens

Indentation opens and closes block collections, and a colon makes a key of what stands before it on
the same line. The lexer therefore remembers where a key may have started, and puts the tokens of
the key in front of it once the colon is found.

## Main definitions

* `Yaml.Lexer`: the tokens so far, and what is remembered
* `Yaml.Lexer.fetch`: the next token
* `Yaml.tokens cs`: the tokens of a text
-/

namespace ExploitReplay.Yaml

/-- A place where a key may have started. -/
structure KeyStart where
  /-- How many tokens stand before it. -/
  position : Nat
  /-- It must turn out to be a key, since nothing else may stand there. -/
  required : Bool
  place : Cursor

/-- The tokens so far, and what is remembered to read on. -/
structure Lexer where
  cursor : Cursor
  /-- How many brackets are open. -/
  flow : Nat := 0
  /-- The column of the innermost block collection; `-1` if there is none. -/
  indent : Int := -1
  /-- The columns of the collections around it. -/
  outer : List Int := []
  /-- A key may start here. -/
  keyAllowed : Bool := true
  /-- Where keys may have started, at most once for every number of open brackets. -/
  keys : List (Nat × KeyStart) := []
  tokens : List Token := []

namespace Lexer

/-! ### Parts -/

/-- One more token. -/
def push (l : Lexer) (t : Token) : Lexer :=
  { l with tokens := l.tokens ++ [t] }

/-- The lexer further on. -/
def moved (l : Lexer) (c : Cursor) : Lexer :=
  { l with cursor := c }

/-- Inside brackets indentation means nothing. -/
def inFlow (l : Lexer) : Bool :=
  l.flow ≠ 0

/-- The column of the next character. -/
def column (l : Lexer) : Int :=
  l.cursor.column

/-- Spaces, comments and line ends skipped, and whether a line end was among them. -/
def skipLayout : Nat → Cursor → Bool → Cursor × Bool
  | 0, c, broken => (c, broken)
  | fuel + 1, c, broken =>
    let c := c.skipWhile (· == ' ')
    let c := if c.next = '#' then c.skipWhile (fun ch => !endsLine ch) else c
    if isBreak c.next then skipLayout fuel c.step true else (c, broken)

/-- The lexer at the next token. A new line allows a key, except inside brackets. -/
def toNextToken (l : Lexer) : Lexer :=
  let c := if l.cursor.index = 0 ∧ l.cursor.next = '\uFEFF' then l.cursor.step else l.cursor
  let (c, broken) := skipLayout c.rest.length c false
  { l with cursor := c, keyAllowed := l.keyAllowed || (broken && !l.inFlow) }

/-- A key that started on an earlier line, or too far back, is none. -/
def isStale (l : Lexer) (k : KeyStart) : Bool :=
  k.place.line ≠ l.cursor.line || k.place.index + 1024 < l.cursor.index

/-- The lexer without the keys that are none. -/
def dropStaleKeys (l : Lexer) : Except Fault Lexer :=
  if l.keys.any fun (_, k) => l.isStale k && k.required then .error .notYaml
  else .ok { l with keys := l.keys.filter fun (_, k) => !l.isStale k }

/-- The lexer without a key at the current number of brackets, which must not be required. -/
def dropKey (l : Lexer) : Except Fault Lexer :=
  if l.keys.any fun (level, k) => level == l.flow && k.required then .error .notYaml
  else .ok { l with keys := l.keys.filter (·.1 ≠ l.flow) }

/-- A key may start here, if keys are allowed at all. -/
def noteKey (l : Lexer) : Except Fault Lexer :=
  if l.keyAllowed then
    l.dropKey.map fun l =>
      let k : KeyStart := ⟨l.tokens.length, !l.inFlow && l.indent == l.column, l.cursor⟩
      { l with keys := (l.flow, k) :: l.keys }
  else .ok l

/-- The block collections right of a column are closed. -/
def unwindTo (l : Lexer) (column : Int) : Nat → Lexer
  | 0 => l
  | fuel + 1 =>
    if l.inFlow ∨ l.indent ≤ column then l
    else
      match l.outer with
      | [] => l
      | i :: outer =>
        unwindTo { l with indent := i, outer := outer, tokens := l.tokens ++ [.blockEnd] } column
          fuel

/-- The block collections right of a column are closed. -/
def unwind (l : Lexer) (column : Int) : Lexer :=
  l.unwindTo column (l.outer.length + 1)

/-- A block collection is opened at a column, unless it is open there already; its mark stands
before the token with the number `position`. -/
def openBlock (l : Lexer) (column : Int) (position : Nat) (mark : Token) : Lexer :=
  if l.indent < column then
    { l with
      indent := column
      outer := l.indent :: l.outer
      tokens := l.tokens.insertIdx position mark }
  else l

/-- A block collection is opened at the next character, unless it is open there already. -/
def openBlockHere (l : Lexer) (mark : Token) : Lexer :=
  l.openBlock l.column l.tokens.length mark

/-! ### Tokens -/

/-- A token of some characters, after which keys are allowed or not. -/
def take (l : Lexer) (n : Nat) (t : Token) (keyAllowed : Bool) : Lexer :=
  { l with cursor := l.cursor.skip n, keyAllowed := keyAllowed, tokens := l.tokens ++ [t] }

/-- The end of the text closes everything. -/
def fetchEnd (l : Lexer) : Except Fault Lexer :=
  (l.unwind (-1)).dropKey

/-- A marker of a document closes everything. -/
def fetchMarker (l : Lexer) (t : Token) : Except Fault Lexer :=
  (l.unwind (-1)).dropKey.map fun l => l.take 3 t false

/-- A directive takes a line. -/
def fetchDirective (l : Lexer) : Except Fault Lexer :=
  (l.unwind (-1)).dropKey.bind fun l =>
    match directive? l.cursor.step with
    | none => .error .notYaml
    | some (d, c) => .ok (({ l with keyAllowed := false }.moved c).push (.directive d))

/-- An opening bracket. -/
def fetchOpening (l : Lexer) (t : Token) : Except Fault Lexer :=
  l.noteKey.map fun l => { l.take 1 t true with flow := l.flow + 1 }

/-- A closing bracket. -/
def fetchClosing (l : Lexer) (t : Token) : Except Fault Lexer :=
  l.dropKey.map fun l => { l.take 1 t false with flow := l.flow - 1 }

/-- A comma between brackets. -/
def fetchFlowEntry (l : Lexer) : Except Fault Lexer :=
  l.dropKey.map fun l => l.take 1 .flowEntry true

/-- A dash in front of a member of a list. -/
def fetchBlockEntry (l : Lexer) : Except Fault Lexer :=
  if !l.inFlow && !l.keyAllowed then .error .notYaml
  else
    (if l.inFlow then l else l.openBlockHere .blockSequenceStart).dropKey.map fun l =>
      l.take 1 .blockEntry true

/-- A question mark in front of a key. -/
def fetchKey (l : Lexer) : Except Fault Lexer :=
  if !l.inFlow && !l.keyAllowed then .error .notYaml
  else
    (if l.inFlow then l else l.openBlockHere .blockMappingStart).dropKey.map fun l =>
      l.take 1 .key (!l.inFlow)

/-- A colon. If a key may have started before it, this is where it turns out to be one. -/
def fetchValue (l : Lexer) : Except Fault Lexer :=
  match l.keys.lookup l.flow with
  | some k =>
    let l := { l with
      keys := l.keys.filter (·.1 ≠ l.flow)
      tokens := l.tokens.insertIdx k.position .key }
    let l := if l.inFlow then l else l.openBlock k.place.column k.position .blockMappingStart
    .ok (l.take 1 .value false)
  | none =>
    if !l.inFlow && !l.keyAllowed then .error .notYaml
    else
      (if l.inFlow then l else l.openBlockHere .blockMappingStart).dropKey.map fun l =>
        l.take 1 .value (!l.inFlow)

/-- The name of an anchor, for an anchor or an alias. -/
def fetchAnchor (l : Lexer) (t : String → Token) : Except Fault Lexer :=
  l.noteKey.bind fun l =>
    let n := l.cursor.step.count isNameChar
    let after := l.cursor.ahead (n + 1)
    if n = 0 ∨ !(endsWord after || "?:,]\x7d%@\x60".toList.contains after) then .error .notYaml
    else .ok (l.take (n + 1) (t (String.ofList (l.cursor.step.text n))) false)

/-- A tag. -/
def fetchTag (l : Lexer) : Except Fault Lexer :=
  l.noteKey.bind fun l =>
    match tag? l.cursor with
    | none => .error .notYaml
    | some ((handle, name), c) =>
      .ok (({ l with keyAllowed := false }.moved c).push (.tag handle name))

/-- A block scalar. -/
def fetchBlockScalar (l : Lexer) (folded : Bool) : Except Fault Lexer :=
  l.dropKey.bind fun l =>
    match blockScalar? folded l.indent l.cursor.step with
    | none => .error .notYaml
    | some (c, text) =>
      .ok (({ l with keyAllowed := true }.moved c).push (.scalar (String.ofList text) false))

/-- A quoted scalar. -/
def fetchQuoted (l : Lexer) (double : Bool) : Except Fault Lexer :=
  l.noteKey.bind fun l =>
    match quotedScalar double l.cursor.step.rest with
    | .error fault => .error fault
    | .ok (text, rest) =>
      .ok (({ l with keyAllowed := false }.moved (l.cursor.moveTo rest)).push
        (.scalar (String.ofList text) false))

/-- A plain scalar. -/
def fetchPlain (l : Lexer) : Except Fault Lexer :=
  l.noteKey.map fun l =>
    let (c, text, broken) := plainScalar l.inFlow (l.indent + 1) l.cursor
    ({ l with keyAllowed := broken }.moved c).push (.scalar (String.ofList text) true)

/-- A token that starts with a character of its own. -/
def fetchMarked (l : Lexer) : Except Fault Lexer :=
  let c := l.cursor
  let wordEnds := endsWord (c.ahead 1)
  match c.next with
  | '[' => l.fetchOpening .flowSequenceStart
  | '\x7b' => l.fetchOpening .flowMappingStart
  | ']' => l.fetchClosing .flowSequenceEnd
  | '\x7d' => l.fetchClosing .flowMappingEnd
  | ',' => l.fetchFlowEntry
  | '*' => l.fetchAnchor .alias
  | '&' => l.fetchAnchor .anchor
  | '!' => l.fetchTag
  | '\'' => l.fetchQuoted false
  | '"' => l.fetchQuoted true
  | ch =>
    if ch = '-' ∧ wordEnds then l.fetchBlockEntry
    else if ch = '?' ∧ (l.inFlow ∨ wordEnds) then l.fetchKey
    else if ch = ':' ∧ (l.inFlow ∨ wordEnds) then l.fetchValue
    else if ch = '|' ∧ ¬l.inFlow then l.fetchBlockScalar false
    else if ch = '>' ∧ ¬l.inFlow then l.fetchBlockScalar true
    else if startsPlain l.inFlow c then l.fetchPlain
    else .error .notYaml

/-- The lexer after the next token, and whether the text has ended. -/
def fetch (l : Lexer) : Except Fault (Lexer × Bool) :=
  l.toNextToken.dropStaleKeys.bind fun l =>
    let l := l.unwind l.column
    let c := l.cursor
    if c.next = endMark then l.fetchEnd.map (·, true)
    else if c.column = 0 ∧ c.next = '%' then l.fetchDirective.map (·, false)
    else if c.column = 0 ∧ Cursor.startsDocument c.rest then
      (l.fetchMarker .documentStart).map (·, false)
    else if c.column = 0 ∧ Cursor.endsDocument c.rest then
      (l.fetchMarker .documentEnd).map (·, false)
    else l.fetchMarked.map (·, false)

/-- The tokens up to the end of the text. Every token takes a character, so the length of the text
is fuel enough. -/
def run : Nat → Lexer → Except Fault (List Token)
  | 0, _ => .error .notYaml
  | fuel + 1, l =>
    l.fetch.bind fun (l, done) => if done then .ok l.tokens else run fuel l

end Lexer

/-- The tokens of a text. -/
def tokens (cs : List Char) : Except Fault (List Token) :=
  if cs.all isAllowed then Lexer.run (cs.length + 1) { cursor := ⟨cs, 0, 0, 0⟩ }
  else .error .notYaml

end ExploitReplay.Yaml
