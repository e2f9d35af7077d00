import ExploitReplay.Text.Digits
import ExploitReplay.Yaml.Token.Cursor

/-!
# Tags and directives

A tag says what a node is taken for. It is written with a handle, which stands for the beginning of
its name, or in full between angles. Directives in front of a document say which version of YAML it
is written in, and what handles stand for.

## Main definitions

* `Yaml.handle?`, `Yaml.uri?`: a handle, and the name after it
* `Yaml.tag?`: a tag
* `Yaml.directive?`: a directive
-/

namespace ExploitReplay.Yaml

/-! ### Names -/

/-- The characters of the names of anchors, handles and directives. -/
def isNameChar (c : Char) : Bool :=
  c.isAlphanum || c == '-' || c == '_'

/-- The characters that the name of a tag may hold as they are. -/
def isUriChar (c : Char) : Bool :=
  c.isAlphanum || "-;/?:@&=+$,_.!~*'()[]".toList.contains c

/-- A name, at least one character of it, and the place after it. -/
def name? (c : Cursor) : Option (String × Cursor) :=
  let n := c.count isNameChar
  if n = 0 then none else some (String.ofList (c.text n), c.skip n)

/-- A handle: an exclamation mark, or two of them with or without a name in between. Before
anything but a space, a single mark must go on to a second one. -/
def handle? (c : Cursor) : Option (String × Cursor) :=
  if c.next ≠ '!' then none
  else if c.ahead 1 = ' ' then some ("!", c.step)
  else
    let n := c.step.count isNameChar
    if c.ahead (n + 1) = '!' then some (String.ofList (c.text (n + 2)), c.skip (n + 2)) else none

/-- The bytes that are written as a percent sign and two digits each, one after the other. -/
def escapedBytes : List Char → Option (List UInt8 × Nat)
  | '%' :: a :: b :: cs =>
    match Text.digitValue? a, Text.digitValue? b with
    | some x, some y =>
      (escapedBytes cs).map fun p => (UInt8.ofNat (16 * x + y) :: p.1, p.2 + 3)
    | _, _ => none
  | '%' :: _ => none
  | _ => some ([], 0)

/-- The characters that are written as escaped bytes, and the place after them. -/
def escaped? (c : Cursor) : Option (List Char × Cursor) :=
  (escapedBytes c.rest).bind fun (bytes, n) =>
    (String.fromUTF8? ⟨bytes.toArray⟩).map fun s => (s.toList, c.skip n)

/-- The name of a tag after `done`, and the place after it. -/
def uriFrom : Nat → Cursor → List Char → Option (List Char × Cursor)
  | 0, c, done => some (done, c)
  | fuel + 1, c, done =>
    if c.next = '%' then (escaped? c).bind fun (cs, after) => uriFrom fuel after (done ++ cs)
    else if isUriChar c.next then uriFrom fuel c.step (done ++ [c.next])
    else some (done, c)

/-- The name of a tag, at least one character of it, and the place after it. -/
def uri? (c : Cursor) : Option (String × Cursor) :=
  (uriFrom (c.rest.length + 1) c []).bind fun (cs, after) =>
    if cs = [] then none else some (String.ofList cs, after)

/-! ### Tags -/

/-- A handle, if the tag has one, and the name of the tag. -/
abbrev TagName := Option String × String

/-- A tag in angles, a handle with a name, or an exclamation mark alone. -/
def tagName? (c : Cursor) : Option (TagName × Cursor) :=
  let second := c.ahead 1
  if second = '<' then
    (uri? (c.skip 2)).bind fun (name, after) =>
      if after.next = '>' then some ((none, name), after.step) else none
  else if endsWord second then some ((none, "!"), c.step)
  else
    let word := c.step.text (c.step.count fun ch => !endsField ch)
    let handle := if word.contains '!' then handle? c else some ("!", c.step)
    handle.bind fun (h, after) => (uri? after).map fun (name, after) => ((some h, name), after)

/-- A tag, after which its part of the line must end. -/
def tag? (c : Cursor) : Option (TagName × Cursor) :=
  (tagName? c).filter fun (_, after) => endsField after.next

/-! ### Directives -/

/-- The place after spaces. -/
def skipSpaces (c : Cursor) : Cursor :=
  c.skipWhile (· == ' ')

/-- A number, at least one digit of it, and the place after it. -/
def versionPart? (c : Cursor) : Option (Nat × Cursor) :=
  let n := c.count Char.isDigit
  if n = 0 then none else some (Text.natOfDigits 10 (c.text n), c.skip n)

/-- The version of YAML: two numbers with a point in between. -/
def version? (c : Cursor) : Option (Directive × Cursor) :=
  (versionPart? (skipSpaces c)).bind fun (major, c) =>
    if c.next ≠ '.' then none
    else
      (versionPart? c.step).bind fun (_, c) =>
        if endsField c.next then some (.version major, c) else none

/-- A handle and what it stands for. -/
def handleDirective? (c : Cursor) : Option (Directive × Cursor) :=
  (handle? (skipSpaces c)).bind fun (name, c) =>
    if c.next ≠ ' ' then none
    else
      (uri? (skipSpaces c)).bind fun (stands, c) =>
        if endsField c.next then some (.handle name stands, c) else none

/-- The rest of the line of a directive: spaces and a comment at most. -/
def directiveEnd? (c : Cursor) : Option Cursor :=
  let c := skipSpaces c
  let c := if c.next = '#' then c.skipWhile (fun ch => !endsLine ch) else c
  if endsLine c.next then some c else none

/-- A directive, read after its percent sign, and the place at the end of its line. -/
def directive? (c : Cursor) : Option (Directive × Cursor) :=
  (name? c).bind fun (name, c) =>
    if !endsField c.next then none
    else
      let content :=
        if name = "YAML" then version? c
        else if name = "TAG" then handleDirective? c
        else some (.other, c.skipWhile (fun ch => !endsLine ch))
      content.bind fun (d, c) => (directiveEnd? c).map fun c => (d, c)

end ExploitReplay.Yaml
