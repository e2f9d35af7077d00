import ExploitReplay.Yaml.Resolution
import ExploitReplay.Yaml.Token.Lexer

/-!
# From tokens to nodes

A node is a scalar, a list of nodes, or a mapping between nodes, and all of them are taken for
something. An alias stands for the node that its anchor marks.

## Main definitions

* `Yaml.Node`: a scalar, a list or a mapping
* `Yaml.Node.ofTokens?`: the node of the only document of a text
-/

namespace ExploitReplay.Yaml

/-- A scalar, a list or a mapping, with what it is taken for. -/
inductive Node where
  | scalar (tag : Tag) (text : String)
  | sequence (tag : Tag) (items : List Node)
  | mapping (tag : Tag) (pairs : List (Node × Node))
  /-- A collection around this place, a mapping or a list. -/
  | again (isMapping : Bool)
deriving Inhabited

namespace Node

/-- What the node is taken for. -/
def tag : Node → Tag
  | .scalar t _ | .sequence t _ | .mapping t _ => t
  | .again isMapping => if isMapping then .mapping else .sequence

/-- The node where nothing is written. -/
def missing : Node :=
  .scalar .null ""

/-- What handles stand for unless a directive says something else. -/
def usualHandles : List (String × String) :=
  [("!", "!"), ("!!", Tag.commonStart)]

/-- How many collections may be inside each other. -/
def depthLimit : Nat := 490

/-- The tokens that are left, what handles stand for, the nodes that anchors mark, and how many more
collections may be entered. -/
structure Source where
  tokens : List Token
  handles : List (String × String) := []
  anchors : List (String × Node) := []
  room : Nat := depthLimit

/-- A reading of the tokens that are left. -/
abbrev Reader := StateT Source (Except Fault)

/-- The tokens form no node. -/
def refuse {α : Type} : Reader α :=
  throw .notYaml

/-- The next token, which stays. -/
def peek : Reader (Option Token) := do
  return (← get).tokens.head?

/-- The next token is taken. -/
def drop : Reader Unit :=
  modify fun s => { s with tokens := s.tokens.drop 1 }

/-- The next token is one of these, or there is none. -/
def atOneOf (ts : List Token) : Reader Bool := do
  match ← peek with
  | some t => return ts.contains t
  | none => return true

/-- The next token is this one. -/
def atToken (t : Token) : Reader Bool := do
  return (← peek) == some t

/-- The next token is taken if it is this one. -/
def accept (t : Token) : Reader Bool := do
  if ← atToken t then
    drop
    return true
  return false

/-- The next token must be this one, and is taken. -/
def expect (t : Token) : Reader Unit := do
  unless ← accept t do
    refuse

/-! ### Anchors and tags -/

/-- The anchor that comes next, if there is one. -/
def anchor? : Reader (Option String) := do
  match ← peek with
  | some (.anchor a) =>
    drop
    return some a
  | _ => return none

/-- The name of the tag that comes next, if there is one, with what its handle stands for. -/
def tagName? : Reader (Option String) := do
  match ← peek with
  | some (.tag handle name) =>
    drop
    match handle with
    | none => return some name
    | some h =>
      match (← get).handles.lookup h with
      | some stands => return some (stands ++ name)
      | none => refuse
  | _ => return none

/-- The anchor and the name of the tag in front of a node, in either order. An anchor must be a new
one. -/
def properties : Reader (Option String × Option String) := do
  let first ← anchor?
  let name ← tagName?
  let anchor ← if first.isSome || name.isNone then pure first else anchor?
  let known := (← get).anchors
  if anchor.any fun a => (known.lookup a).isSome then refuse
  return (anchor, name)

/-- The node is kept under its anchor. -/
def keep (anchor : Option String) (n : Node) : Reader Node := do
  match anchor with
  | some a => modify fun s => { s with anchors := (a, n) :: s.anchors }
  | none => pure ()
  return n

/-- The tag for which nothing in particular is written: an exclamation mark alone. -/
def plainMark : String := "!"

/-- What a scalar is taken for: what is written, or else what its text has the form of if it is
plain. -/
def scalarTag (name : Option String) (plain : Bool) (text : String) : Tag :=
  match name with
  | none => if plain then tagOf text.toList else .text
  | some name => if name = plainMark then tagOf text.toList else .ofName name

/-- What a collection is taken for: what is written, or else what it is. -/
def collectionTag (name : Option String) (usual : Tag) : Tag :=
  match name with
  | none => usual
  | some name => if name = plainMark then usual else .ofName name

/-! ### Nodes -/

/-- Where a node may stand: anywhere in a block, in a mapping of a block, where a list need not be
indented, or between brackets. -/
inductive Position where
  | block
  | blockValue
  | flow
deriving DecidableEq

/-- A collection, inside which there is less room for others. -/
def entered {α : Type} (inside : Reader α) : Reader α := do
  let room := (← get).room
  if room = 0 then throw .tooDeep
  modify fun s => { s with room := room - 1 }
  let x ← inside
  modify fun s => { s with room }
  return x

/-- A list, read after its beginning. Inside it, its anchor stands for the list around. -/
def sequenceOf (anchor name : Option String) (items : Reader (List Node)) : Reader Node := do
  let _ ← keep anchor (.again false)
  keep anchor (.sequence (collectionTag name .sequence) (← entered items))

/-- A mapping, read after its beginning. Inside it, its anchor stands for the mapping around. -/
def mappingOf (anchor name : Option String) (pairs : Reader (List (Node × Node))) :
    Reader Node := do
  let _ ← keep anchor (.again true)
  keep anchor (.mapping (collectionTag name .mapping) (← entered pairs))

/-- Nothing but an anchor or a tag. -/
def emptyOf (anchor name : Option String) : Reader Node := do
  if anchor.isNone && name.isNone then refuse
  keep anchor (.scalar (scalarTag name true "") "")

mutual

/-- The node that comes next. -/
def node (fuel : Nat) (position : Position) : Reader Node := do
  match fuel with
  | 0 => refuse
  | fuel + 1 =>
    match ← peek with
    | some (.alias a) =>
      drop
      match (← get).anchors.lookup a with
      | some n => return n
      | none => refuse
    | _ =>
      let (anchor, name) ← properties
      match ← peek with
      | some (.scalar text plain) =>
        drop
        keep anchor (.scalar (scalarTag name plain text) text)
      | some .flowSequenceStart =>
        drop
        sequenceOf anchor name (flowItems fuel true)
      | some .flowMappingStart =>
        drop
        mappingOf anchor name (flowPairs fuel true)
      | some t =>
        if t = .blockEntry ∧ position = .blockValue then
          sequenceOf anchor name (looseItems fuel)
        else if t = .blockSequenceStart ∧ position ≠ .flow then
          drop
          sequenceOf anchor name (blockItems fuel)
        else if t = .blockMappingStart ∧ position ≠ .flow then
          drop
          mappingOf anchor name (blockPairs fuel)
        else emptyOf anchor name
      | none => emptyOf anchor name

/-- The members of an indented list, up to its end. -/
def blockItems (fuel : Nat) : Reader (List Node) := do
  match fuel with
  | 0 => refuse
  | fuel + 1 =>
    if ← accept .blockEntry then
      let item ←
        if ← atOneOf [.blockEntry, .blockEnd] then pure missing else node fuel .block
      return item :: (← blockItems fuel)
    else
      expect .blockEnd
      return []

/-- The members of a list that is not indented, as far as they go. -/
def looseItems (fuel : Nat) : Reader (List Node) := do
  match fuel with
  | 0 => refuse
  | fuel + 1 =>
    if ← accept .blockEntry then
      let item ←
        if ← atOneOf [.blockEntry, .key, .value, .blockEnd] then pure missing
        else node fuel .block
      return item :: (← looseItems fuel)
    else return []

/-- The pairs of an indented mapping, up to its end. -/
def blockPairs (fuel : Nat) : Reader (List (Node × Node)) := do
  match fuel with
  | 0 => refuse
  | fuel + 1 =>
    if ← accept .key then
      let k ←
        if ← atOneOf [.key, .value, .blockEnd] then pure missing else node fuel .blockValue
      let v ←
        if ← accept .value then
          if ← atOneOf [.key, .value, .blockEnd] then pure missing else node fuel .blockValue
        else pure missing
      return (k, v) :: (← blockPairs fuel)
    else
      expect .blockEnd
      return []

/-- The value after a key between brackets, where `close` is the closing bracket. -/
def flowValue (fuel : Nat) (close : Token) : Reader Node := do
  match fuel with
  | 0 => refuse
  | fuel + 1 =>
    if ← accept .value then
      if ← atOneOf [.flowEntry, close] then pure missing else node fuel .flow
    else pure missing

/-- The members of a list between brackets, up to its closing bracket. A key there makes a mapping
of one pair. -/
def flowItems (fuel : Nat) (first : Bool) : Reader (List Node) := do
  match fuel with
  | 0 => refuse
  | fuel + 1 =>
    if ← accept .flowSequenceEnd then return []
    unless first do
      expect .flowEntry
    if ← accept .flowSequenceEnd then return []
    if ← accept .key then
      let k ←
        if ← atOneOf [.value, .flowEntry, .flowSequenceEnd] then pure missing
        else node fuel .flow
      let v ← flowValue fuel .flowSequenceEnd
      return .mapping .mapping [(k, v)] :: (← flowItems fuel false)
    else
      let item ← node fuel .flow
      return item :: (← flowItems fuel false)

/-- The pairs of a mapping between braces, up to its closing brace. -/
def flowPairs (fuel : Nat) (first : Bool) : Reader (List (Node × Node)) := do
  match fuel with
  | 0 => refuse
  | fuel + 1 =>
    if ← accept .flowMappingEnd then return []
    unless first do
      expect .flowEntry
    if ← accept .flowMappingEnd then return []
    if ← accept .key then
      let k ←
        if ← atOneOf [.value, .flowEntry, .flowMappingEnd] then pure missing
        else node fuel .flow
      let v ← flowValue fuel .flowMappingEnd
      return (k, v) :: (← flowPairs fuel false)
    else
      let k ← node fuel .flow
      return (k, missing) :: (← flowPairs fuel false)

end

/-! ### Documents -/

/-- A directive in front of a document. The version must be the first one, and is given at most
once; so is what a handle stands for. -/
def directive (versioned : Bool) : Directive → Reader Bool
  | .version major => do
    if versioned || major ≠ 1 then refuse
    return true
  | .handle name stands => do
    if ((← get).handles.lookup name).isSome then refuse
    modify fun s => { s with handles := (name, stands) :: s.handles }
    return versioned
  | .other => return versioned

/-- The directives in front of a document. -/
def directives : Nat → Bool → Reader Unit
  | 0, _ => refuse
  | fuel + 1, versioned => do
    match ← peek with
    | some (.directive d) =>
      drop
      directives fuel (← directive versioned d)
    | _ => modify fun s => { s with handles := s.handles ++ usualHandles }

/-- The next token ends a document or starts one, or there is none. -/
def atDocumentEdge : Reader Bool := do
  match ← peek with
  | some (.directive _) | some .documentStart | some .documentEnd | none => return true
  | _ => return false

/-- The next token is a directive or starts a document. -/
def isMarked : Reader Bool := do
  match ← peek with
  | some (.directive _) | some .documentStart => return true
  | _ => return false

/-- The node of a document. A marked document may be empty. -/
def document (fuel : Nat) : Reader Node := do
  let marked ← isMarked
  directives fuel false
  if marked then
    expect .documentStart
    if ← atDocumentEdge then return missing
  node fuel .block

/-- The marks at the end of a document, after which nothing may follow. -/
def documentTail : List Token → Bool
  | [] => true
  | .documentEnd :: ts => documentTail ts
  | _ => false

/-- The node of the only document of a text; a text may have none. -/
def ofTokens? (ts : List Token) : Except Fault (Option Node) :=
  if ts = [] then .ok none
  else
    ((document (4 * ts.length + 4)).run { tokens := ts }).bind fun (n, s) =>
      if documentTail s.tokens then .ok (some n) else .error .notYaml

end Node

end ExploitReplay.Yaml
