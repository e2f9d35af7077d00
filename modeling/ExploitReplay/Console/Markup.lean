import ExploitReplay.Console.Basic
import ExploitReplay.Text.Cut

/-!
# The plain text of messages

A terminal that knows no colours leaves out the tags of a message. A backslash in front takes the
meaning from a tag, and a word between colons may name a picture. Tags are told apart by the names
that they are written with: two names for one style are two names.

## Main definitions

* `Markup.Piece`, `Markup.pieces cs`: a text cut into its tags and what is between them
* `Markup.render picture? cs`: the plain text of a text with markup
-/

namespace ExploitReplay.Markup

/-- A part of a text: literal, or the inside of a tag. -/
inductive Piece where
  | literal (cs : List Char)
  | tag (inside : List Char)
deriving DecidableEq, Repr

/-! ### Tags -/

/-- The inside of the tag that a text starts with. -/
def tag? : List Char → Option (List Char)
  | '[' :: c :: rest =>
    let more := rest.takeWhile fun d => d != '[' && d != ']'
    if startsTag c && (rest.drop more.length).head? == some ']' then some (c :: more) else none
  | _ => none

/-- A literal part, unless it is empty. -/
def literals (cs : List Char) : List Piece :=
  if cs = [] then [] else [.literal cs]

/-- Half of the backslashes in front of a tag stand for themselves; one that is left over takes the
meaning from the tag. -/
def tagPieces (slashes : Nat) (inside : List Char) : List Piece :=
  literals (List.replicate (slashes / 2) '\\') ++
    [if slashes % 2 = 1 then .literal ('[' :: inside ++ [']']) else .tag inside]

/-- The parts of a text after a literal beginning, where `skip` characters are done with. -/
def piecesFrom : Nat → List Char → List Char → List Piece
  | _, before, [] => literals before
  | skip + 1, before, _ :: cs => piecesFrom skip before cs
  | 0, before, c :: cs =>
    let slashes := ((c :: cs).takeWhile (· == '\\')).length
    match tag? ((c :: cs).drop slashes) with
    | none => piecesFrom 0 (before ++ [c]) cs
    | some inside =>
      literals before ++ tagPieces slashes inside ++ piecesFrom (slashes + inside.length + 1) [] cs

/-- The parts of a text. -/
def pieces (cs : List Char) : List Piece :=
  piecesFrom 0 [] cs

/-! ### Literal parts -/

/-- The text with the backslashes in front of opening brackets left out. -/
def unescape : List Char → List Char
  | '\\' :: '[' :: cs => '[' :: unescape cs
  | c :: cs => c :: unescape cs
  | [] => []

/-- The word between two colons at the beginning of a text. It holds no blank. -/
def pictureName? : List Char → Option (List Char)
  | ':' :: rest =>
    let name := rest.takeWhile fun c => c != ':' && !Text.isBlank c
    if (rest.drop name.length).head? = some ':' then some name else none
  | _ => none

/-- The text with pictures in the place of their names, where `skip` characters are done with. -/
def drawFrom (picture? : List Char → Option (List Char)) : Nat → List Char → List Char
  | _, [] => []
  | skip + 1, _ :: cs => drawFrom picture? skip cs
  | 0, c :: cs =>
    match pictureName? (c :: cs) with
    | some name => (picture? name).getD (':' :: name ++ [':']) ++
        drawFrom picture? (name.length + 1) cs
    | none => c :: drawFrom picture? 0 cs

/-- The text with pictures in the place of their names. -/
def draw (picture? : List Char → Option (List Char)) (cs : List Char) : List Char :=
  drawFrom picture? 0 cs

/-! ### Plain text -/

/-- The fault of a tag that closes another one that is not open. -/
def unmatched (inside : List Char) : Console.Fault :=
  .unmatched ("A message closes a tag that is not open: " ++ String.ofList inside)

/-- The name of a tag: what is before its parameters, without regard to case. -/
def tagName (inside : List Char) : List Char :=
  (Text.trimBlanks (Text.before '=' inside)).map Char.toLower

/-- The open tags after a tag, the last one first. A closing tag without a name closes the last
one, and one with a name the last one of that name. -/
def followTag (opened : List (List Char)) (inside : List Char) :
    Except Console.Fault (List (List Char)) :=
  match inside with
  | '/' :: rest =>
    let name := tagName rest
    if name = [] then
      match opened with
      | [] => .error (unmatched inside)
      | _ :: others => .ok others
    else if opened.contains name then .ok (opened.erase name)
    else .error (unmatched inside)
  | _ => .ok (tagName inside :: opened)

/-- The plain text of the parts of a text. -/
def renderPieces (picture? : List Char → Option (List Char)) :
    List (List Char) → List Piece → Except Console.Fault (List Char)
  | _, [] => .ok []
  | opened, .literal cs :: rest =>
    (renderPieces picture? opened rest).map (draw picture? (unescape cs) ++ ·)
  | opened, .tag inside :: rest =>
    (followTag opened inside).bind fun opened => renderPieces picture? opened rest

/-- The plain text of a text with markup. -/
def render (picture? : List Char → Option (List Char)) (cs : List Char) :
    Except Console.Fault (List Char) :=
  renderPieces picture? [] (pieces cs)

end ExploitReplay.Markup
