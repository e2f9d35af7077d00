import ExploitReplay.Signature.Basic
import ExploitReplay.Signature.Parameters
import ExploitReplay.Signature.Returns

/-!
# Reading signatures

A signature is read by its words, not by a grammar of the contract language. Only two defects are
refused: fewer than two words, and a name that opens no parameter list.

## Main definitions

* `Signature.tokens text`: the words of a signature
* `Signature.read text`: the signature that a text holds
* `Signature.parse text`: the same for a text that may be missing
-/

namespace ExploitReplay.Signature

/-- The word a signature may start with. -/
def functionKeyword : List Char := "function".toList

/-- The word that lets a call send value along. -/
def payableKeyword : List Char := "payable".toList

/-- The words of a signature, of which there are at least two. -/
def words? (text : String) : Except Defect (List (List Char)) :=
  match Text.words text.toList with
  | first :: second :: rest => .ok (first :: second :: rest)
  | _ => .error .tooFewWords

/-- The words from the name on: the word `function` in front is no part of the signature. -/
def fromName : List (List Char) → List (List Char)
  | [] => []
  | w :: ws => if w = functionKeyword then ws else w :: ws

/-- Reads a signature from its words and its words from the name on. The name is the first of
these up to its parenthesis, which opens the parameter list. -/
def ofWords (raw : String) (all body : List (List Char)) : Except Defect Signature :=
  if '(' ∈ body.headD [] then
    let (inside, tail) := parameterText ((Text.after? '(' (Text.unwords body)).getD [])
    let (modifiers, clause) := splitAtReturns (Text.words tail)
    .ok
      { raw := raw
        name := String.ofList (Text.before '(' (body.headD []))
        parameters := (parametersOf inside).map String.ofList
        modifiers := modifiers.map String.ofList
        returns := returnsOf clause
        payable := payableKeyword ∈ all }
  else .error .noParameterList

/-- The signature that a text holds. -/
def read (text : String) : Except Defect Signature :=
  (words? text).bind fun ws => ofWords text ws (fromName ws)

/-- The words of a signature that may be missing. -/
def tokens (text : Option String) : Except Malformed (List String) :=
  match words? (text.getD "") with
  | .ok ws => .ok (ws.map String.ofList)
  | .error d => .error ⟨text, d⟩

/-- The signature of a text that may be missing. -/
def parse (text : Option String) : Except Malformed Signature :=
  match read (text.getD "") with
  | .ok s => .ok s
  | .error d => .error ⟨text, d⟩

end ExploitReplay.Signature
