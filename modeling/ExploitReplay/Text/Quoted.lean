import ExploitReplay.Text.Digits
import ExploitReplay.Text.Unprintable

/-!
# Quoted text

Messages and listings show a text between quotes, with everything that would not be seen as it is
written as an escape.

## Main definitions

* `quoteMark cs`: the quote that surrounds a text
* `escape q c`: a character inside the quotes `q`
* `quoted s`: the text between quotes
-/

namespace ExploitReplay.Text

/-- A text is put between single quotes, or between double ones when it holds a single quote and no
double one. -/
def quoteMark (cs : List Char) : Char :=
  if '\'' ∈ cs ∧ '"' ∉ cs then '"' else '\''

/-- A character inside the quotes `q`. -/
def escape (q c : Char) : List Char :=
  if c = q ∨ c = '\\' then ['\\', c]
  else if c = '\t' then ['\\', 't']
  else if c = '\n' then ['\\', 'n']
  else if c = '\r' then ['\\', 'r']
  else if isPrintable c then [c]
  else if c.toNat ≤ 0xFF then '\\' :: 'x' :: hexDigits 2 c.toNat
  else if c.toNat ≤ 0xFFFF then '\\' :: 'u' :: hexDigits 4 c.toNat
  else '\\' :: 'U' :: hexDigits 8 c.toNat

/-- The text between quotes, as characters. -/
def quotedChars (cs : List Char) : List Char :=
  quoteMark cs :: cs.flatMap (escape (quoteMark cs)) ++ [quoteMark cs]

/-- The text between quotes. -/
def quoted (s : String) : String :=
  String.ofList (quotedChars s.toList)

end ExploitReplay.Text
