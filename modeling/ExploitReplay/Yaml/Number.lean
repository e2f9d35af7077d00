import ExploitReplay.Decimal.Shortest
import ExploitReplay.Text.Blank
import ExploitReplay.Text.Cut
import ExploitReplay.Text.DecimalDigit
import ExploitReplay.Yaml.Token

/-!
# Numbers in YAML

Whole numbers may be written in base two, eight, ten and sixteen, and numbers of both kinds in base
sixty, with colons between the parts. Underscores count nowhere, and digits may be of any script.

## Main definitions

* `Yaml.wholeValue cs`: the whole number that a text stands for
* `Yaml.doubleValue cs`: the double that a text stands for
* `Yaml.isNanWord cs`: the text is the usual word for what is no number
-/

namespace ExploitReplay.Yaml

/-! ### Parts -/

/-- The characters without underscores. -/
def bare (cs : List Char) : List Char :=
  cs.filter (· ≠ '_')

/-- A sign, if there is one, and the rest: whether the number is negative, and the number without
its sign. -/
def unsign : List Char → Bool × List Char
  | '-' :: cs => (true, cs)
  | '+' :: cs => (false, cs)
  | cs => (false, cs)

/-- A magnitude with its sign. -/
def signed (negative : Bool) (n : Int) : Int :=
  if negative then -n else n

/-- What cannot be read has the form of a number, but is none. -/
def orImpossible {α : Type} : Option α → Except Fault α
  | some x => .ok x
  | none => .error .impossibleValue

/-- The value of a number in base sixty, from those of its parts, the last one first: every part is
multiplied by the next power of sixty, and added. -/
def sixtiethSum {α : Type} (add : α → Nat → α → Except Fault α) :
    Nat → α → List α → Except Fault α
  | _, sum, [] => .ok sum
  | power, sum, part :: parts =>
    (add sum power part).bind fun sum => sixtiethSum add (60 * power) sum parts

/-! ### Whole numbers -/

/-- The letter after a leading zero that marks the base, if there is one. -/
def baseLetter? (base : Nat) : Option Char :=
  [(2, 'b'), (8, 'o'), (16, 'x')].lookup base

/-- The digits after a mark of the base, if it is written. -/
def unmark (base : Nat) : List Char → List Char
  | '0' :: c :: cs => if baseLetter? base = some c.toLower then cs else '0' :: c :: cs
  | cs => cs

/-- The digits stand for a number in the base; a decimal number must not be too long. -/
def areDigits (base : Nat) (ds : List Char) : Bool :=
  !ds.isEmpty && ds.all (fun d => (Text.digitValue? d).any (· < base)) &&
    (base != 10 || ds.length ≤ Text.digitLimit)

/-- A whole number in a base: digits with a sign and a mark of the base in front, if they are
written, and with blanks around. -/
def whole? (base : Nat) (cs : List Char) : Option Int :=
  let (negative, cs) := unsign (Text.withCommonDigits (Text.trimBlanks cs))
  let ds := unmark base cs
  if areDigits base ds then some (signed negative (Text.natOfDigits base ds)) else none

/-- The parts between colons. -/
def sixtieths (cs : List Char) : List (List Char) :=
  cs.splitOn ':'

/-- A whole number in base sixty. -/
def sixtiethWhole (cs : List Char) : Except Fault Int :=
  (orImpossible ((sixtieths cs).mapM (whole? 10))).bind fun parts =>
    sixtiethSum (fun (sum : Int) power part => .ok (sum + part * power)) 1 0 parts.reverse

/-- A whole number without its sign. What is in front of the digits says which base they have. -/
def magnitude (cs : List Char) : Except Fault Int :=
  match cs with
  | [] => .error .noDigits
  | ['0'] => .ok 0
  | '0' :: 'b' :: ds => orImpossible (whole? 2 ds)
  | '0' :: 'x' :: ds => orImpossible (whole? 16 ds)
  | '0' :: ds => orImpossible (whole? 8 ('0' :: ds))
  | _ => if cs.contains ':' then sixtiethWhole cs else orImpossible (whole? 10 cs)

/-- The whole number that a text stands for. -/
def wholeValue (cs : List Char) : Except Fault Int :=
  let (negative, body) := unsign (bare cs)
  (magnitude body).map (signed negative)

/-! ### Doubles -/

/-- The words for infinity, and for what is no number. -/
def doubleWord? (negative : Bool) (word : String) : Option Double :=
  if word = "inf" ∨ word = "infinity" then some (.infinite negative)
  else if word = "nan" then some .nan
  else none

/-- An exponent after its letter; no exponent is zero. -/
def exponent? : List Char → Option Int
  | [] => some 0
  | _ :: cs =>
    let (negative, ds) := unsign cs
    if !ds.isEmpty && ds.all Char.isDigit then some (signed negative (Text.natOfDigits 10 ds))
    else none

/-- Digits with a point among them or not, and an exponent. -/
def decimal? (negative : Bool) (cs : List Char) : Option Double :=
  let whole := cs.takeWhile Char.isDigit
  let afterWhole := cs.drop whole.length
  let (places, rest) :=
    match afterWhole with
    | '.' :: cs => (cs.takeWhile Char.isDigit, cs.dropWhile Char.isDigit)
    | cs => ([], cs)
  if (whole ++ places).isEmpty || !rest.head?.all (· == 'e') then none
  else
    (exponent? rest).map fun e =>
      .ofDecimal negative (Text.natOfDigits 10 (whole ++ places)) (e - places.length)

/-- A double in small letters, with blanks around. -/
def double? (cs : List Char) : Option Double :=
  let (negative, cs) := unsign (Text.withCommonDigits (Text.trimBlanks cs))
  (doubleWord? negative (String.ofList cs)).or (decimal? negative cs)

/-- A double in base sixty. The powers of sixty are doubles too. -/
def sixtiethDouble (cs : List Char) : Except Fault Double :=
  (orImpossible ((sixtieths cs).mapM double?)).bind fun parts =>
    sixtiethSum
      (fun sum power part =>
        match Double.ofNat? power with
        | some p => .ok (sum.add (part.mul p))
        | none => .error .tooLarge)
      1 (Double.zero false) parts.reverse

/-- The usual word for what is no number. -/
def nanWord : String := ".nan"

/-- The text is the usual word for what is no number, in letters of either size. -/
def isNanWord (cs : List Char) : Bool :=
  String.ofList (unsign ((bare cs).map Char.toLower)).2 = nanWord

/-- The double that a text stands for. -/
def doubleValue (cs : List Char) : Except Fault Double :=
  let cs := (bare cs).map Char.toLower
  if cs = [] then .error .noDigits
  else
    let (negative, body) := unsign cs
    let magnitude :=
      if String.ofList body = ".inf" then .ok (.infinite false)
      else if String.ofList body = nanWord then .ok .nan
      else if body.contains ':' then sixtiethDouble body
      else orImpossible (double? body)
    magnitude.map fun d => if negative then d.neg else d

end ExploitReplay.Yaml
