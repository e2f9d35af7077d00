import ExploitReplay.Yaml.Moment
import ExploitReplay.Yaml.Number
import ExploitReplay.Yaml.Tag

/-!
# What plain scalars are taken for

A plain scalar that has the form of a truth value, a number or a moment is taken for one, and any
other is a text.

## Main definitions

* `Yaml.isWholeForm cs`, `Yaml.isDoubleForm cs`: the forms of numbers
* `Yaml.tagOf cs`: what a plain scalar is taken for

## Main results

* `tagOf_nil`: nothing at all is taken for null
-/

namespace ExploitReplay.Yaml

/-! ### Words -/

/-- The words that are taken for something else than a text, but for numbers and moments. -/
def wordTags : List (Tag × List String) :=
  [(.null, ["", "~", "null", "Null", "NULL"]),
    (.bool, ["yes", "Yes", "YES", "true", "True", "TRUE", "on", "On", "ON",
      "no", "No", "NO", "false", "False", "FALSE", "off", "Off", "OFF"]),
    (.merge, ["<<"]),
    (.default, ["="])]

/-- What a word is taken for, if not for a text. -/
def wordTag? (s : String) : Option Tag :=
  (wordTags.find? fun p => p.2.contains s).map Prod.fst

/-! ### Digits -/

/-- An underscore may stand wherever a digit may, except in front. -/
def digitOr_ (p : Char → Bool) (c : Char) : Bool :=
  p c || c == '_'

/-- Decimal digits, underscores after the first allowed. -/
def isNumeral : List Char → Bool
  | [] => false
  | c :: cs => c.isDigit && cs.all (digitOr_ Char.isDigit)

/-- A numeral that does not start with a zero. -/
def isPositiveNumeral (cs : List Char) : Bool :=
  isNumeral cs && cs.headD '0' != '0'

/-- A part of a number in base sixty: at most two digits, below sixty. -/
def isSixtieth : List Char → Bool
  | [c] => c.isDigit
  | [c, d] => '0' ≤ c && c ≤ '5' && d.isDigit
  | _ => false

/-- A number in base sixty: a first part, and at least one other. -/
def isSexagesimal (first : List Char → Bool) (cs : List Char) : Bool :=
  match sixtieths cs with
  | whole :: part :: parts => first whole && (part :: parts).all isSixtieth
  | _ => false

/-! ### Numbers -/

/-- The form of a whole number without its sign. -/
def isMagnitude : List Char → Bool
  | ['0'] => true
  | '0' :: 'b' :: ds => !ds.isEmpty && ds.all (digitOr_ fun c => c == '0' || c == '1')
  | '0' :: 'x' :: ds => !ds.isEmpty && ds.all (digitOr_ fun c => (Text.digitValue? c).isSome)
  | '0' :: ds => ds.all (digitOr_ fun c => '0' ≤ c && c ≤ '7')
  | cs => isPositiveNumeral cs || isSexagesimal isPositiveNumeral cs

/-- The form of a whole number. -/
def isWholeForm (cs : List Char) : Bool :=
  isMagnitude (unsign cs).2

/-- The form of an exponent, which must have a sign; there may be none. -/
def isExponent : List Char → Bool
  | [] => true
  | e :: sign :: ds =>
    (e == 'e' || e == 'E') && (sign == '+' || sign == '-') && !ds.isEmpty && ds.all Char.isDigit
  | _ => false

/-- The form of a number that starts with its point. Only infinity may have a sign. -/
def isPointFirst (signed : Bool) (cs : List Char) : Bool :=
  let s := String.ofList cs
  let places := cs.takeWhile (digitOr_ Char.isDigit)
  ["inf", "Inf", "INF"].contains s ||
    (!signed && (["nan", "NaN", "NAN"].contains s ||
      (isNumeral places && isExponent (cs.drop places.length))))

/-- The form of a number with a point. -/
def isDoubleForm (cs : List Char) : Bool :=
  let body := (unsign cs).2
  match Text.after? '.' body with
  | none => false
  | some rest =>
    let whole := Text.before '.' body
    let tail := rest.dropWhile (digitOr_ Char.isDigit)
    if whole = [] then isPointFirst (body.length != cs.length) rest
    else (isNumeral whole && isExponent tail) || (isSexagesimal isNumeral whole && tail == [])

/-! ### All forms -/

/-- The text that is looked at: one line feed at its end does not count, unless it is all there
is. -/
def withoutLastFeed (cs : List Char) : List Char :=
  match cs.reverse with
  | '\n' :: c :: rest => (c :: rest).reverse
  | _ => cs

/-- What a plain scalar is taken for. -/
def tagOf (cs : List Char) : Tag :=
  let cs := withoutLastFeed cs
  match wordTag? (String.ofList cs) with
  | some t => t
  | none =>
    if isWholeForm cs then .int
    else if isDoubleForm cs then .float
    else if Moment.isWritten cs then .moment
    else .text

@[simp] theorem tagOf_nil : tagOf [] = .null := by decide

end ExploitReplay.Yaml
