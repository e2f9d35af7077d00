import ExploitReplay.Decimal.Double

/-!
# The shortest decimal of a double

Of all decimals that read back as a given double, the shortest is written; among several of that
length the nearest, and of two that are equally near the one with the even last digit.

On the grid of decimals with `n` digits only the two neighbours of the double need a look: if any
point of the grid reads back, one of these does.

## Main definitions

* `Decimal`: a number `digits * 10 ^ exponent`
* `Decimal.shortest mantissa exponent`: the shortest decimal that reads back
* `Double.text d`: the text of a double
-/

namespace ExploitReplay

/-- The number `digits * 10 ^ exponent`. -/
structure Decimal where
  digits : Nat
  exponent : Int
deriving DecidableEq, Repr

namespace Decimal

/-- The place of the first digit of `num / den`: the `p` with
`10 ^ (p - 1) ≤ num / den < 10 ^ p`. -/
def leadingPlace (num den : Nat) : Int :=
  if den ≤ num then Double.decimalLength (num / den)
  else
    let n := Double.decimalLength (den / num)
    if den ≤ num * Nat.pow 10 (n - 1) then 2 - (n : Int) else 1 - (n : Int)

/-- The numbers that read back as `mantissa * 2 ^ exponent`, in quarters of `2 ^ exponent`: from
where, to where, and whether the ends belong to them. -/
def readBack (mantissa : Nat) (exponent : Int) : Nat × Nat × Bool :=
  let below := if mantissa = Nat.pow 2 52 ∧ Double.leastExponent < exponent then 1 else 2
  (4 * mantissa - below, 4 * mantissa + 2, mantissa % 2 = 0)

/-- Trailing zeros moved to the exponent; `fuel` bounds their number. -/
def dropZeros : Nat → Decimal → Decimal
  | 0, d => d
  | fuel + 1, d =>
    if d.digits % 10 = 0 ∧ d.digits ≠ 0 then dropZeros fuel ⟨d.digits / 10, d.exponent + 1⟩ else d

/-- The nearest decimal with `places` digits that reads back, if one does. -/
def onGrid? (mantissa : Nat) (exponent : Int) (places : Nat) : Option Decimal :=
  let num := mantissa * Nat.pow 2 exponent.toNat
  let den := Nat.pow 2 (-exponent).toNat
  let grid := leadingPlace num den - places
  -- the value, its neighbours and its ends over the common denominator `4 * step`
  let unit := num * Nat.pow 10 (-grid).toNat
  let step := den * Nat.pow 10 grid.toNat
  let low := unit / step
  let (first, last, ends) := readBack mantissa exponent
  let quarter := Nat.pow 2 exponent.toNat * Nat.pow 10 (-grid).toNat
  let reads := fun n : Nat =>
    let x := 4 * n * step
    if ends then first * quarter ≤ x ∧ x ≤ last * quarter
    else first * quarter < x ∧ x < last * quarter
  let lowGap := unit - low * step
  let highGap := (low + 1) * step - unit
  let highFirst := highGap < lowGap ∨ (highGap = lowGap ∧ low % 2 = 1)
  let (near, far) := if highFirst then (low + 1, low) else (low, low + 1)
  if reads near then some (dropZeros 20 ⟨near, grid⟩)
  else if reads far then some (dropZeros 20 ⟨far, grid⟩)
  else none

/-- The shortest decimal that reads back as `mantissa * 2 ^ exponent`. Seventeen digits always
do. -/
def shortest (mantissa : Nat) (exponent : Int) : Decimal :=
  ((List.range' 1 17).findSome? (onGrid? mantissa exponent)).getD ⟨0, 0⟩

/-- The text of a decimal: positional while its first digit stands for `10 ^ (-4)` to `10 ^ 15`,
with at least one digit on either side of the point, and with an exponent of at least two digits
otherwise. -/
def text (d : Decimal) : String :=
  let digits := toString d.digits
  let count := digits.length
  let place : Int := d.exponent + count
  let zeros := fun n : Nat => String.ofList (List.replicate n '0')
  if -4 < place ∧ place ≤ 0 then "0." ++ zeros (-place).toNat ++ digits
  else if 0 < place ∧ place ≤ 16 then
    if place < count then
      (digits.take place.toNat).toString ++ "." ++ (digits.drop place.toNat).toString
    else digits ++ zeros (place.toNat - count) ++ ".0"
  else
    let shown :=
      if count = 1 then digits
      else (digits.take 1).toString ++ "." ++ (digits.drop 1).toString
    let power := (place - 1).natAbs
    let sign := if place - 1 < 0 then "-" else "+"
    shown ++ "e" ++ sign ++ (if power < 10 then "0" else "") ++ toString power

end Decimal

namespace Double

/-- The text of a double. -/
def text : Double → String
  | .nan => "nan"
  | .infinite negative => if negative then "-inf" else "inf"
  | .finite negative mantissa exponent =>
    (if negative then "-" else "") ++
      if mantissa = 0 then "0.0" else (Decimal.shortest mantissa exponent).text

end Double

end ExploitReplay
