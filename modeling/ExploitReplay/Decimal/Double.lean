/-!
# Double-precision numbers

A double is a mantissa of 53 bits times a power of two, or an infinity, or not a number. Numbers are
read and combined exactly and then rounded once, to the nearest double; a tie goes to the even
mantissa. Everything is computed in whole numbers.

## Main definitions

* `Double`: a double, taken apart
* `Double.ofRatio negative num den`: the double nearest to a fraction
* `Double.ofDecimal negative digits exponent`: the double nearest to `digits * 10 ^ exponent`
* `Double.ofNat? n`: the double nearest to a whole number, if there is a finite one
* `Double.add`, `Double.mul`: the sum and the product of two doubles
-/

namespace ExploitReplay

/-- A double. A finite one is `mantissa * 2 ^ exponent` up to its sign, with an exponent of at least
`-1074` and a mantissa below `2 ^ 53`, which reaches `2 ^ 52` unless the exponent is `-1074`. -/
inductive Double where
  | nan
  | infinite (negative : Bool)
  | finite (negative : Bool) (mantissa : Nat) (exponent : Int)
deriving DecidableEq, Repr

namespace Double

/-- The least exponent of a double. -/
def leastExponent : Int := -1074

/-- The greatest exponent of a double. -/
def greatestExponent : Int := 971

/-- Zero, with its sign. -/
def zero (negative : Bool) : Double :=
  .finite negative 0 leastExponent

/-- The number is a zero of either sign. -/
def isZero : Double → Bool
  | .finite _ 0 _ => true
  | _ => false

/-- The whole number nearest to `num / den`; a tie goes to the even one. -/
def roundDiv (num den : Nat) : Nat :=
  let q := num / den
  let r := num % den
  if den < 2 * r ∨ (den = 2 * r ∧ q % 2 = 1) then q + 1 else q

/-- The fraction `num / den` in units of `2 ^ exponent`. -/
def inUnits (num den : Nat) (exponent : Int) : Nat × Nat :=
  (num * Nat.pow 2 (-exponent).toNat, den * Nat.pow 2 exponent.toNat)

/-- A mantissa and an exponent as a double: a mantissa of `2 ^ 53` moves to the next exponent, and
what exceeds the greatest exponent is infinite. -/
def pack (negative : Bool) (mantissa : Nat) (exponent : Int) : Double :=
  let (m, e) :=
    if mantissa = Nat.pow 2 53 then (Nat.pow 2 52, exponent + 1) else (mantissa, exponent)
  if greatestExponent < e then .infinite negative else .finite negative m e

/-- The double nearest to `num / den`, for a positive `den`. -/
def ofRatio (negative : Bool) (num den : Nat) : Double :=
  if num = 0 then zero negative
  else
    let guess : Int := (num.log2 : Int) - (den.log2 : Int) - 53
    let tight := inUnits num den guess
    let exponent := if tight.1 / tight.2 < Nat.pow 2 53 then guess else guess + 1
    let exponent := max exponent leastExponent
    let scaled := inUnits num den exponent
    pack negative (roundDiv scaled.1 scaled.2) exponent

/-- How many decimal digits a number has. -/
def decimalLength (n : Nat) : Nat :=
  (Nat.toDigits 10 n).length

/-- The double nearest to `digits * 10 ^ exponent`. Numbers from `10 ^ 310` on are infinite and
those below `10 ^ (-330)` zero, whatever their digits. -/
def ofDecimal (negative : Bool) (digits : Nat) (exponent : Int) : Double :=
  if digits = 0 then zero negative
  else
    let magnitude : Int := (decimalLength digits : Int) + exponent
    if 310 < magnitude then .infinite negative
    else if magnitude < -330 then zero negative
    else ofRatio negative (digits * Nat.pow 10 exponent.toNat) (Nat.pow 10 (-exponent).toNat)

/-! ### Sums and products -/

/-- The same number with the other sign. -/
def neg : Double → Double
  | .nan => .nan
  | .infinite s => .infinite (!s)
  | .finite s m e => .finite (!s) m e

/-- A signed mantissa in units of `2 ^ (-1074)`. -/
def units (negative : Bool) (mantissa : Nat) (exponent : Int) : Int :=
  let n : Nat := mantissa * Nat.pow 2 (exponent - leastExponent).toNat
  if negative then -n else n

/-- The sum of two doubles. -/
def add : Double → Double → Double
  | .finite s m e, .finite t n f =>
    let total := units s m e + units t n f
    if total = 0 then zero (s && t)
    else ofRatio (decide (total < 0)) total.natAbs (Nat.pow 2 1074)
  | .infinite s, .infinite t => if s = t then .infinite s else .nan
  | .infinite s, .finite .. => .infinite s
  | .finite .., .infinite t => .infinite t
  | _, _ => .nan

/-- The product of two doubles. -/
def mul : Double → Double → Double
  | .finite s m e, .finite t n f =>
    ofRatio (s != t) (m * n * Nat.pow 2 (e + f).toNat) (Nat.pow 2 (-(e + f)).toNat)
  | .infinite s, .infinite t => .infinite (s != t)
  | .infinite s, .finite t n _ => if n = 0 then .nan else .infinite (s != t)
  | .finite s m _, .infinite t => if m = 0 then .nan else .infinite (s != t)
  | _, _ => .nan

/-- The double nearest to a whole number, if there is a finite one. -/
def ofNat? (n : Nat) : Option Double :=
  match ofRatio false n 1 with
  | .finite s m e => some (.finite s m e)
  | _ => none

end Double

end ExploitReplay
