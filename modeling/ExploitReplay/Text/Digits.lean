/-!
# Digits

## Main definitions

* `digitValue? c`: the value of a digit, in a base of at most sixteen
* `natOfDigits base ds`, `natOfDigits? base ds`: the number that digits stand for
* `hexDigits width n`: a number in base sixteen, with leading zeros
* `digitLimit`: how long a decimal number may be

## Main results

* `natOfDigits?_append`: one more digit multiplies by the base and adds its value
-/

namespace ExploitReplay.Text

/-- The value of a digit of base sixteen. -/
def digitValue? (c : Char) : Option Nat :=
  if '0' ≤ c ∧ c ≤ '9' then some (c.toNat - '0'.toNat)
  else if 'a' ≤ c ∧ c ≤ 'f' then some (c.toNat - 'a'.toNat + 10)
  else if 'A' ≤ c ∧ c ≤ 'F' then some (c.toNat - 'A'.toNat + 10)
  else none

/-- The number that digits stand for, the first counting most. -/
def natOfDigits? (base : Nat) (ds : List Char) : Option Nat :=
  ds.foldl (fun n d => n.bind fun m => (digitValue? d).map (base * m + ·)) (some 0)

/-- The number that digits stand for; zero if one of them is no digit. -/
def natOfDigits (base : Nat) (ds : List Char) : Nat :=
  (natOfDigits? base ds).getD 0

@[simp] theorem natOfDigits?_nil (base : Nat) : natOfDigits? base [] = some 0 := rfl

/-- One more digit multiplies by the base and adds its value. -/
theorem natOfDigits?_append (base : Nat) (ds : List Char) (d : Char) :
    natOfDigits? base (ds ++ [d]) =
      (natOfDigits? base ds).bind fun m => (digitValue? d).map (base * m + ·) := by
  simp [natOfDigits?]

/-- The digits of a number below `16 ^ width` in base sixteen, with leading zeros. -/
def hexDigits : Nat → Nat → List Char
  | 0, _ => []
  | width + 1, n => hexDigits width (n / 16) ++ [Nat.digitChar (n % 16)]

@[simp] theorem length_hexDigits (width n : Nat) : (hexDigits width n).length = width := by
  induction width generalizing n with
  | zero => rfl
  | succ w ih => simp [hexDigits, ih]

/-! ### Long numbers -/

/-- The most digits of a decimal number that is read or written. -/
def digitLimit : Nat := 4300

/-- The number can be written in decimal. -/
def isWritable (n : Int) : Bool :=
  n.natAbs < Nat.pow 10 digitLimit

end ExploitReplay.Text
