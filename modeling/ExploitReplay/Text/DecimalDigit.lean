import ExploitReplay.Text.Digits

/-!
# Decimal digits of all scripts

Many scripts have ten digits of their own, which stand in a row. Wherever a number may be written in
any script, each digit stands for the one between zero and nine that has its value.

## Main definitions

* `zeros`: the zeros of all scripts, in ascending order
* `decimalDigit? c`: the value of a decimal digit of any script
* `withCommonDigits cs`: the text with all decimal digits replaced by the common ones

## Main results

* `decimalDigit?_lt_ten`: a decimal digit is less than ten
-/

namespace ExploitReplay.Text

/-- The code points of the zeros of all scripts, in ascending order. The digits from one to nine
follow each of them. -/
def zeros : List Nat :=
  [0x30, 0x660, 0x6F0, 0x7C0, 0x966, 0x9E6, 0xA66, 0xAE6, 0xB66, 0xBE6, 0xC66, 0xCE6, 0xD66, 0xDE6,
   0xE50, 0xED0, 0xF20, 0x1040, 0x1090, 0x17E0, 0x1810, 0x1946, 0x19D0, 0x1A80, 0x1A90, 0x1B50,
   0x1BB0, 0x1C40, 0x1C50, 0xA620, 0xA8D0, 0xA900, 0xA9D0, 0xA9F0, 0xAA50, 0xABF0, 0xFF10, 0x104A0,
   0x10D30, 0x11066, 0x110F0, 0x11136, 0x111D0, 0x112F0, 0x11450, 0x114D0, 0x11650, 0x116C0,
   0x11730, 0x118E0, 0x11950, 0x11C50, 0x11D50, 0x11DA0, 0x16A60, 0x16AC0, 0x16B50, 0x1D7CE,
   0x1D7D8, 0x1D7E2, 0x1D7EC, 0x1D7F6, 0x1E140, 0x1E2F0, 0x1E950, 0x1FBF0]

/-- The code point is the digit of a zero, or one of the nine after it. -/
def followsZero (n z : Nat) : Bool :=
  z ≤ n && n < z + 10

/-- The value of a decimal digit of any script. -/
def decimalDigit? (c : Char) : Option Nat :=
  (zeros.find? (followsZero c.toNat)).map (c.toNat - ·)

/-- The character is a decimal digit of some script. -/
def isDecimalDigit (c : Char) : Bool :=
  (decimalDigit? c).isSome

/-- A decimal digit is less than ten. -/
theorem decimalDigit?_lt_ten {c : Char} {n : Nat} (h : decimalDigit? c = some n) : n < 10 := by
  obtain ⟨z, found, rfl⟩ := Option.map_eq_some_iff.mp h
  have := List.find?_some found
  simp only [followsZero, Bool.and_eq_true, decide_eq_true_eq] at this
  omega

/-- The common digit with the value of a decimal digit; any other character stays. -/
def commonDigit (c : Char) : Char :=
  match decimalDigit? c with
  | some n => Nat.digitChar n
  | none => c

/-- The text with all decimal digits replaced by the common ones. -/
def withCommonDigits (cs : List Char) : List Char :=
  cs.map commonDigit

@[simp] theorem length_withCommonDigits (cs : List Char) :
    (withCommonDigits cs).length = cs.length :=
  List.length_map ..

end ExploitReplay.Text
