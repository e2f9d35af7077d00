import ExploitReplay.Text.Digits

/-!
# Bytes as text

Bytes are written with 64 characters, each for six bits, so that four characters make three bytes.
Other characters count for nothing. Equals signs fill up the last group, after which nothing counts.

## Main definitions

* `Binary.ofChars? cs`: the bytes that are written
* `Binary.listing bytes`: bytes in quotes

## Main results

* `Binary.sixBits?_lt`: a character stands for less than 64
-/

namespace ExploitReplay.Binary

/-! ### Reading -/

/-- The characters for six bits, in the order of their values. -/
def alphabet : List Char :=
  "ABCDEFGHIJKLMNOPQRSTUVWXYZabcdefghijklmnopqrstuvwxyz0123456789+/".toList

/-- The six bits that a character stands for. -/
def sixBits? (c : Char) : Option Nat :=
  alphabet.idxOf? c

/-- A character stands for less than 64. -/
theorem sixBits?_lt {c : Char} {n : Nat} (h : sixBits? c = some n) : n < 64 := by
  obtain ⟨bound, -⟩ := List.findIdx?_eq_some_iff_getElem.mp h
  exact bound

/-- The bytes of a group of one to three characters, of which the last bits may be missing. -/
def groupBytes (group : List Nat) : List Nat :=
  match group with
  | [a, b] => [4 * a + b / 16]
  | [a, b, c] => [4 * a + b / 16, 16 * (b % 16) + c / 4]
  | [a, b, c, d] => [4 * a + b / 16, 16 * (b % 16) + c / 4, 64 * (c % 4) + d]
  | _ => []

/-- The bytes that are written, after a group of characters that is not complete and some equals
signs in a row. -/
def bytesFrom : List Nat → Nat → List Char → Option (List Nat)
  | group, _, [] => if group = [] then some [] else none
  | group, signs, c :: cs =>
    if c = '=' then
      if 2 ≤ group.length ∧ 4 ≤ group.length + signs + 1 then some (groupBytes group)
      else bytesFrom group (if 2 ≤ group.length then signs + 1 else signs) cs
    else
      match sixBits? c with
      | none => bytesFrom group signs cs
      | some n =>
        if group.length = 3 then
          (bytesFrom [] 0 cs).map (groupBytes (group ++ [n]) ++ ·)
        else bytesFrom (group ++ [n]) 0 cs

/-- The bytes that are written, if the text is one of common characters and its last group is
filled up. -/
def ofChars? (cs : List Char) : Option (List Nat) :=
  if cs.all (·.toNat < 128) then bytesFrom [] 0 cs else none

/-! ### Writing -/

/-- A byte between quotes: a visible character as it is, others by their codes. -/
def byteListing (quote : Char) (n : Nat) : List Char :=
  let c := Char.ofNat n
  if c = quote ∨ c = '\\' then ['\\', c]
  else if c = '\t' then ['\\', 't']
  else if c = '\n' then ['\\', 'n']
  else if c = '\r' then ['\\', 'r']
  else if 32 ≤ n ∧ n < 127 then [c]
  else '\\' :: 'x' :: Text.hexDigits 2 n

/-- Bytes in quotes: single ones, unless only those are among the bytes. -/
def listing (bytes : List Nat) : String :=
  let single := bytes.contains '\''.toNat && !bytes.contains '"'.toNat
  let quote := if single then '"' else '\''
  String.ofList ('b' :: quote :: bytes.flatMap (byteListing quote) ++ [quote])

end ExploitReplay.Binary
