import ExploitReplay.Text.Blank

/-!
# Consoles

A command puts out its messages on a console, which is not a part of the program. A message is
written with markup: a tag such as `[green]` says how the text behind it is shown, and a word between
colons may be the name of a picture. A text in which nothing could be markup is shown as it is, as
long as it fits into the width of the console; a tag that opens is left out; and a message is not
shown at all if one of its tags closes another one that is not open. This much is known of every
console, and the commands rely on no more.

## Main definitions

* `Console`: what comes out for a message and for a table
* `Colour.paint`: a text in a colour
* `Markup.IsLiteral cs`: nothing in a text could be markup, whatever comes after it
* `Console.Documented c`: what is known of a console
-/

namespace ExploitReplay

/-- Why a message is not shown. -/
inductive Console.Fault where
  /-- A tag closes another one that is not open, in the words of the console. -/
  | unmatched (message : String)
  | other (message : String)
deriving DecidableEq, Repr

/-- What comes out for a message, and for a table with a title, a heading and rows of two cells. All
of them are written with markup; colours are left aside. -/
structure Console where
  /-- The columns of a line. -/
  width : Nat
  /-- The columns that a text takes. -/
  columns : String → Nat
  print : String → Except Console.Fault String
  table : String → String × String → List (String × String) → Except Console.Fault String

/-! ### Colours -/

/-- The colours that messages are shown in. -/
inductive Colour where
  | red
  | green
  | yellow
deriving DecidableEq, Repr

/-- The name of a colour in markup. -/
def Colour.tag : Colour → String
  | .red => "red"
  | .green => "green"
  | .yellow => "yellow"

/-- A text in a colour. -/
def Colour.paint (colour : Colour) (text : String) : String :=
  "[" ++ colour.tag ++ "]" ++ text ++ "[/" ++ colour.tag ++ "]"

/-! ### Literal texts -/

namespace Markup

/-- A tag starts with one of these characters. -/
def startsTag (c : Char) : Bool :=
  c.isLower || c == '#' || c == '/' || c == '@'

/-- The controls that would move the cursor: bell, backspace, vertical tab, form feed and carriage
return. -/
def movesCursor (c : Char) : Bool :=
  ['\x07', '\x08', '\x0B', '\x0C', '\x0D'].contains c

/-- The characters that may have a meaning of their own: those of markup, tabs and line feeds. -/
def meaningful : List Char :=
  ['[', '\\', ':', '\t', '\n']

/-- A character that stands for itself wherever it is. -/
def isOrdinary (c : Char) : Bool :=
  !meaningful.contains c && !movesCursor c

/-- Nothing in the text is markup. A bracket is followed by what starts no tag, and a colon by a
blank, so that no word between colons follows it. -/
inductive IsLiteral : List Char → Prop
  | nil : IsLiteral []
  | ordinary {c : Char} {cs : List Char} (head : isOrdinary c = true) (tail : IsLiteral cs) :
      IsLiteral (c :: cs)
  | bracket {c : Char} {cs : List Char} (head : startsTag c = false) (tail : IsLiteral (c :: cs)) :
      IsLiteral ('[' :: c :: cs)
  | colon {c : Char} {cs : List Char} (head : Text.isBlank c = true) (tail : IsLiteral (c :: cs)) :
      IsLiteral (':' :: c :: cs)

/-- A character in a range of code points is one of as many. -/
theorem exists_eq_ofNat {c : Char} {least n : Nat} (hleast : least ≤ c.toNat)
    (hmost : c.toNat < least + n) : ∃ k : Fin n, c = Char.ofNat (least + k) := by
  refine ⟨⟨c.toNat - least, by omega⟩, ?_⟩
  have hsum : least + (c.toNat - least) = c.toNat := by omega
  simp [hsum]

namespace IsLiteral

theorem of_forall_ordinary {cs : List Char} (h : ∀ c ∈ cs, isOrdinary c = true) : IsLiteral cs := by
  induction cs with
  | nil => exact .nil
  | cons c cs ih =>
    exact .ordinary (h c (by simp)) (ih fun d hd => h d (List.mem_cons_of_mem _ hd))

theorem of_all {cs : List Char} (h : cs.all isOrdinary = true) : IsLiteral cs :=
  of_forall_ordinary (List.all_eq_true.mp h)

theorem append {cs ds : List Char} (hc : IsLiteral cs) (hd : IsLiteral ds) :
    IsLiteral (cs ++ ds) := by
  induction hc with
  | nil => exact hd
  | ordinary head _ ih => exact .ordinary head ih
  | bracket head _ ih => exact .bracket head ih
  | colon head _ ih => exact .colon head ih

/-- A literal text holds no backslash and no control. -/
theorem of_mem {cs : List Char} (h : IsLiteral cs) {c : Char} (hc : c ∈ cs) :
    c ≠ '\\' ∧ c ≠ '\t' ∧ c ≠ '\n' ∧ movesCursor c = false := by
  induction h with
  | nil => simp at hc
  | @ordinary d ds head _ ih =>
    rcases List.mem_cons.mp hc with rfl | hc
    · simp [isOrdinary, meaningful] at head
      grind
    · exact ih hc
  | bracket _ _ ih =>
    rcases List.mem_cons.mp hc with rfl | hc
    · decide
    · exact ih hc
  | colon _ _ ih =>
    rcases List.mem_cons.mp hc with rfl | hc
    · decide
    · exact ih hc

end IsLiteral

/-- A check for literal texts, by every character and the next one. -/
def isLiteral : List Char → Bool
  | [] => true
  | [c] => isOrdinary c
  | c :: d :: cs =>
    (isOrdinary c || c == '[' && !startsTag d || c == ':' && Text.isBlank d) && isLiteral (d :: cs)

theorem isLiteral_iff (cs : List Char) : isLiteral cs = true ↔ IsLiteral cs := by
  fun_induction isLiteral cs with
  | case1 => simp [IsLiteral.nil]
  | case2 c =>
    constructor
    · exact fun h => .ordinary h .nil
    · intro h
      cases h with
      | ordinary head _ => exact head
  | case3 c d cs ih =>
    rw [Bool.and_eq_true, ih]
    constructor
    · rintro ⟨hhead, htail⟩
      simp only [Bool.or_eq_true, Bool.and_eq_true, beq_iff_eq, Bool.not_eq_true'] at hhead
      rcases hhead with (head | ⟨rfl, head⟩) | ⟨rfl, head⟩
      · exact .ordinary head htail
      · exact .bracket head htail
      · exact .colon head htail
    · intro h
      cases h with
      | ordinary head tail => exact ⟨by simp [head], tail⟩
      | bracket head tail => exact ⟨by simp [head], tail⟩
      | colon head tail => exact ⟨by simp [head], tail⟩

instance : DecidablePred IsLiteral := fun cs => decidable_of_iff _ (isLiteral_iff cs)

/-- A word of small letters, which may be the name of a tag. -/
def IsTagName (name : String) : Prop :=
  name ≠ "" ∧ ∀ c ∈ name.toList, c.isLower = true

instance : DecidablePred IsTagName := fun name =>
  decidable_of_iff (name ≠ "" ∧ name.toList.all Char.isLower = true) (by simp [IsTagName])

end Markup

/-! ### What is known of a console -/

namespace Console

open Markup (IsLiteral IsTagName)

/-- A text fits into one line. -/
def Fits (c : Console) (text : String) : Prop :=
  text.length ≤ c.width ∧ c.columns text ≤ c.width

/-- What is known of a console. -/
structure Documented (c : Console) : Prop where
  /-- A message ends its last line. -/
  ended : ∀ message shown, c.print message = .ok shown → ∃ lines, shown = lines ++ "\n"
  /-- A literal text is shown, if need be in several lines. -/
  shown : ∀ (colour : Colour) (text : String), IsLiteral text.toList →
    ∃ shown, c.print (colour.paint text) = .ok shown
  /-- A literal text that fits is shown as it is. -/
  plain : ∀ (colour : Colour) (text : String), IsLiteral text.toList → c.Fits text →
    c.print (colour.paint text) = .ok (text ++ "\n")
  /-- A tag that opens is left out, whether its name is known or not. -/
  opening : ∀ (colour : Colour) (before name after : String), IsLiteral before.toList →
    IsTagName name → IsLiteral after.toList → c.Fits (before ++ after) →
    c.print (colour.paint (before ++ "[" ++ name ++ "]" ++ after)) = .ok (before ++ after ++ "\n")
  /-- A tag that closes another one than the colour is a fault. -/
  closing : ∀ (colour : Colour) (before name after : String), IsLiteral before.toList →
    IsTagName name → name ≠ colour.tag → IsLiteral after.toList →
    ∃ message, c.print (colour.paint (before ++ "[/" ++ name ++ "]" ++ after)) =
      .error (.unmatched message)

end Console

end ExploitReplay
