import ExploitReplay.Text.Cut
import ExploitReplay.Text.DecimalDigit

/-!
# The words of a command line

A word is an operand or an option. Options have names that start with a dash. A long name may be cut
short as long as one option is meant, a value may be attached to a name, and several options of one
letter may share a dash. After a double dash there are only operands.

## Main definitions

* `Switch`: an option, its names, and how many values it takes
* `Word`, `wordsOf? switches args`: the words of a command line
* `Item`, `scan switches leading words`: options with their values, and the operands between them

## Main results

* `wordsOf?_separator`: after a double dash there are only operands
-/

namespace ExploitReplay.CommandLine

variable {κ : Type}

/-- An option: what it is for, the names it goes by, and how many values it takes. -/
structure Switch (κ : Type) where
  key : κ
  names : List String
  values : Nat := 0
deriving DecidableEq, Repr

/-- The switch that goes by a name. -/
def named? (switches : List (Switch κ)) (name : String) : Option (Switch κ) :=
  switches.find? (·.names.contains name)

/-! ### Words -/

/-- A word of a command line. -/
inductive Word (κ : Type) where
  | operand (text : String)
  /-- A double dash, after which there are only operands. -/
  | separator
  /-- An option with its name, and the text attached to it, by an equals sign or directly. -/
  | option (switch : Switch κ) (name : String) (attached : Option (List Char))
  /-- An option that there is none of. -/
  | unknown
deriving DecidableEq, Repr

/-- A minus and a number in digits of any script, maybe with a point; a line end after it does not
matter. -/
def isNegativeNumber : List Char → Bool
  | '-' :: cs =>
    let number := if cs.getLast? = some '\n' then cs.dropLast else cs
    let whole := number.takeWhile Text.isDecimalDigit
    match number.drop whole.length with
    | [] => whole ≠ []
    | '.' :: places => places ≠ [] && places.all Text.isDecimalDigit
    | _ => false
  | _ => false

/-- The options that a text may mean when it is not the name of one: those whose long name it
begins, or the one whose letter comes before an attached text. -/
def candidates (switches : List (Switch κ)) (cs : List Char) : List (Word κ) :=
  let start := Text.before '=' cs
  if "--".toList.isPrefixOf cs then
    switches.flatMap fun s =>
      (s.names.filter fun n => start.isPrefixOf n.toList).map fun n =>
        .option s n (Text.after? '=' cs)
  else
    let letter := String.ofList (cs.take 2)
    ((named? switches letter).map fun s =>
      Word.option s letter (some (cs.drop 2))).toList

/-- The word that a text with a dash in front is; none if several options may be meant. -/
def Word.ofDashed? (switches : List (Switch κ)) (arg : String) : Option (Word κ) :=
  let cs := arg.toList
  let start := String.ofList (Text.before '=' cs)
  match named? switches arg, (Text.after? '=' cs).bind fun value =>
      (named? switches start).map fun s => Word.option s start (some value) with
  | some s, _ => some (.option s arg none)
  | none, some w => some w
  | none, none =>
    match candidates switches cs with
    | [] =>
      if isNegativeNumber cs || cs.contains ' ' then some (.operand arg) else some .unknown
    | [w] => some w
    | _ => none

/-- The word that a text is; none if several options may be meant. -/
def Word.ofString? (switches : List (Switch κ)) (arg : String) : Option (Word κ) :=
  if arg.toList.head? = some '-' ∧ arg ≠ "-" then Word.ofDashed? switches arg
  else some (.operand arg)

/-- The words of a command line; none if several options may be meant by one of them. -/
def wordsOf? (switches : List (Switch κ)) : List String → Option (List (Word κ))
  | [] => some []
  | arg :: rest =>
    if arg = "--" then some (.separator :: rest.map .operand)
    else
      (Word.ofString? switches arg).bind fun w => (wordsOf? switches rest).map (w :: ·)

/-- **After a double dash there are only operands.** -/
theorem wordsOf?_separator (switches : List (Switch κ)) (args : List String) :
    wordsOf? switches ("--" :: args) = some (.separator :: args.map .operand) := by
  simp [wordsOf?]

/-! ### Options with their values -/

/-- An option with its values, or a word that belongs to none. -/
inductive Item (κ : Type) where
  | operand (text : String)
  | separator
  | option (key : κ) (values : List String)
  | unknown
deriving DecidableEq, Repr

/-- How a scan ends. -/
inductive Ending where
  /-- All words have been scanned. -/
  | complete
  /-- An option does not have its values, or has a text attached that it takes no value for. -/
  | faulty
  /-- A leading operand, with the number of words after it. -/
  | leading (text : String) (left : Nat)
deriving DecidableEq, Repr

/-- The items of a command line, and how its scan ends. -/
structure Scan (κ : Type) where
  items : List (Item κ)
  ending : Ending
deriving DecidableEq, Repr

/-- An option that waits for values: the items that come with it, the values it has, and how many
more it needs. -/
structure Waiting (κ : Type) where
  before : List (Item κ)
  key : κ
  values : List String := []
  missing : Nat

/-- The values that an attached text is: one, unless it is a double dash, which is none. -/
def attachedValues (cs : List Char) : List String :=
  if cs = ['-', '-'] then [] else [String.ofList cs]

/-- The items of an option of one letter and the text after the letter: the value of the option, or
else the letters of more options. The last option is left to wait for values. Every letter must be
an option. -/
def lettersFrom (switches : List (Switch κ)) (s : Switch κ) :
    List Char → Option (List (Item κ) × Option (Switch κ))
  | [] => some ([], some s)
  | c :: rest =>
    if s.values = 1 then some ([.option s.key (attachedValues (c :: rest))], none)
    else if s.values ≠ 0 then none
    else
      (named? switches (String.ofList ['-', c])).bind fun next =>
        (lettersFrom switches next rest).map fun (items, last) =>
          (.option s.key [] :: items, last)

/-- The items of an option with text attached. More letters may be attached to a letter. -/
def attach (switches : List (Switch κ)) (s : Switch κ) (name : String) (attached : List Char) :
    Option (List (Item κ) × Option (Switch κ)) :=
  if s.values = 1 then some ([.option s.key (attachedValues attached)], none)
  else if attached = [] ∨ "--".toList.isPrefixOf name.toList then none
  else lettersFrom switches s attached

/-- The items of an option, and the option that waits for values then. -/
def start (switches : List (Switch κ)) (s : Switch κ) (name : String)
    (attached : Option (List Char)) : Option (List (Item κ) × Option (Waiting κ)) :=
  let begun :=
    match attached with
    | some a => attach switches s name a
    | none => some ([], some s)
  begun.map fun (items, last) =>
    match last with
    | none => (items, none)
    | some s =>
      if s.values = 0 then (items ++ [.option s.key []], none)
      else ([], some { before := items, key := s.key, missing := s.values })

/-- A scan with items in front. -/
def Scan.after (items : List (Item κ)) (s : Scan κ) : Scan κ :=
  { s with items := items ++ s.items }

/-- The scan of words while an option may wait for values. If operands lead, the first one ends the
scan. -/
def scanFrom (switches : List (Switch κ)) (leads : Bool) :
    Option (Waiting κ) → List (Word κ) → Scan κ
  | none, [] => ⟨[], .complete⟩
  | some _, [] => ⟨[], .faulty⟩
  | some w, .operand text :: rest =>
    if w.missing ≤ 1 then
      (scanFrom switches leads none rest).after
        (w.before ++ [.option w.key (w.values ++ [text])])
    else
      scanFrom switches leads
        (some { w with values := w.values ++ [text], missing := w.missing - 1 }) rest
  | some _, _ :: _ => ⟨[], .faulty⟩
  | none, .operand text :: rest =>
    if leads then ⟨[], .leading text rest.length⟩
    else (scanFrom switches leads none rest).after [.operand text]
  | none, .separator :: rest => (scanFrom switches leads none rest).after [.separator]
  | none, .unknown :: rest => (scanFrom switches leads none rest).after [.unknown]
  | none, .option s name attached :: rest =>
    match start switches s name attached with
    | none => ⟨[], .faulty⟩
    | some (items, waiting) => (scanFrom switches leads waiting rest).after items

/-- The items of a command line. -/
def scan (switches : List (Switch κ)) (leads : Bool) (words : List (Word κ)) : Scan κ :=
  scanFrom switches leads none words

/-! ### Items -/

/-- The values of an option each time it is given. -/
def valuesOf [DecidableEq κ] (key : κ) (items : List (Item κ)) : List (List String) :=
  items.filterMap fun
    | .option k values => if k = key then some values else none
    | _ => none

/-- The option is given. -/
def isGiven [DecidableEq κ] (key : κ) (items : List (Item κ)) : Bool :=
  valuesOf key items ≠ []

/-- The value of an option that takes one; the last one if it is given several times. -/
def lastValue? [DecidableEq κ] (key : κ) (items : List (Item κ)) : Option String :=
  (valuesOf key items).getLast?.bind List.head?

/-- The operands. -/
def operands (items : List (Item κ)) : List String :=
  items.filterMap fun
    | .operand text => some text
    | _ => none

/-- There is an option that is unknown. -/
def hasUnknown (items : List (Item κ)) : Bool :=
  items.any fun
    | .unknown => true
    | _ => false

/-- There is a double dash with no operand next to it. -/
def hasLooseSeparator : List (Item κ) → Bool
  | [] => false
  | .operand _ :: .separator :: rest => hasLooseSeparator rest
  | .separator :: .operand _ :: rest => hasLooseSeparator rest
  | .separator :: _ => true
  | _ :: rest => hasLooseSeparator rest

end ExploitReplay.CommandLine
