import ExploitReplay.Json.Value
import ExploitReplay.Text.Digits

/-!
# Reading JSON

A text is read as one JSON value. A text that is none is refused with the reason and the place where
reading stopped.

Every reading function works on the characters that are left. A place is kept as the number of
characters left there, and turned into a line and a column only in the message.

## Main definitions

* `Json.Reason`, `Json.Unreadable`: why and where a text is no JSON value
* `Json.units cs`: the code units of a string, up to its closing quote
* `Json.number? cs`: a number at the beginning of a text
* `Json.read text`: the value that a text holds
* `Json.Unreadable.message`: reason and place in words
-/

namespace ExploitReplay.Json

/-- Why a text is no JSON value. -/
inductive Reason where
  | expectingValue
  | expectingComma
  | expectingColon
  | expectingName
  | extraData
  | unterminatedString
  | controlCharacter
  | unknownEscape
  | badUnicodeEscape
  | byteOrderMark
  /-- A whole number has too many digits. -/
  | numberTooLong (digits : Nat)
  /-- Too many lists and objects are inside each other. -/
  | tooDeep
  /-- A string has one half of a surrogate pair, which is no character. -/
  | loneSurrogate
deriving DecidableEq, Repr

/-- The text breaks a rule on how values are written; otherwise it only exceeds a limit. -/
def Reason.isFormal : Reason → Bool
  | .numberTooLong _ | .tooDeep | .loneSurrogate => false
  | _ => true

/-- The reason in words. -/
def Reason.message : Reason → String
  | .expectingValue => "Expecting value"
  | .expectingComma => "Expecting ',' delimiter"
  | .expectingColon => "Expecting ':' delimiter"
  | .expectingName => "Expecting property name enclosed in double quotes"
  | .extraData => "Extra data"
  | .unterminatedString => "Unterminated string starting at"
  | .controlCharacter => "Invalid control character at"
  | .unknownEscape => "Invalid \\escape"
  | .badUnicodeEscape => "Invalid \\uXXXX escape"
  | .byteOrderMark => "Unexpected UTF-8 BOM (decode using utf-8-sig)"
  | .numberTooLong digits =>
    "Exceeds the limit (" ++ toString Text.digitLimit ++
      " digits) for integer string conversion: value has " ++ toString digits ++
      " digits; use sys.set_int_max_str_digits() to increase the limit"
  | .tooDeep => "The document is nested too deep"
  | .loneSurrogate => "A string has one half of a surrogate pair"

/-- A reading that stopped, with the number of characters left at the place to blame. -/
structure Stop where
  reason : Reason
  left : Nat
deriving DecidableEq, Repr

/-- A result and the characters after it. -/
abbrev Reading (α : Type) := Except Stop (α × List Char)

/-! ### Leaves -/

/-- The white space between the parts of a value. -/
def isSpace (c : Char) : Bool :=
  c == ' ' || c == '\t' || c == '\n' || c == '\r'

/-- The text after its leading white space. -/
def skipSpace (cs : List Char) : List Char :=
  cs.dropWhile isSpace

/-- The character that a letter after a backslash stands for. -/
def escaped? (c : Char) : Option Nat :=
  [('"', 0x22), ('\\', 0x5C), ('/', 0x2F), ('b', 0x8), ('f', 0xC), ('n', 0xA), ('r', 0xD),
    ('t', 0x9)].lookup c

/-- The code units of a string, up to its closing quote. `start` is the number of characters left at
the opening quote. An escape of four digits must be followed by another character. -/
def units (start : Nat) : List Char → Reading (List Nat)
  | [] => .error ⟨.unterminatedString, start⟩
  | c :: cs =>
    if c = '"' then .ok ([], cs)
    else if c = '\\' then
      match cs with
      | [] => .error ⟨.unterminatedString, start⟩
      | e :: rest =>
        if e = 'u' then
          match rest with
          | d₁ :: d₂ :: d₃ :: d₄ :: next :: more =>
            match Text.natOfDigits? 16 [d₁, d₂, d₃, d₄] with
            | some n => (units start (next :: more)).map fun p => (n :: p.1, p.2)
            | none => .error ⟨.badUnicodeEscape, cs.length⟩
          | _ => .error ⟨.badUnicodeEscape, cs.length⟩
        else
          match escaped? e with
          | some n => (units start rest).map fun p => (n :: p.1, p.2)
          | none => .error ⟨.unknownEscape, cs.length + 1⟩
    else if c.toNat < 0x20 then .error ⟨.controlCharacter, cs.length + 1⟩
    else (units start cs).map fun p => (c.toNat :: p.1, p.2)

/-- Code units as characters: two surrogates that form a pair are one character, and one alone is
none. -/
def charsOfUnits? : List Nat → Option (List Char)
  | [] => some []
  | high :: low :: rest =>
    if 0xD800 ≤ high ∧ high < 0xDC00 ∧ 0xDC00 ≤ low ∧ low < 0xE000 then
      (charsOfUnits? rest).map
        (Char.ofNat (0x10000 + (high - 0xD800) * 0x400 + (low - 0xDC00)) :: ·)
    else if 0xD800 ≤ high ∧ high < 0xE000 then none
    else (charsOfUnits? (low :: rest)).map (Char.ofNat high :: ·)
  | [n] => if 0xD800 ≤ n ∧ n < 0xE000 then none else some [Char.ofNat n]

/-- A string, read after its opening quote. -/
def string (cs : List Char) : Reading String :=
  (units (cs.length + 1) cs).bind fun (code, rest) =>
    match charsOfUnits? code with
    | some chars => .ok (String.ofList chars, rest)
    | none => .error ⟨.loneSurrogate, cs.length + 1⟩

/-! ### Numbers -/

/-- The digits at the beginning of a text, and the rest. -/
def digits (cs : List Char) : List Char × List Char :=
  (cs.takeWhile Char.isDigit, cs.dropWhile Char.isDigit)

/-- The whole part of a number: a zero alone, or digits that do not start with one. -/
def wholePart? (cs : List Char) : Option (List Char × List Char) :=
  match cs with
  | '0' :: rest => some (['0'], rest)
  | c :: _ => if c.isDigit then some (digits cs) else none
  | [] => none

/-- The digits after a point, if there are any; otherwise the point is no part of the number. -/
def fraction (cs : List Char) : List Char × List Char :=
  match cs with
  | '.' :: rest => if (digits rest).1 = [] then ([], cs) else digits rest
  | _ => ([], cs)

/-- An exponent, if the letter is followed by digits, maybe after a sign. -/
def exponent? (cs : List Char) : Option (Int × List Char) :=
  match cs with
  | c :: rest =>
    if c = 'e' ∨ c = 'E' then
      let (negative, unsigned) :=
        match rest with
        | '-' :: more => (true, more)
        | '+' :: more => (false, more)
        | _ => (false, rest)
      let (ds, after) := digits unsigned
      let n : Int := Text.natOfDigits 10 ds
      if ds = [] then none else some (if negative then -n else n, after)
    else none
  | [] => none

/-- The number at the beginning of a text, without its sign. One with a fraction or an exponent is a
double. -/
def unsigned? (negative : Bool) (cs : List Char) : Option (Json × List Char) :=
  (wholePart? cs).map fun (whole, afterWhole) =>
    let (places, afterPlaces) := fraction afterWhole
    let n := Text.natOfDigits 10 (whole ++ places)
    match exponent? afterPlaces with
    | some (e, rest) => (.double (.ofDecimal negative n (e - places.length)), rest)
    | none =>
      if places = [] then (.int (if negative then -n else n), afterPlaces)
      else (.double (.ofDecimal negative n (-places.length)), afterPlaces)

/-- The number at the beginning of a text. -/
def number? (cs : List Char) : Option (Json × List Char) :=
  match cs with
  | '-' :: rest => unsigned? true rest
  | _ => unsigned? false cs

/-! ### Values -/

/-- The words that stand for a value. -/
def literals : List (String × Json) :=
  [("null", .null), ("true", .bool true), ("false", .bool false), ("NaN", .double .nan),
    ("Infinity", .double (.infinite false)), ("-Infinity", .double (.infinite true))]

/-- The word at the beginning of a text that stands for a value. -/
def literal? (cs : List Char) : Option (Json × List Char) :=
  literals.findSome? fun (word, value) =>
    if word.toList.isPrefixOf cs then some (value, cs.drop word.length) else none

/-- How many digits are at the beginning of a text, maybe after a minus. -/
def digitCount (cs : List Char) : Nat :=
  ((if cs.head? = some '-' then cs.drop 1 else cs).takeWhile Char.isDigit).length

/-- A word or a number at the beginning of a text. A whole number must not be too long. -/
def scalar (cs : List Char) : Reading Json :=
  match (literal? cs).or (number? cs) with
  | some (.int n, rest) =>
    if Text.digitLimit < digitCount cs then .error ⟨.numberTooLong (digitCount cs), cs.length⟩
    else .ok (.int n, rest)
  | some r => .ok r
  | none => .error ⟨.expectingValue, cs.length⟩

/-- How many lists and objects may be inside each other. -/
def depthLimit : Nat := 990

mutual

/-- The value at the beginning of a text. Of two calls in a row, the first or the second takes a
character, so twice the length of a text is fuel enough for it. At most `room` lists and objects may
be inside each other. -/
def value (fuel room : Nat) (cs : List Char) : Reading Json :=
  match fuel with
  | 0 => .error ⟨.expectingValue, cs.length⟩
  | fuel + 1 =>
    match cs, room with
    | '"' :: rest, _ => (string rest).map fun p => (.text p.1, p.2)
    | '[' :: _, 0 | '\x7b' :: _, 0 => .error ⟨.tooDeep, cs.length⟩
    | '[' :: rest, room + 1 =>
      match skipSpace rest with
      | ']' :: after => .ok (.list [], after)
      | inside => (members fuel room inside).map fun p => (.list p.1, p.2)
    | '\x7b' :: rest, room + 1 =>
      match skipSpace rest with
      | '\x7d' :: after => .ok (.object [], after)
      | inside => (fields fuel room [] inside).map fun p => (.object p.1, p.2)
    | _, _ => scalar cs

/-- The members of a list, up to its closing bracket. -/
def members (fuel room : Nat) (cs : List Char) : Reading (List Json) :=
  match fuel with
  | 0 => .error ⟨.expectingValue, cs.length⟩
  | fuel + 1 =>
    match value fuel room cs with
    | .error stop => .error stop
    | .ok (item, rest) =>
      match skipSpace rest with
      | ']' :: after => .ok ([item], after)
      | ',' :: more => (members fuel room (skipSpace more)).map fun p => (item :: p.1, p.2)
      | other => .error ⟨.expectingComma, other.length⟩

/-- The fields of an object after those read already, up to its closing brace. -/
def fields (fuel room : Nat) (done : List (String × Json)) (cs : List Char) :
    Reading (List (String × Json)) :=
  match fuel with
  | 0 => .error ⟨.expectingName, cs.length⟩
  | fuel + 1 =>
    match cs with
    | '"' :: rest =>
      match string rest with
      | .error stop => .error stop
      | .ok (key, afterKey) =>
        match skipSpace afterKey with
        | ':' :: afterColon =>
          match value fuel room (skipSpace afterColon) with
          | .error stop => .error stop
          | .ok (item, afterItem) =>
            match skipSpace afterItem with
            | '\x7d' :: after => .ok (put done key item, after)
            | ',' :: more => fields fuel room (put done key item) (skipSpace more)
            | other => .error ⟨.expectingComma, other.length⟩
        | other => .error ⟨.expectingColon, other.length⟩
    | other => .error ⟨.expectingName, other.length⟩

end

/-! ### Whole texts -/

/-- The place of a character in a text: how many come before it, its line and its column. -/
structure Place where
  offset : Nat
  line : Nat
  column : Nat
deriving DecidableEq, Repr

/-- The place after the first characters of a text; lines and columns count from one. -/
def placeAfter (before : List Char) : Place where
  offset := before.length
  line := before.count '\n' + 1
  column := (before.reverse.takeWhile (· != '\n')).length + 1

/-- Why a text is no JSON value, and where. -/
structure Unreadable where
  reason : Reason
  place : Place
deriving DecidableEq, Repr

/-- Reason and place in words. -/
def Unreadable.message (u : Unreadable) : String :=
  u.reason.message ++ ": line " ++ toString u.place.line ++ " column " ++ toString u.place.column ++
    " (char " ++ toString u.place.offset ++ ")"

/-- A stop as a place of the text. -/
def Stop.within (stop : Stop) (cs : List Char) : Unreadable where
  reason := stop.reason
  place := placeAfter (cs.take (cs.length - stop.left))

/-- The value that characters hold: all of them, except white space around it. -/
def readChars (cs : List Char) : Except Stop Json :=
  if cs.head? = some '\uFEFF' then .error ⟨.byteOrderMark, cs.length⟩
  else
    match value (2 * cs.length + 2) depthLimit (skipSpace cs) with
    | .error stop => .error stop
    | .ok (v, rest) =>
      match skipSpace rest with
      | [] => .ok v
      | extra => .error ⟨.extraData, extra.length⟩

/-- The value that a text holds. -/
def read (text : String) : Except Unreadable Json :=
  match readChars text.toList with
  | .ok v => .ok v
  | .error stop => .error (stop.within text.toList)

end ExploitReplay.Json
