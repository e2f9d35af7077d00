import ExploitReplay.Text.Digits
import ExploitReplay.Yaml.Token

/-!
# Dates and times

A moment is a day, maybe with a time of the day, which maybe is that of a place some minutes east of
the meridian of Greenwich.

## Main definitions

* `Moment`, `Moment.Clock`: a day, and a time of the day
* `Moment.ofChars cs`: the moment that is written
* `Moment.text`, `Moment.listing`: the moment in figures, and part by part
* `Moment.same`: two moments are the same

## Main results

* `Moment.same_refl`: a moment is the same as itself
-/

namespace ExploitReplay

/-- A time of the day, maybe with the minutes that its place is ahead of Greenwich. -/
structure Moment.Clock where
  hour : Nat
  minute : Nat
  second : Nat
  microsecond : Nat := 0
  offset : Option Int := none
deriving DecidableEq, Repr

/-- A day, maybe with a time. -/
structure Moment where
  year : Nat
  month : Nat
  day : Nat
  clock : Option Moment.Clock := none
deriving DecidableEq, Repr

namespace Moment

open Yaml (Fault)

/-! ### The calendar -/

/-- How many days a month has. -/
def daysInMonth (year month : Nat) : Nat :=
  if month = 2 then
    if year % 4 = 0 ∧ (year % 100 ≠ 0 ∨ year % 400 = 0) then 29 else 28
  else if [4, 6, 9, 11].contains month then 30
  else 31

/-- How many minutes a day has. -/
def minutesInDay : Nat := 1440

/-- The time is one of a day, of a place less than a day away. -/
def Clock.isPossible (c : Clock) : Bool :=
  c.hour < 24 && c.minute < 60 && c.second < 60 &&
    c.offset.all (fun o => o.natAbs < minutesInDay)

/-- The day is in the calendar, and the time is one of a day. -/
def isPossible (m : Moment) : Bool :=
  1 ≤ m.year && 1 ≤ m.month && m.month ≤ 12 && 1 ≤ m.day && m.day ≤ daysInMonth m.year m.month &&
    m.clock.all Clock.isPossible

/-! ### Reading -/

/-- A number of at least `least` and at most `most` digits, as many as there are, and the rest. -/
def number? (least most : Nat) (cs : List Char) : Option (Nat × List Char) :=
  let ds := (cs.take most).takeWhile Char.isDigit
  if ds.length < least then none else some (Text.natOfDigits 10 ds, cs.drop ds.length)

/-- The rest after a character that must come next. -/
def after? (mark : Char) : List Char → Option (List Char)
  | c :: cs => if c = mark then some cs else none
  | [] => none

/-- The text without blanks in front. -/
def dropBlanks (cs : List Char) : List Char :=
  cs.dropWhile fun c => c == ' ' || c == '\t'

/-- Microseconds from the digits of a fraction; digits after the sixth do not count. -/
def microseconds (ds : List Char) : Nat :=
  let shown := ds.take 6
  Text.natOfDigits 10 (shown ++ List.replicate (6 - shown.length) '0')

/-- The digits after a point, if there is one, and the rest. -/
def fraction : List Char → List Char × List Char
  | '.' :: cs => (cs.takeWhile Char.isDigit, cs.dropWhile Char.isDigit)
  | cs => ([], cs)

/-- The minutes of an offset after its sign: hours, and maybe minutes. -/
def offsetMinutes? (cs : List Char) : Option Nat :=
  (number? 1 2 cs).bind fun (hours, cs) =>
    if cs = [] then some (60 * hours)
    else
      (after? ':' cs).bind fun cs => (number? 2 2 cs).bind fun (minutes, cs) =>
        if cs = [] then some (60 * hours + minutes) else none

/-- An offset, which nothing follows; there may be none. -/
def offset? (cs : List Char) : Option (Option Int) :=
  match dropBlanks cs with
  | ['Z'] => some (some 0)
  | '+' :: rest => (offsetMinutes? rest).map fun n => some n
  | '-' :: rest => (offsetMinutes? rest).map fun n => some (-n)
  | _ => if cs = [] then some none else none

/-- A time of the day, which nothing follows. -/
def clock? (cs : List Char) : Option Clock :=
  (number? 1 2 cs).bind fun (hour, cs) =>
    (after? ':' cs).bind fun cs => (number? 2 2 cs).bind fun (minute, cs) =>
      (after? ':' cs).bind fun cs => (number? 2 2 cs).bind fun (second, cs) =>
        let (places, cs) := fraction cs
        (offset? cs).map fun offset =>
          { hour, minute, second, microsecond := microseconds places, offset }

/-- The text after the mark between a day and a time: the letter for it, or blanks. -/
def afterDay? : List Char → Option (List Char)
  | c :: cs =>
    if c = 'T' ∨ c = 't' then some cs
    else if c = ' ' ∨ c = '\t' then some (dropBlanks cs)
    else none
  | [] => none

/-- What is written as a moment, be it possible or not: a year of four digits, a month and a day
with dashes between them, and maybe a time. -/
def written? (cs : List Char) : Option Moment :=
  (number? 4 4 cs).bind fun (year, cs) =>
    (after? '-' cs).bind fun cs => (number? 1 2 cs).bind fun (month, cs) =>
      (after? '-' cs).bind fun cs => (number? 1 2 cs).bind fun (day, cs) =>
        if cs = [] then some { year, month, day }
        else ((afterDay? cs).bind clock?).map fun c => { year, month, day, clock := some c }

/-- The text is taken for a moment without being told: a day alone then has all its digits. -/
def isWritten (cs : List Char) : Bool :=
  (written? cs).any fun m => m.clock.isSome || cs.length == 10

/-- The moment that is written. -/
def ofChars (cs : List Char) : Except Fault Moment :=
  match written? cs with
  | none => .error .notMoment
  | some m => if m.isPossible then .ok m else .error .impossibleValue

/-! ### Writing -/

/-- A number with leading zeros. -/
def figures (width n : Nat) : String :=
  let s := toString n
  String.ofList (List.replicate (width - s.length) '0') ++ s

/-- An offset in figures. -/
def offsetText (minutes : Int) : String :=
  (if minutes < 0 then "-" else "+") ++ figures 2 (minutes.natAbs / 60) ++ ":" ++
    figures 2 (minutes.natAbs % 60)

/-- A time in figures; microseconds only if there are any. -/
def Clock.text (c : Clock) : String :=
  figures 2 c.hour ++ ":" ++ figures 2 c.minute ++ ":" ++ figures 2 c.second ++
    (if c.microsecond = 0 then "" else "." ++ figures 6 c.microsecond) ++
    (c.offset.map offsetText).getD ""

/-- The moment in figures. -/
def text (m : Moment) : String :=
  figures 4 m.year ++ "-" ++ figures 2 m.month ++ "-" ++ figures 2 m.day ++
    (m.clock.map fun c => " " ++ c.text).getD ""

/-- How an offset is listed: in whole days and seconds, the seconds not below zero. -/
def offsetListing (minutes : Int) : String :=
  if minutes = 0 then "datetime.timezone.utc"
  else
    let span :=
      if minutes < 0 then "days=-1, seconds=" ++ toString (60 * (minutes + minutesInDay))
      else "seconds=" ++ toString (60 * minutes)
    "datetime.timezone(datetime.timedelta(" ++ span ++ "))"

/-- The parts of a time in a listing: seconds and microseconds only as far as needed. -/
def Clock.parts (c : Clock) : List String :=
  [toString c.hour, toString c.minute] ++
    (if c.second = 0 ∧ c.microsecond = 0 then []
      else toString c.second :: if c.microsecond = 0 then [] else [toString c.microsecond]) ++
    (c.offset.map fun o => "tzinfo=" ++ offsetListing o).toList

/-- The moment part by part. -/
def listing (m : Moment) : String :=
  let day := [toString m.year, toString m.month, toString m.day]
  match m.clock with
  | none => "datetime.date(" ++ String.intercalate ", " day ++ ")"
  | some c => "datetime.datetime(" ++ String.intercalate ", " (day ++ c.parts) ++ ")"

/-! ### Comparing -/

/-- The days before a year, counted from the year one. -/
def daysBeforeYear (year : Nat) : Nat :=
  let y := year - 1
  365 * y + y / 4 - y / 100 + y / 400

/-- The days before a month of its year. -/
def daysBeforeMonth (year month : Nat) : Nat :=
  ((List.range' 1 (month - 1)).map (daysInMonth year)).foldl (· + ·) 0

/-- The microseconds from the first day of the year one in Greenwich, where the place of the time
is known. -/
def instant? (m : Moment) : Option Int :=
  m.clock.bind fun c => c.offset.map fun o =>
    let days := daysBeforeYear m.year + daysBeforeMonth m.year m.month + (m.day - 1)
    let minutes : Int := minutesInDay * days + 60 * c.hour + c.minute - o
    1000000 * (60 * minutes + c.second) + c.microsecond

/-- Two moments are the same: times of known places are compared in Greenwich, and others as they
stand. -/
def same (a b : Moment) : Bool :=
  match a.instant?, b.instant? with
  | some x, some y => x == y
  | none, none => a == b
  | _, _ => false

/-- A moment is the same as itself. -/
@[simp] theorem same_refl (m : Moment) : same m m = true := by
  unfold same
  cases m.instant? <;> simp

end Moment

end ExploitReplay
