import ExploitReplay.Decimal.Shortest
import ExploitReplay.Text.Quoted

/-!
# JSON values

A document as it was written: whole numbers keep all their digits and stay apart from doubles, and
the fields of an object keep their order.

## Main definitions

* `Json`: a value
* `Json.put fields key value`: the fields with one more; a key that is there already keeps its place
* `Json.field? fields key`: the value of a field
* `Json.isVacant v`: the value counts as not filled in
* `Json.display v`: the text that stands for a value where a text is wanted
* `Json.listing v`: the value inside a list, an object or a message

## Main results

* `field?_put_self`, `field?_put_of_ne`: what a field holds after a `put`
-/

namespace ExploitReplay

/-- A JSON value. -/
inductive Json where
  | null
  | bool (value : Bool)
  | int (value : Int)
  | double (value : Double)
  | text (value : String)
  | list (items : List Json)
  | object (fields : List (String × Json))
deriving Repr, Inhabited

namespace Json

/-! ### Fields -/

/-- The value of a field. -/
def field? (fields : List (String × Json)) (key : String) : Option Json :=
  fields.lookup key

/-- The object has the field. -/
def hasField (fields : List (String × Json)) (key : String) : Bool :=
  (field? fields key).isSome

/-- The fields with one more: a key that is there already keeps its place and gets the new value, a
new one comes last. -/
def put : List (String × Json) → String → Json → List (String × Json)
  | [], key, value => [(key, value)]
  | (k, v) :: rest, key, value =>
    if k = key then (k, value) :: rest else (k, v) :: put rest key value

@[simp] theorem field?_nil (key : String) : field? [] key = none := rfl

theorem field?_cons (k : String) (v : Json) (rest : List (String × Json)) (key : String) :
    field? ((k, v) :: rest) key = if key = k then some v else field? rest key := by
  by_cases h : key = k
  · simp [field?, h]
  · have : (key == k) = false := by simpa using h
    simp [field?, List.lookup_cons, this, h]

@[simp] theorem field?_put_self (fields : List (String × Json)) (key : String) (value : Json) :
    field? (put fields key value) key = some value := by
  induction fields with
  | nil => simp [put, field?_cons]
  | cons p rest ih =>
    obtain ⟨k, v⟩ := p
    by_cases h : k = key
    · simp [put, field?_cons, h]
    · simp [put, field?_cons, h, Ne.symm h, ih]

theorem field?_put_of_ne (fields : List (String × Json)) {key other : String} (value : Json)
    (h : other ≠ key) : field? (put fields key value) other = field? fields other := by
  induction fields with
  | nil => simp [put, field?_cons, h]
  | cons p rest ih =>
    obtain ⟨k, v⟩ := p
    by_cases hk : k = key
    · simp [put, field?_cons, hk, h]
    · simp [put, field?_cons, hk, ih]

/-! ### Vacant values -/

/-- The value counts as not filled in: null, false, a zero, and everything empty. -/
def isVacant : Json → Bool
  | .null => true
  | .bool b => !b
  | .int n => n == 0
  | .double d => d.isZero
  | .text s => s == ""
  | .list items => items.isEmpty
  | .object fields => fields.isEmpty

@[simp] theorem isVacant_null : isVacant .null = true := rfl

@[simp] theorem isVacant_text (s : String) : isVacant (.text s) = (s == "") := rfl

/-! ### Values as text -/

/-- The listings of several values, separated by a comma and a space. -/
def commaSeparated (items : List String) : String :=
  ", ".intercalate items

mutual

/-- The value inside a list, an object or a message, where texts are quoted. -/
def listing : Json → String
  | .null => "None"
  | .bool b => if b then "True" else "False"
  | .int n => toString n
  | .double d => d.text
  | .text s => Text.quoted s
  | .list items => "[" ++ commaSeparated (listings items) ++ "]"
  | .object fields => "\x7b" ++ commaSeparated (fieldListings fields) ++ "\x7d"

/-- The listings of the members of a list. -/
def listings : List Json → List String
  | [] => []
  | v :: rest => listing v :: listings rest

/-- The listings of the fields of an object. -/
def fieldListings : List (String × Json) → List String
  | [] => []
  | (k, v) :: rest => (Text.quoted k ++ ": " ++ listing v) :: fieldListings rest

end

/-- The text that stands for a value where a text is wanted: a text stands for itself, any other
value for its listing. -/
def display : Json → String
  | .text s => s
  | v => listing v

@[simp] theorem display_text (s : String) : display (.text s) = s := rfl

@[simp] theorem display_int (n : Int) : display (.int n) = toString n := by
  simp [display, listing]

@[simp] theorem display_bool (b : Bool) : display (.bool b) = if b then "True" else "False" := by
  simp [display, listing]

@[simp] theorem display_null : display .null = "None" := by
  simp [display, listing]

end Json

end ExploitReplay
