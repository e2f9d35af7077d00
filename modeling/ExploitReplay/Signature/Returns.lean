import ExploitReplay.Text.Cut
import ExploitReplay.ValueType

/-!
# Returned values

The types of the returned values follow the word that holds `returns`. They are read loosely: the
clause is cut into pieces at blanks and commas, a piece that says where a value is stored belongs
to the piece before it, and whatever is then outside the catalog is dropped, the names of the
returned values among it.

## Main definitions

* `Signature.splitAtReturns ws`: the words before the returned values, and the words of the clause
* `Signature.clausePieces ws`: the pieces of a clause
* `Signature.understood t`: the type in full form, if the catalog has it
* `Signature.typesOf pieces`: the types the pieces name, in order
-/

namespace ExploitReplay.Signature

/-- The word that opens the list of returned values; it may be glued to what follows. -/
def returnsKeyword : List Char := "returns".toList

/-- The words before the first one that holds `returns`, and the words after that keyword. -/
def splitAtReturns : List (List Char) → List (List Char) × Option (List (List Char))
  | [] => ([], none)
  | w :: ws =>
    match Text.afterText? returnsKeyword w with
    | some [] => ([], some ws)
    | some glued => ([], some (glued :: ws))
    | none => let (kept, clause) := splitAtReturns ws; (w :: kept, clause)

/-- The words of a clause without its parentheses: the first from its first opening parenthesis
on, the last up to its first closing one. -/
def unparenthesized (ws : List (List Char)) : List (List Char) :=
  Text.onLast (Text.before ')') (Text.onFirst (fun w => (Text.after? '(' w).getD w) ws)

/-- The pieces of a clause: its words, cut at commas. -/
def clausePieces (ws : List (List Char)) : List String :=
  (((unparenthesized ws).flatMap (List.splitOn ',')).filter (· ≠ [])).map String.ofList

/-- The type in full form, if the catalog has it. -/
def understood (t : String) : Option String :=
  let full := ValueType.expand t
  if ValueType.isKnown full then some full else none

/-- The types that the pieces name, in order. A piece that says where a value is stored belongs to
the piece before it; what is not understood is dropped. -/
def typesOf : List String → List String
  | [] => []
  | [t] => (understood t).toList
  | t :: u :: rest =>
    if ValueType.isLocation u then (understood (t ++ " " ++ u)).toList ++ typesOf rest
    else (understood t).toList ++ typesOf (u :: rest)

/-- The types of the returned values of a clause. -/
def returnsOf (clause : Option (List (List Char))) : List String :=
  typesOf (clausePieces (clause.getD []))

theorem isKnown_of_understood {t u : String} (h : understood t = some u) :
    ValueType.isKnown u = true := by
  simp only [understood] at h
  split at h
  · obtain rfl := Option.some.inj h
    assumption
  · simp at h

/-- Every type that is read is in the catalog. -/
theorem isKnown_of_mem_typesOf {pieces : List String} {t : String} (h : t ∈ typesOf pieces) :
    ValueType.isKnown t = true := by
  fun_induction typesOf pieces with
  | case1 => simp at h
  | case2 u => exact isKnown_of_understood (by simpa using h)
  | case3 u v rest hv ih =>
    rcases List.mem_append.mp h with h | h
    · exact isKnown_of_understood (by simpa using h)
    · exact ih h
  | case4 u v rest hv ih =>
    rcases List.mem_append.mp h with h | h
    · exact isKnown_of_understood (by simpa using h)
    · exact ih h

end ExploitReplay.Signature
