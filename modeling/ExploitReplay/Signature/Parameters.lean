import ExploitReplay.Text.Blank

/-!
# Parameter lists

The parameters of a signature stand between the parenthesis that follows the name and the one that
closes it. They are separated by the commas outside all brackets.

## Main definitions

* `Signature.closing depth cs`: the text up to the parenthesis that closes `depth` open ones, and
  what follows it
* `Signature.parameterText cs`: a parameter list and what follows it; a list that is never closed
  reaches to the end
* `Signature.segments depth cs`: the text cut at the commas of depth zero
* `Signature.parametersOf cs`: the parameters of a parameter list

## Main results

* `segments_ne_nil`, `closing_append`: a text has at least one segment, and a closed list splits it
-/

namespace ExploitReplay.Signature

/-! ### The parenthesis that closes the list -/

/-- The text before the parenthesis that closes `depth + 1` open ones, and the text after it. -/
def closing : Nat → List Char → Option (List Char × List Char)
  | _, [] => none
  | depth, c :: cs =>
    if c = '(' then (closing (depth + 1) cs).map fun p => (c :: p.1, p.2)
    else if c = ')' then
      match depth with
      | 0 => some ([], cs)
      | depth + 1 => (closing depth cs).map fun p => (c :: p.1, p.2)
    else (closing depth cs).map fun p => (c :: p.1, p.2)

/-- A closed list, its parenthesis and the rest make up the text. -/
theorem closing_append {depth : Nat} {cs inside rest : List Char}
    (h : closing depth cs = some (inside, rest)) : cs = inside ++ ')' :: rest := by
  induction cs generalizing depth inside with
  | nil => simp [closing] at h
  | cons c cs ih =>
    have step : ∀ {d : Nat},
        (closing d cs).map (fun p => (c :: p.1, p.2)) = some (inside, rest) →
          c :: cs = inside ++ ')' :: rest := by
      intro d hd
      obtain ⟨⟨i, r⟩, hi, he⟩ := Option.map_eq_some_iff.mp hd
      obtain ⟨rfl, rfl⟩ := Prod.mk.inj he
      simp [ih hi]
    unfold closing at h
    split at h
    · exact step h
    · split at h
      · rename_i hc
        cases depth with
        | zero =>
          obtain ⟨rfl, rfl⟩ := Prod.mk.inj (Option.some.inj h)
          simp [hc]
        | succ d => exact step h
      · exact step h

/-- A parameter list and what follows it, read after its opening parenthesis. A list that is never
closed reaches to the end of the text. -/
def parameterText (cs : List Char) : List Char × List Char :=
  (closing 0 cs).getD (cs, [])

/-! ### The commas between parameters -/

/-- How far a character opens (`1`) or closes (`-1`) a bracket. -/
def bracketStep (c : Char) : Int :=
  if c = '(' ∨ c = '[' then 1 else if c = ')' ∨ c = ']' then -1 else 0

/-- A character in front of the first segment. -/
def consSegment (c : Char) : List (List Char) → List (List Char)
  | [] => [[c]]
  | s :: ss => (c :: s) :: ss

/-- The text cut at the commas of depth zero. Closing brackets without an opening one lead below
zero, where no comma cuts. -/
def segments : Int → List Char → List (List Char)
  | _, [] => [[]]
  | depth, c :: cs =>
    if c = ',' ∧ depth = 0 then [] :: segments depth cs
    else consSegment c (segments (depth + bracketStep c) cs)

theorem segments_ne_nil (depth : Int) (cs : List Char) : segments depth cs ≠ [] := by
  cases cs with
  | nil => simp [segments]
  | cons c cs =>
    unfold segments
    split
    · simp
    · cases segments (depth + bracketStep c) cs <;> simp [consSegment]

/-- The parameters of a parameter list: its segments without the blanks around them, the empty ones
left out. -/
def parametersOf (cs : List Char) : List (List Char) :=
  ((segments 0 cs).map Text.trimBlanks).filter (· ≠ [])

end ExploitReplay.Signature
