import ExploitReplay.Proofs.Signature.Segments

/-!
# Where a parameter list is cut

A comma separates two parameters if the text in front of it opens as many brackets as it closes,
whether or not these brackets match. Between the separators stand the segments of the list, and the
parameters are the segments without the blanks around them, as far as there is anything left of
them.

## Main definitions

* `IsSeparator text k`: the character at the position is a comma that separates two parameters
* `separators text`: the positions of these commas, in order
* `slices xs positions`: the parts of a list between some of its positions

## Main results

* `segments_eq_slices`: the segments of a text stand between its cuts
* `cutsFrom_zero`: the text of a list is cut at its separators
* `parametersOf_eq_slices`: the parameters of a list stand between its separators, and nothing but
  commas and blanks is lost
-/

namespace ExploitReplay.Signature

open Text (isBlank trimBlanks)

/-! ### Parts of a list -/

/-- The parts of a list between some of its positions, in order: each part reaches from the start of
the list, or from behind a position, up to the next position or the end of the list. -/
def slices {α : Type} (xs : List α) (positions : List Nat) : List (List α) :=
  List.zipWith (fun start stop => (xs.take stop).drop start) (0 :: positions.map (· + 1))
    (positions ++ [xs.length])

/-- Where a part ends, one member further in. -/
theorem map_append_length_cons {α : Type} (x : α) (xs : List α) (positions : List Nat) :
    positions.map (· + 1) ++ [(x :: xs).length] = (positions ++ [xs.length]).map (· + 1) := by
  simp

/-- Cut at its first position, a list has an empty part in front of the parts of the rest. -/
theorem slices_cons_zero {α : Type} (x : α) (xs : List α) (positions : List Nat) :
    slices (x :: xs) (0 :: positions.map (· + 1)) = [] :: slices xs positions := by
  rw [slices, List.cons_append, map_append_length_cons, List.zipWith_cons_cons, List.zipWith_map]
  rfl

/-- Not cut at its first position, a list has its first member in its first part. -/
theorem slices_cons (c : Char) (cs : List Char) (positions : List Nat) :
    slices (c :: cs) (positions.map (· + 1)) = consSegment c (slices cs positions) := by
  have hstops := List.append_ne_nil_of_right_ne_nil positions (List.cons_ne_nil cs.length [])
  obtain ⟨stop, stops, hstop⟩ := List.exists_cons_of_ne_nil hstops
  rw [slices, slices, map_append_length_cons, hstop, List.map_cons, List.zipWith_cons_cons,
    List.zipWith_map, List.zipWith_cons_cons]
  rfl

/-! ### The cuts of a text -/

/-- The positions at which a text is cut where it starts at the depth. -/
def cutsFrom (depth : Int) (cs : List Char) : List Nat :=
  (List.range cs.length).filter fun k => cs[k]? = some ',' ∧ depth + bracketDepth (cs.take k) = 0

/-- The cuts of a text are its first character, if it cuts, and the cuts of the rest. -/
theorem cutsFrom_cons (depth : Int) (c : Char) (cs : List Char) :
    cutsFrom depth (c :: cs) =
      (if c = ',' ∧ depth = 0 then [0] else []) ++
        (cutsFrom (depth + bracketStep c) cs).map (· + 1) := by
  have hlater : (List.range cs.length).filter ((fun k => decide ((c :: cs)[k]? = some ',' ∧
      depth + bracketDepth ((c :: cs).take k) = 0)) ∘ Nat.succ) =
        cutsFrom (depth + bracketStep c) cs := by
    refine List.filter_congr fun k _ => decide_eq_decide.mpr ?_
    simp [Int.add_assoc]
  rw [cutsFrom, List.length_cons, List.range_succ_eq_map, List.filter_cons, List.filter_map, hlater]
  by_cases hcut : c = ',' ∧ depth = 0
  · simp [hcut]
  · simp [hcut]

/-- **The segments of a text stand between its cuts.** -/
theorem segments_eq_slices (depth : Int) (cs : List Char) :
    segments depth cs = slices cs (cutsFrom depth cs) := by
  -- on the text: of the text in front of a position only the depth that it leads to matters
  induction cs generalizing depth with
  | nil => rfl
  | cons c cs ih =>
    rw [segments, cutsFrom_cons]
    split
    · rename_i hcut
      obtain ⟨rfl, rfl⟩ := hcut
      rw [ih, List.singleton_append, slices_cons_zero]
      rfl
    · rw [ih, List.nil_append, slices_cons]

/-! ### Separators -/

/-- The character at the position is a comma, and the text in front of it opens as many brackets as
it closes. -/
structure IsSeparator (text : List Char) (k : Nat) : Prop where
  comma : text[k]? = some ','
  outside : (text.take k).count '(' + (text.take k).count '[' =
    (text.take k).count ')' + (text.take k).count ']'

instance (text : List Char) : DecidablePred (IsSeparator text) := fun k =>
  decidable_of_iff (text[k]? = some ',' ∧ (text.take k).count '(' + (text.take k).count '[' =
      (text.take k).count ')' + (text.take k).count ']')
    ⟨fun h => ⟨h.1, h.2⟩, fun h => ⟨h.1, h.2⟩⟩

/-- The positions of the commas that separate two parameters, in order. -/
def separators (text : List Char) : List Nat :=
  (List.range text.length).filter (IsSeparator text)

/-- The depth counts the opening brackets against the closing ones. -/
theorem bracketDepth_eq_count (cs : List Char) :
    bracketDepth cs = (cs.count '(' + cs.count '[' : Int) - (cs.count ')' + cs.count ']') := by
  induction cs with
  | nil => rfl
  | cons c cs ih =>
    rw [bracketDepth_cons, ih, bracketStep]
    simp only [List.count_cons, beq_iff_eq]
    split
    · rename_i hopen
      rcases hopen with rfl | rfl <;> simp <;> omega
    · rename_i hopen
      split
      · rename_i hclose
        rcases hclose with rfl | rfl <;> simp <;> omega
      · rename_i hclose
        rw [not_or] at hopen hclose
        simp [hopen, hclose]

/-- **The text of a list is cut at its separators.** -/
theorem cutsFrom_zero (text : List Char) : cutsFrom 0 text = separators text := by
  refine List.filter_congr fun k _ => ?_
  rw [decide_eq_decide, bracketDepth_eq_count]
  constructor
  · rintro ⟨hcomma, hdepth⟩
    exact ⟨hcomma, by omega⟩
  · rintro ⟨hcomma, houtside⟩
    exact ⟨hcomma, by omega⟩

/-- The characters of a text but its commas and blanks. -/
def content (cs : List Char) : List Char :=
  cs.filter fun c => c ≠ ',' ∧ isBlank c = false

/-- **The parameters of a list stand between its separators**, without the blanks around them, the
empty ones left out. So nothing but commas and blanks is lost, and what is kept stays in its order,
whether or not the brackets match. -/
theorem parametersOf_eq_slices (text : List Char) :
    parametersOf text = ((slices text (separators text)).map trimBlanks).filter (· ≠ []) ∧
      content (parametersOf text).flatten = content text := by
  constructor
  · rw [parametersOf, segments_eq_slices, cutsFrom_zero]
  · rw [content, List.filter_flatten, ← List.flatMap_def]
    exact filter_parametersOf (by decide) (fun c hc => by simp [hc]) text

/-- A bracket that is closed before it is opened hides the comma behind it, and so does one that is
never closed. -/
example : parametersOf "uint a, b], c[ , (d, e)f, ,g[, h".toList =
    ["uint a", "b], c[", "(d, e)f", "g[, h"].map String.toList := by
  decide +kernel

end ExploitReplay.Signature
