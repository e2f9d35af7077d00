import ExploitReplay.Proofs.Signature.Division

/-!
# Clauses without commas

The clause of the returned values starts behind the first word with the keyword. It is read piece by
piece, as a piece that says where a value is stored belongs to the one in front of it. In a clause
without commas every word is one piece, and without such a place every piece is a type of its own.
So the types that are read are the words themselves, as far as they are understood.

## Main definitions

* `HasClause text ws`: the words of the clause, the one that touches the keyword among them
* `bareWords ws`: the same without the parentheses around them

## Main results

* `typesOf_of_forall_not_location`: pieces that say nothing about places are read one by one
* `map_unparenthesized`: the parentheses fall away from the first word and the last one
* `returns_of_hasClause`: what is returned by a signature whose clause has no commas
-/

namespace ExploitReplay.Signature

open Text (after? afterText? before onFirst onLast words)

/-- The text has a clause of returned values: behind its parameter list there is a word with the
keyword. The words of the clause are what this one has behind the keyword, if anything, and all
words behind it. -/
inductive HasClause (text : String) : List (List Char) → Prop
  | clause {front list tail : List Char} {modifiers behind : List (List Char)} {w glued : List Char}
      (divides : DividesAt text front list tail) (words_tail : words tail = modifiers ++ w :: behind)
      (first : ∀ m ∈ modifiers, ¬returnsKeyword <:+: m)
      (keyword : afterText? returnsKeyword w = some glued) :
      HasClause text ((if glued = [] then [] else [glued]) ++ behind)

/-- The words of a clause without the parentheses around them: the first one from behind its first
opening parenthesis on, the last one up to its first closing one. A single word is both. -/
def bareWords (ws : List (List Char)) : List String :=
  ws.mapIdx fun i w =>
    let opened := if i = 0 then (after? '(' w).getD w else w
    String.ofList (if i + 1 = ws.length then before ')' opened else opened)

/-- The types of a clause are read of its words. -/
theorem HasClause.returns_eq {text : String} {s : Signature} {ws : List (List Char)}
    (hclause : HasClause text ws) (h : parse (some text) = .ok s) :
    s.returns = returnsOf (some ws) := by
  obtain ⟨-, -, rfl⟩ := parse_eq_ok_iff.mp h
  cases hclause with
  | clause divides words_tail first keyword =>
    obtain ⟨inside, hdivision, -, -⟩ := divides.exists_division
    rw [divided, hdivision]
    simp only [Text.words_singleSpaced, words_tail, splitAtReturns_append first,
      splitAtReturns_of_afterText? keyword]

/-- The word that opens the clause, if there is one, and what it has behind the keyword. -/
theorem splitAtReturns_snd_cases (ws : List (List Char)) :
    (splitAtReturns ws).2 = none ∨
      ∃ modifiers w behind glued, ws = modifiers ++ w :: behind ∧
        (∀ m ∈ modifiers, ¬returnsKeyword <:+: m) ∧ afterText? returnsKeyword w = some glued := by
  induction ws with
  | nil => exact .inl rfl
  | cons w ws ih =>
    cases hafter : afterText? returnsKeyword w with
    | some glued => exact .inr ⟨[], w, ws, glued, rfl, by simp, hafter⟩
    | none =>
      have hw : ¬returnsKeyword <:+: w := (Text.afterText?_eq_none_iff (by decide)).mp hafter
      rcases ih with hnone | ⟨modifiers, v, behind, glued, rfl, hmodifiers, hv⟩
      · exact .inl (by rw [splitAtReturns, hafter]; exact hnone)
      · exact .inr ⟨w :: modifiers, v, behind, glued, rfl, by simpa [hw] using hmodifiers, hv⟩

/-- A signature without a clause returns nothing. -/
theorem returns_eq_nil_of_forall_not_hasClause {text : String} {s : Signature}
    (h : parse (some text) = .ok s) (hnone : ∀ ws, ¬HasClause text ws) : s.returns = [] := by
  obtain ⟨-, -, hs⟩ := parse_eq_ok_iff.mp h
  rw [hs, divided]
  rcases splitAtReturns_snd_cases (words (division text).2) with
    hsnd | ⟨modifiers, w, behind, glued, hwords, hmodifiers, hglued⟩
  · rw [hsnd, returnsOf_none]
  · -- a word with the keyword stands behind a list that is closed, so it opens a clause
    exfalso
    rcases listCloses_or_division text with ⟨front, list, tail, hdivides⟩ | hempty
    · obtain ⟨inside, hdivision, -, -⟩ := hdivides.exists_division
      rw [hdivision, Text.words_singleSpaced] at hwords
      exact hnone _ (.clause hdivides hwords hmodifiers hglued)
    · rw [hempty, Text.words_nil] at hwords
      exact absurd hwords.symm (List.append_ne_nil_of_right_ne_nil _ (List.cons_ne_nil w behind))

/-! ### Words and pieces -/

theorem onFirst_eq_mapIdx {α : Type} (f : α → α) (xs : List α) :
    onFirst f xs = xs.mapIdx fun i x => if i = 0 then f x else x := by
  cases xs with
  | nil => rfl
  | cons x xs =>
    have hrest : xs.mapIdx (fun _ y => y) = xs := List.ext_getElem? fun i => by simp
    simp [onFirst, List.mapIdx_cons, hrest]

theorem onLast_eq_mapIdx {α : Type} (f : α → α) (xs : List α) :
    onLast f xs = xs.mapIdx fun i x => if i + 1 = xs.length then f x else x := by
  fun_induction onLast f xs with
  | case1 => rfl
  | case2 x => simp
  | case3 x y ys ih => simp [List.mapIdx_cons, ih]

/-- **The parentheses fall away** from the first word and the last one. -/
theorem map_unparenthesized (ws : List (List Char)) :
    (unparenthesized ws).map String.ofList = bareWords ws := by
  rw [unparenthesized, onLast_eq_mapIdx, Text.length_onFirst, onFirst_eq_mapIdx, List.mapIdx_mapIdx,
    bareWords]
  refine List.ext_getElem? fun i => ?_
  rw [List.getElem?_map, List.getElem?_mapIdx, List.getElem?_mapIdx, Option.map_map]
  rfl

/-- What is left of a word without a parenthesis and all in front of it, or behind it. -/
theorem subset_of_opened (w : List Char) : (after? '(' w).getD w ⊆ w := by
  cases hafter : after? '(' w with
  | none => exact List.Subset.refl w
  | some rest =>
    intro c hc
    rw [← Text.before_append_after hafter]
    exact List.mem_append_right _ (List.mem_cons_of_mem _ hc)

/-- Without the parentheses a clause has no new characters. -/
theorem exists_of_mem_unparenthesized {ws : List (List Char)} {w : List Char}
    (h : w ∈ unparenthesized ws) : ∃ v ∈ ws, w ⊆ v := by
  have hopened : ∀ u ∈ onFirst (fun w => (after? '(' w).getD w) ws, ∃ v ∈ ws, u ⊆ v := by
    intro u hu
    rcases Text.mem_onFirst hu with hu | ⟨v, hv, rfl⟩
    · exact ⟨u, hu, List.Subset.refl u⟩
    · exact ⟨v, hv, subset_of_opened v⟩
  rcases Text.mem_onLast h with hw | ⟨u, hu, rfl⟩
  · exact hopened w hw
  · obtain ⟨v, hv, hsub⟩ := hopened u hu
    exact ⟨v, hv, fun c hc => hsub ((List.takeWhile_prefix _).subset hc)⟩

/-- Without commas every word is one piece, unless it is empty. -/
theorem commaPieces_of_forall_not_mem {ws : List (List Char)} (h : ∀ w ∈ ws, ',' ∉ w) :
    commaPieces ws = ws.filter (· ≠ []) := by
  have hwhole : ws.flatMap (List.splitOn ',') = ws := by
    rw [List.flatMap_congr fun w hw => List.splitOn_eq_singleton (h w hw)]
    simp
  rw [commaPieces, hwhole]

/-- **The pieces of a clause without commas** are its words, without the parentheses around them. -/
theorem clausePieces_of_forall_not_mem {ws : List (List Char)} (h : ∀ w ∈ ws, ',' ∉ w) :
    clausePieces ws = (bareWords ws).filter (· ≠ "") := by
  have hbare : ∀ w ∈ unparenthesized ws, ',' ∉ w := by
    intro w hw hc
    obtain ⟨v, hv, hsub⟩ := exists_of_mem_unparenthesized hw
    exact h v hv (hsub hc)
  have hcommas := commaPieces_of_forall_not_mem hbare
  rw [commaPieces] at hcommas
  rw [clausePieces, hcommas, ← map_unparenthesized, List.filter_map]
  congr 1
  refine List.filter_congr fun w _ => ?_
  simp

/-- **Pieces that say nothing about places** are read one by one. -/
theorem typesOf_of_forall_not_location {pieces : List String}
    (h : ∀ p ∈ pieces, ValueType.isLocation p = false) :
    typesOf pieces = (pieces.map ValueType.expand).filter ValueType.isKnown := by
  induction pieces with
  | nil => simp [typesOf]
  | cons p ps ih =>
    have hps : ∀ q ∈ ps, ValueType.isLocation q = false := fun q hq =>
      h q (List.mem_cons_of_mem _ hq)
    have hanew : StartsAnew ps := fun u hu => hps u (List.mem_of_head? hu)
    rw [typesOf_cons hanew, ih hps, List.map_cons, List.filter_cons, understood]
    split
    · rfl
    · rfl

/-- **What is returned by a signature whose clause has no commas**: its words, in their order and in
full form, as far as they are understood. A signature without a clause returns nothing. -/
theorem returns_of_hasClause {text : String} {s : Signature} (h : parse (some text) = .ok s) :
    ((∀ ws, ¬HasClause text ws) → s.returns = []) ∧
      ∀ ws, HasClause text ws → (∀ w ∈ ws, ',' ∉ w) →
        (∀ t ∈ bareWords ws, ValueType.isLocation t = false) →
        s.returns =
          (((bareWords ws).filter (· ≠ "")).map ValueType.expand).filter ValueType.isKnown := by
  refine ⟨returns_eq_nil_of_forall_not_hasClause h, fun ws hclause hcomma hplace => ?_⟩
  have hpieces := clausePieces_of_forall_not_mem hcomma
  have hplaces : ∀ p ∈ clausePieces ws, ValueType.isLocation p = false := by
    intro p hp
    rw [hpieces] at hp
    exact hplace p (List.mem_filter.mp hp).1
  rw [hclause.returns_eq h, returnsOf, Option.getD_some, typesOf_of_forall_not_location hplaces,
    hpieces]

/-- The clause touches its keyword, one of its words is not understood because of its parentheses,
and the last one is empty without them. -/
def gluedText : String :=
  "f(a, b) view returns(int note (bytes) bytes32 )"

def gluedWords : List (List Char) :=
  ["(int", "note", "(bytes)", "bytes32", ")"].map String.toList

theorem returns_of_hasClause_gluedText :
    HasClause gluedText gluedWords ∧ (∀ w ∈ gluedWords, ',' ∉ w) ∧
      (∀ t ∈ bareWords gluedWords, ValueType.isLocation t = false) ∧
      ∃ s, parse (some gluedText) = .ok s ∧ s.returns = ["int256", "bytes32"] := by
  have hdivides : DividesAt gluedText "f".toList "a, b".toList
      " view returns(int note (bytes) bytes32 )".toList := ⟨by decide, by decide, by decide⟩
  have hwords : words " view returns(int note (bytes) bytes32 )".toList =
      ["view".toList] ++ "returns(int".toList :: gluedWords.tail := by decide +kernel
  have hkeyword : afterText? returnsKeyword "returns(int".toList = some "(int".toList := by decide
  have hclause : HasClause gluedText gluedWords :=
    .clause hdivides hwords (by decide) hkeyword
  have hcomma : ∀ w ∈ gluedWords, ',' ∉ w := by decide
  have hplace : ∀ t ∈ bareWords gluedWords, ValueType.isLocation t = false := by decide +kernel
  have hs : parse (some gluedText) = .ok (divided gluedText) :=
    parse_eq_ok_iff.mpr ⟨by decide +kernel, by decide +kernel, rfl⟩
  refine ⟨hclause, hcomma, hplace, _, hs, ?_⟩
  rw [(returns_of_hasClause hs).2 gluedWords hclause hcomma hplace]
  decide +kernel

end ExploitReplay.Signature
