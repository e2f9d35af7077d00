import ExploitReplay.Proofs.Signature.Division
import ExploitReplay.Proofs.Signature.Returns

/-!
# Reading by positions

A reader that goes by positions looks up words, characters and pieces, and each look-up may miss:
the word at an index, the first parenthesis of a text, the text behind the keyword, the first and
the last word of the clause. None of them ever does. What such a reader gives is what is read of the
text, and the only texts it refuses are those with one of the two defects, whether or not a list is
closed or a clause is complete.

## Main definitions

* `lookUp place xs i`: the member of a list at a position, which may be out of range
* `parseByPositions text`: the signature of a text, read by positions
* `HasDefect text d`: the text has the defect

## Main results

* `closingPosition_eq`: scanning finds the parenthesis that closes the list
* `typesFrom_eq`: the pieces from a position on are read as their types
* `parseByPositions_eq`: reading by positions never misses
* `parse_eq_error_iff_hasDefect`: the texts that are no signatures
-/

namespace ExploitReplay.Signature

open Text (after? afterText? before onFirst onLast unwords words)

/-! ### Look-ups -/

/-- The places that are looked up while a signature is read. -/
inductive Place where
  | firstWord
  | nameWord
  | openingParenthesis
  | character
  | clauseWord
  | behindKeyword
  | firstTypeWord
  | lastTypeWord
  | piece
deriving DecidableEq, Repr

/-- Why there is no signature: the text is none, or a position is out of range. -/
inductive Fault where
  | malformed (m : Malformed)
  | outOfRange (place : Place)
deriving DecidableEq, Repr

/-- The member of a list at a position. -/
def lookUp {α : Type} (place : Place) (xs : List α) (i : Nat) : Except Fault α :=
  match xs[i]? with
  | some x => .ok x
  | none => .error (.outOfRange place)

/-- The list with the member at a position changed. -/
def change {α : Type} (place : Place) (i : Nat) (f : α → α) (xs : List α) :
    Except Fault (List α) :=
  (lookUp place xs i).map fun x => xs.set i (f x)

/-- The position of the first `d`. -/
def indexOf (place : Place) (d : Char) (cs : List Char) : Except Fault Nat :=
  match cs.findIdx? (· == d) with
  | some i => .ok i
  | none => .error (.outOfRange place)

/-- The text behind the first occurrence of a key. -/
def textBehind (place : Place) (key w : List Char) : Except Fault (List Char) :=
  match afterText? key w with
  | some rest => .ok rest
  | none => .error (.outOfRange place)

variable {α : Type} {place : Place}

theorem lookUp_eq {xs : List α} {i : Nat} {x : α} (h : xs[i]? = some x) :
    lookUp place xs i = .ok x := by
  rw [lookUp, h]

/-- The first member of what is left from a position on. -/
theorem lookUp_of_drop (place : Place) {xs rest : List α} {i : Nat} {x : α}
    (h : xs.drop i = x :: rest) :
    lookUp place xs i = .ok x ∧ xs.drop (i + 1) = rest ∧ xs.length = i + 1 + rest.length := by
  have hx : xs[i]? = some x := by
    rw [← List.head?_drop, h]
    rfl
  have hlength := congrArg List.length h
  rw [List.length_drop, List.length_cons] at hlength
  refine ⟨lookUp_eq hx, ?_, by omega⟩
  rw [← List.tail_drop, h]
  rfl

theorem change_first (f : α → α) {xs : List α} (h : xs ≠ []) :
    change place 0 f xs = .ok (onFirst f xs) := by
  obtain ⟨x, xs, rfl⟩ := List.exists_cons_of_ne_nil h
  rfl

theorem change_last (f : α → α) {xs : List α} (h : xs ≠ []) :
    change place (xs.length - 1) f xs = .ok (onLast f xs) := by
  obtain ⟨ys, y, rfl⟩ := (List.eq_nil_or_concat' xs).resolve_left h
  have hlast : (ys ++ [y])[(ys ++ [y]).length - 1]? = some y := by simp
  rw [change, lookUp_eq hlast, Except.map, Text.onLast_append_singleton]
  simp

theorem indexOf_eq {d : Char} {cs rest : List Char} (h : after? d cs = some rest) :
    indexOf place d cs = .ok (before d cs).length := by
  have hfind : cs.findIdx? (· == d) = some (before d cs).length := by
    have hnone : (before d cs).findIdx? (· == d) = none := by
      rw [List.findIdx?_eq_none_iff]
      intro c hc
      simpa using List.mem_takeWhile_imp hc
    conv_lhs => rw [← Text.before_append_after h]
    rw [List.findIdx?_append, hnone, List.findIdx?_cons]
    simp
  rw [indexOf, hfind]

/-! ### The parameter list -/

/-- The position, among those given, of the parenthesis that closes the list. -/
def closingPosition (cs : List Char) : List Nat → Int → Except Fault (Option Nat)
  | [], _ => .ok none
  | p :: ps, depth =>
    (lookUp .character cs p).bind fun c =>
      if c = '(' then closingPosition cs ps (depth + 1)
      else if c = ')' then
        if depth - 1 = 0 then .ok (some p) else closingPosition cs ps (depth - 1)
      else closingPosition cs ps depth

/-- The text of the parameter list, and what stands behind it. -/
def divideByPositions (body : List Char) : Except Fault (List Char × List Char) :=
  (indexOf .openingParenthesis '(' body).bind fun openAt =>
    (closingPosition body (List.range' openAt (body.length - openAt)) 0).map fun closeAt? =>
      match closeAt? with
      | some closeAt => ((body.take closeAt).drop (openAt + 1), body.drop (closeAt + 1))
      | none => (body.drop (openAt + 1), [])

/-- **Scanning finds the parenthesis that closes the list.** -/
theorem closingPosition_eq {body cs : List Char} {p : Nat} (depth : Nat) (h : body.drop p = cs) :
    closingPosition body (List.range' p cs.length) (depth + 1) =
      .ok ((closing depth cs).map fun q => p + q.1.length) := by
  -- the scan has read the parenthesis that opens the list, so its depth is one more
  induction cs generalizing p depth with
  | nil => rfl
  | cons c cs ih =>
    obtain ⟨hc, hrest, -⟩ := lookUp_of_drop .character h
    have hshift : ∀ q : Option (List Char × List Char),
        (q.map fun q => (c :: q.1, q.2)).map (fun q => p + q.1.length) =
          q.map fun q => p + 1 + q.1.length := by
      intro q
      cases q with
      | none => rfl
      | some q => simp [Nat.add_comm, Nat.add_left_comm]
    rw [List.length_cons, List.range'_succ, closingPosition, hc, Except.bind]
    unfold closing
    by_cases hopen : c = '('
    · rw [if_pos hopen, if_pos hopen, hshift, ← ih (depth + 1) hrest]
      rfl
    · rw [if_neg hopen, if_neg hopen]
      by_cases hclose : c = ')'
      · rw [if_pos hclose, if_pos hclose]
        cases depth with
        | zero => rfl
        | succ depth =>
          have hdepth : ((depth + 1 : Nat) : Int) + 1 - 1 = depth + 1 := by omega
          rw [if_neg (by omega), hdepth, ih depth hrest, hshift]
      · rw [if_neg hclose, if_neg hclose, ih depth hrest, hshift]

/-- **A text with a parenthesis is divided at it.** -/
theorem divideByPositions_eq {body rest : List Char} (h : after? '(' body = some rest) :
    divideByPositions body = .ok (parameterText rest) := by
  have hbody := Text.before_append_after h
  generalize hfront : before '(' body = front at hbody
  have hdrop : body.drop (front.length + 1) = rest := by
    simp [← hbody]
  have hopen : body[front.length]? = some '(' := by
    simp [← hbody]
  have hlength : body.length - front.length = rest.length + 1 := by
    simp [← hbody]
  -- the scan starts at the parenthesis itself, and reads it first
  have hscan : closingPosition body (List.range' front.length (rest.length + 1)) 0 =
      .ok ((closing 0 rest).map fun q => front.length + 1 + q.1.length) := by
    rw [← closingPosition_eq 0 hdrop, List.range'_succ, closingPosition, lookUp_eq hopen]
    rfl
  rw [divideByPositions, indexOf_eq h, hfront, Except.bind, hlength, hscan, Except.map,
    parameterText]
  cases hclosing : closing 0 rest with
  | none => rw [Option.map_none, Option.getD_none, hdrop]
  | some q =>
    obtain ⟨inside, tail⟩ := q
    have hrest := closing_append hclosing
    subst hrest
    have htake : body.take (front.length + 1 + inside.length) = front ++ '(' :: inside := by
      have hsplit : body = (front ++ '(' :: inside) ++ ')' :: tail := by simp [← hbody]
      rw [hsplit]
      exact List.take_left' (by simp [Nat.add_comm, Nat.add_left_comm])
    have hinside : (front ++ '(' :: inside).drop (front.length + 1) = inside := by
      simp
    have htail : body.drop (front.length + 1 + inside.length + 1) = tail := by
      rw [Nat.add_assoc, ← List.drop_drop, hdrop]
      simp
    rw [Option.map_some, Option.getD_some]
    simp only [htake, hinside, htail]

/-! ### The returned values -/

/-- The types that the pieces from a position on name, in order. -/
def typesFrom (pieces : List String) (position : Nat) : Except Fault (List String) :=
  if position < pieces.length then
    (lookUp .piece pieces position).bind fun candidate =>
      if position + 1 < pieces.length then
        (lookUp .piece pieces (position + 1)).bind fun ahead =>
          if ValueType.isLocation ahead then
            (typesFrom pieces (position + 2)).map fun types =>
              (understood (candidate ++ " " ++ ahead)).toList ++ types
          else (typesFrom pieces (position + 1)).map ((understood candidate).toList ++ ·)
      else (typesFrom pieces (position + 1)).map ((understood candidate).toList ++ ·)
  else .ok []
termination_by pieces.length - position

/-- The types of the returned values, read from the word with the keyword on. -/
def typesByPositions (clause : List (List Char)) : Except Fault (List String) :=
  (lookUp .clauseWord clause 0).bind fun first =>
    (textBehind .behindKeyword returnsKeyword first).bind fun glued =>
      let typeWords := (if glued = [] then [] else [glued]) ++ clause.drop 1
      if typeWords = [] then .ok []
      else
        (change .firstTypeWord 0 (fun w => (after? '(' w).getD w) typeWords).bind fun typeWords =>
          (change .lastTypeWord (typeWords.length - 1) (before ')') typeWords).bind fun typeWords =>
            typesFrom ((commaPieces typeWords).map String.ofList) 0

/-- The words before the first one that holds the keyword, and the types of the returned values. -/
def returnsByPositions (ws : List (List Char)) :
    Except Fault (List (List Char) × List String) :=
  match ws.findIdx? fun w => decide (returnsKeyword <:+: w) with
  | none => .ok (ws, [])
  | some i => (typesByPositions (ws.drop i)).map (ws.take i, ·)

/-- **The pieces from a position on are read as their types.** -/
theorem typesFrom_eq (pieces : List String) (position : Nat) :
    typesFrom pieces position = .ok (typesOf (pieces.drop position)) := by
  -- by the pieces that are left; a second one is looked up only if there is one
  induction hrest : pieces.drop position using typesOf.induct generalizing position with
  | case1 =>
    have hlength : pieces.length ≤ position := List.drop_eq_nil_iff.mp hrest
    rw [typesFrom, if_neg (by omega)]
    rfl
  | case2 t =>
    obtain ⟨hfirst, hnext, hlength⟩ := lookUp_of_drop .piece hrest
    have hend : typesFrom pieces (position + 1) = .ok [] := by
      rw [typesFrom, if_neg (by simp [hlength])]
    rw [typesFrom, if_pos (by omega), hfirst, Except.bind, if_neg (by simp [hlength]), hend]
    simp [typesOf, Except.map]
  | case3 t u rest hu ih =>
    obtain ⟨hfirst, hnext, hlength⟩ := lookUp_of_drop .piece hrest
    obtain ⟨hahead, hbehind, -⟩ := lookUp_of_drop .piece hnext
    rw [typesFrom, if_pos (by omega), hfirst, Except.bind, if_pos (by simp [hlength]), hahead,
      Except.bind, if_pos hu, ih _ hbehind, typesOf, if_pos hu, Except.map]
  | case4 t u rest hu ih =>
    obtain ⟨hfirst, hnext, hlength⟩ := lookUp_of_drop .piece hrest
    obtain ⟨hahead, -, -⟩ := lookUp_of_drop .piece hnext
    rw [typesFrom, if_pos (by omega), hfirst, Except.bind, if_pos (by simp [hlength]), hahead,
      Except.bind, if_neg hu, ih _ hnext, typesOf, if_neg hu, Except.map]

/-- **The clause is read by positions.** -/
theorem typesByPositions_eq {w glued : List Char} (h : afterText? returnsKeyword w = some glued)
    (ws : List (List Char)) :
    typesByPositions (w :: ws) = .ok (returnsOf (splitAtReturns (w :: ws)).2) := by
  have hfirst : lookUp .clauseWord (w :: ws) 0 = .ok w := rfl
  have hbehind : textBehind .behindKeyword returnsKeyword w = .ok glued := by
    rw [textBehind, h]
  rw [splitAtReturns_of_afterText? h, typesByPositions, hfirst]
  simp only [Except.bind, hbehind, List.drop_one, List.tail_cons]
  generalize (if glued = [] then [] else [glued]) ++ ws = typeWords
  by_cases hnil : typeWords = []
  · rw [if_pos hnil, hnil]
    rfl
  · rw [if_neg hnil, change_first _ hnil]
    simp only [change_last _ (Text.onFirst_ne_nil hnil), typesFrom_eq, List.drop_zero]
    rfl

/-- **What stands behind the list is read by positions.** -/
theorem returnsByPositions_eq (ws : List (List Char)) :
    returnsByPositions ws = .ok ((splitAtReturns ws).1, returnsOf (splitAtReturns ws).2) := by
  rw [returnsByPositions]
  cases hfind : ws.findIdx? fun w => decide (returnsKeyword <:+: w) with
  | none =>
    have hnone : ∀ w ∈ ws, ¬returnsKeyword <:+: w := by
      simpa [List.findIdx?_eq_none_iff] using hfind
    have hsplit := splitAtReturns_append hnone []
    rw [List.append_nil] at hsplit
    rw [hsplit]
    simp [splitAtReturns, returnsOf_none]
  | some i =>
    -- no word in front of the one that is found holds the keyword, so that one opens the clause
    obtain ⟨hi, hkeyword, hbefore⟩ := List.findIdx?_eq_some_iff_getElem.mp hfind
    have hstarts : ∀ m ∈ ws.take i, ¬returnsKeyword <:+: m := by
      intro m hm
      obtain ⟨j, hj, rfl⟩ := List.mem_take_iff_getElem.mp hm
      simpa using hbefore j (by omega)
    have hdrop : ws.drop i = ws[i] :: ws.drop (i + 1) := List.drop_eq_getElem_cons hi
    obtain ⟨glued, hglued⟩ : ∃ glued, afterText? returnsKeyword ws[i] = some glued := by
      refine Option.ne_none_iff_exists'.mp fun hnone => ?_
      exact (Text.afterText?_eq_none_iff (by decide)).mp hnone (of_decide_eq_true hkeyword)
    have hsplit := splitAtReturns_append hstarts (ws.drop i)
    rw [List.take_append_drop, hdrop] at hsplit
    simp only [hdrop, typesByPositions_eq hglued, hsplit, Except.map,
      splitAtReturns_of_afterText? hglued, List.append_nil]

/-! ### Signatures -/

/-- The signature of a text that may be missing, read by positions. -/
def parseByPositions (text : Option String) : Except Fault Signature :=
  let ws := words (text.getD "").toList
  if ws.length < 2 then .error (.malformed ⟨text, .tooFewWords⟩)
  else
    (lookUp .firstWord ws 0).bind fun first =>
      let nameIndex := if first = functionKeyword then 1 else 0
      (lookUp .nameWord ws nameIndex).bind fun name =>
        if '(' ∉ name then .error (.malformed ⟨text, .noParameterList⟩)
        else
          (divideByPositions (unwords (ws.drop nameIndex))).bind fun (inside, tail) =>
            (returnsByPositions (words tail)).map fun (modifiers, returns) =>
              { raw := text.getD ""
                name := String.ofList (before '(' name)
                parameters := (parametersOf inside).map String.ofList
                modifiers := modifiers.map String.ofList
                returns := returns
                payable := ws.contains payableKeyword }

/-- A parenthesis in the first word opens a list in the text. -/
theorem exists_after?_unwords {ws : List (List Char)} (h : '(' ∈ ws.headD []) :
    ∃ list, after? '(' (unwords ws) = some list := by
  cases ws with
  | nil => simp at h
  | cons w ws =>
    refine Option.ne_none_iff_exists'.mp fun hnone => ?_
    rw [Text.unwords_cons_eq_flatMap, Text.after?_eq_none_iff] at hnone
    exact hnone (List.mem_append_left _ h)

/-- **Reading by positions never misses.** -/
theorem parseByPositions_eq (text : Option String) :
    parseByPositions text = (parse text).mapError .malformed := by
  rw [parseByPositions, parse, read, words?]
  rcases hwords : words (text.getD "").toList with _ | ⟨first, _ | ⟨second, rest⟩⟩
  · rfl
  · rfl
  · -- two words are enough for both places where the name may stand
    have hname : lookUp .nameWord (first :: second :: rest)
        (if first = functionKeyword then 1 else 0) =
          .ok ((fromName (first :: second :: rest)).headD []) := by
      rw [fromName]
      split <;> rfl
    have hbody : (first :: second :: rest).drop (if first = functionKeyword then 1 else 0) =
        fromName (first :: second :: rest) := by
      rw [fromName]
      split <;> rfl
    have hfirst : lookUp .firstWord (first :: second :: rest) 0 = .ok first := rfl
    have hlength : ¬(first :: second :: rest).length < 2 := by simp
    simp only [if_neg hlength, hfirst, Except.bind, hname, hbody, ofWords]
    generalize fromName (first :: second :: rest) = body
    by_cases hopen : '(' ∈ body.headD []
    · obtain ⟨list, hlist⟩ := exists_after?_unwords hopen
      rw [if_neg (not_not_intro hopen), if_pos hopen, hlist]
      simp only [divideByPositions_eq hlist, returnsByPositions_eq, List.contains_eq_mem]
      rfl
    · rw [if_pos hopen, if_neg hopen]
      rfl

/-! ### Texts that are no signatures -/

/-- The words of a text that may be missing. -/
def wordsOf (text : Option String) : List (List Char) :=
  words (text.getD "").toList

/-- The position of the word that the name stands in. -/
def nameIndex : List (List Char) → Nat
  | [] => 0
  | first :: _ => if first = functionKeyword then 1 else 0

/-- The defects of a text. -/
inductive HasDefect (text : Option String) : Defect → Prop
  | tooFewWords (few : (wordsOf text).length < 2) : HasDefect text .tooFewWords
  | noParameterList {name : List Char} (enough : 2 ≤ (wordsOf text).length)
      (found : (wordsOf text)[nameIndex (wordsOf text)]? = some name)
      (unopened : '(' ∉ name) : HasDefect text .noParameterList

variable {text : Option String}

theorem getElem?_nameIndex {ws : List (List Char)} (h : 2 ≤ ws.length) :
    ws[nameIndex ws]? = some ((fromName ws).headD []) := by
  rcases ws with _ | ⟨first, _ | ⟨second, rest⟩⟩
  · simp at h
  · simp at h
  · rw [fromName, nameIndex]
    split <;> rfl

theorem hasDefect_tooFewWords_iff : HasDefect text .tooFewWords ↔ (wordsOf text).length < 2 := by
  refine ⟨fun h => ?_, .tooFewWords⟩
  cases h with
  | tooFewWords few => exact few

theorem hasDefect_noParameterList_iff : HasDefect text .noParameterList ↔
    2 ≤ (wordsOf text).length ∧ '(' ∉ nameWord (text.getD "") := by
  refine ⟨fun h => ?_, fun ⟨enough, hopen⟩ =>
    .noParameterList enough (getElem?_nameIndex enough) hopen⟩
  cases h with
  | noParameterList enough found unopened =>
    obtain rfl := Option.some.inj ((getElem?_nameIndex enough).symm.trans found)
    exact ⟨enough, unopened⟩

/-- **What a text that may be missing is read as.** -/
theorem parse_eq_ite (text : Option String) :
    parse text =
      if (wordsOf text).length < 2 then .error ⟨text, .tooFewWords⟩
      else if '(' ∈ nameWord (text.getD "") then .ok (divided (text.getD ""))
      else .error ⟨text, .noParameterList⟩ := by
  rw [parse, read_eq, wordsOf]
  split_ifs <;> rfl

/-- **The texts that are no signatures.** A text is refused for a defect that it has, and for
nothing else; any other text is a signature. Reading it by positions comes to the same, and no
position is out of range, whatever the text is. -/
theorem parse_eq_error_iff_hasDefect (text : Option String) :
    (∀ m, parse text = .error m ↔ m.text = text ∧ HasDefect text m.defect) ∧
      ((∃ s, parse text = .ok s) ↔ ∀ d, ¬HasDefect text d) ∧
      parseByPositions text = (parse text).mapError .malformed ∧
      ∀ place, parseByPositions text ≠ .error (.outOfRange place) := by
  have hrefused : ∀ m, parse text = .error m ↔ m.text = text ∧ HasDefect text m.defect := by
    rintro ⟨t, d⟩
    rw [parse_eq_ite]
    by_cases hfew : (wordsOf text).length < 2
    · cases d with
      | tooFewWords => simp [hasDefect_tooFewWords_iff, hfew, eq_comm]
      | noParameterList => simp [hasDefect_noParameterList_iff, hfew]
    · by_cases hopen : '(' ∈ nameWord (text.getD "")
      · cases d with
        | tooFewWords => simp [hasDefect_tooFewWords_iff, hfew, hopen]
        | noParameterList => simp [hasDefect_noParameterList_iff, hfew, hopen]
      · cases d with
        | tooFewWords => simp [hasDefect_tooFewWords_iff, hfew, hopen]
        | noParameterList =>
          simp [hasDefect_noParameterList_iff, hfew, hopen, Nat.le_of_not_lt hfew, eq_comm]
  refine ⟨hrefused, ?_, parseByPositions_eq text, fun place => ?_⟩
  · cases hparse : parse text with
    | error m =>
      have hdefect := ((hrefused m).mp hparse).2
      exact ⟨nofun, fun hnone => absurd hdefect (hnone _)⟩
    | ok s =>
      refine ⟨fun _ d hd => ?_, fun _ => ⟨s, rfl⟩⟩
      have herror := (hrefused ⟨text, d⟩).mpr ⟨rfl, hd⟩
      rw [hparse] at herror
      nomatch herror
  · rw [parseByPositions_eq]
    cases parse text <;> simp [Except.mapError]

/-- The clause ends with its keyword, and the brackets of the list do not match. -/
example : (parseByPositions (some "f(uint[ a,) b) only returns")).map
    (fun s => (s.parameters, s.modifiers, s.returns)) = .ok (["uint[ a,"], ["b)", "only"], []) := by
  decide +kernel

end ExploitReplay.Signature
