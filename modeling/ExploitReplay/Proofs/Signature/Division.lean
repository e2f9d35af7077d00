import ExploitReplay.Proofs.Signature.Heading
import ExploitReplay.Proofs.Signature.Reading

/-!
# How a text is divided

A text is a signature if it has two words and the one with the name opens a parameter list. It is
divided at its first parenthesis then: in front stands the name, behind it the list of parameters,
and behind the list the modifiers and the clause of the returned values. All of it is read from the
text with single spaces.

## Main definitions

* `nameWord text`: the word that the name stands in
* `division text`: the text of the parameter list, and what stands behind it
* `divided text`: what is read of the two
* `DividesAt text front inside tail`, `ListCloses text`: the parameter list is closed

## Main results

* `read_eq`, `parse_eq_ok_iff`: a text with two words and a parameter list is read as it is divided
* `DividesAt.exists_division`, `listCloses_or_division`: a list that is closed ends at the
  parenthesis that closes it, and behind any other list stands nothing
-/

namespace ExploitReplay.Signature

open Text (EvenlySpaced after? before singleSpaced unwords words)

/-- The word that the name stands in: the first one, or the one behind the keyword. -/
def nameWord (text : String) : List Char :=
  (fromName (words text.toList)).headD []

/-- The text of the parameter list, and what stands behind it. -/
def division (text : String) : List Char × List Char :=
  parameterText (singleSpaced ((after? '(' text.toList).getD []))

/-- What is read of a text, as it is divided. -/
def divided (text : String) : Signature where
  raw := text
  name := String.ofList (before '(' (nameWord text))
  parameters := (parametersOf (division text).1).map String.ofList
  modifiers := (splitAtReturns (words (division text).2)).1.map String.ofList
  returns := returnsOf (splitAtReturns (words (division text).2)).2
  payable := (words text.toList).contains payableKeyword

/-! ### Reading by division -/

/-- The keyword in front opens no parameter list. -/
theorem after?_unwords_fromName (ws : List (List Char)) :
    after? '(' (unwords (fromName ws)) = after? '(' (unwords ws) := by
  cases ws with
  | nil => rfl
  | cons w ws =>
    rw [fromName]
    split
    · rename_i hw
      rw [hw]
      cases ws with
      | nil => decide
      | cons v vs =>
        rw [Text.unwords_cons_cons, Text.after?_append_of_not_mem (by decide),
          Text.after?_cons_of_ne (by decide)]
    · rfl

/-- **What a text is read as.** -/
theorem read_eq (text : String) :
    read text =
      if (words text.toList).length < 2 then .error .tooFewWords
      else if '(' ∈ nameWord text then .ok (divided text)
      else .error .noParameterList := by
  have hlist : (after? '(' (unwords (fromName (words text.toList)))).getD [] =
      singleSpaced ((after? '(' text.toList).getD []) := by
    rw [after?_unwords_fromName, Text.after?_unwords_words (by decide)]
    cases after? '(' text.toList <;> rfl
  have hof : ofWords text (words text.toList) (fromName (words text.toList)) =
      if '(' ∈ nameWord text then .ok (divided text) else .error .noParameterList := by
    rw [ofWords, hlist, ← List.contains_eq_mem]
    rfl
  rw [read_eq_ofWords, hof]

/-- **A text is a signature iff it has two words and the one with the name opens a list.** -/
theorem parse_eq_ok_iff {text : String} {s : Signature} :
    parse (some text) = .ok s ↔
      2 ≤ (words text.toList).length ∧ '(' ∈ nameWord text ∧ s = divided text := by
  rw [parse, Option.getD_some, read_eq]
  by_cases hwords : (words text.toList).length < 2
  · simp [hwords]
  · by_cases hopen : '(' ∈ nameWord text
    · simp [hwords, hopen, Nat.le_of_not_lt hwords, eq_comm]
    · simp [hwords, hopen]

/-! ### Lists that are closed -/

/-- The text is divided at its first parenthesis and at the one that closes it. -/
structure DividesAt (text : String) (front inside tail : List Char) : Prop where
  text_eq : text.toList = front ++ '(' :: (inside ++ ')' :: tail)
  first : '(' ∉ front
  balanced : Balanced inside

/-- The parameter list, which the first parenthesis opens, is closed. -/
def ListCloses (text : String) : Prop :=
  ∃ front inside tail, DividesAt text front inside tail

theorem DividesAt.after?_eq {text : String} {front list tail : List Char}
    (h : DividesAt text front list tail) : after? '(' text.toList = some (list ++ ')' :: tail) := by
  rw [h.text_eq, Text.after?_append h.first]

/-- A closing parenthesis that is found divides the text. -/
theorem dividesAt_of_closing {text : String} {front rest list tail : List Char}
    (htext : text.toList = front ++ '(' :: rest) (hfirst : '(' ∉ front)
    (h : closing 0 rest = some (list, tail)) : DividesAt text front list tail where
  text_eq := by rw [htext, closing_append h]
  first := hfirst
  balanced := closesFrom_of_closing h

/-- **A list that is closed ends at the parenthesis that closes it.** -/
theorem DividesAt.exists_division {text : String} {front list tail : List Char}
    (h : DividesAt text front list tail) :
    ∃ inside, division text = (inside, singleSpaced tail) ∧ Balanced inside ∧
      EvenlySpaced inside := by
  obtain ⟨inside, hclosing⟩ := closing_singleSpaced (closing_balanced h.balanced tail)
  have hlies : inside <:+: singleSpaced (list ++ ')' :: tail) := by
    rw [closing_append hclosing]
    exact (List.prefix_append _ _).isInfix
  refine ⟨inside, ?_, closesFrom_of_closing hclosing,
    (Text.evenlySpaced_singleSpaced _).of_isInfix hlies⟩
  rw [division, h.after?_eq, Option.getD_some, parameterText, hclosing, Option.getD_some]

/-- **Behind a list that is not closed stands nothing.** -/
theorem listCloses_or_division (text : String) : ListCloses text ∨ (division text).2 = [] := by
  cases hafter : after? '(' text.toList with
  | none => exact .inr (by rw [division, hafter]; rfl)
  | some rest =>
    cases hclosing : closing 0 rest with
    | some p =>
      have htext := (Text.before_append_after hafter).symm
      exact .inl ⟨_, p.1, p.2, dividesAt_of_closing htext (Text.not_mem_before _ _) hclosing⟩
    | none =>
      have hmap := map_snd_closing_singleSpaced 0 rest
      rw [hclosing] at hmap
      have hnone : closing 0 (singleSpaced rest) = none := Option.map_eq_none_iff.mp hmap
      exact .inr (by rw [division, hafter, Option.getD_some, parameterText, hnone]; rfl)

end ExploitReplay.Signature
