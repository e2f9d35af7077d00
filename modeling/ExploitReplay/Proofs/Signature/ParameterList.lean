import ExploitReplay.Proofs.Signature.Division

/-!
# Where a parameter list ends

The first parenthesis of a text opens its parameter list. The list ends at the parenthesis that
matches it: what stands between the two opens as many parentheses as it closes, and closes none that
it has not opened. There is at most one such place. Without it the list is never closed, and reaches
to the end of the text.

## Main results

* `DividesAt.parameterText_eq`: a list that is closed is read up to its closing parenthesis
* `DividesAt.unique`: at most one parenthesis matches the first one
* `parameterText_eq_iff`: a list ends at the parenthesis that matches the first one, or with the text
-/

namespace ExploitReplay.Signature

open Text (after?)

variable {text : String} {front list tail : List Char}

/-- **A list that is closed is read up to its closing parenthesis.** -/
theorem DividesAt.parameterText_eq (h : DividesAt text front list tail) :
    parameterText ((after? '(' text.toList).getD []) = (list, tail) := by
  rw [h.after?_eq, Option.getD_some, parameterText, closing_balanced h.balanced, Option.getD_some]

/-- **At most one parenthesis matches the first one.** -/
theorem DividesAt.unique {front' list' tail' : List Char} (h : DividesAt text front list tail)
    (h' : DividesAt text front' list' tail') : list = list' ∧ tail = tail' :=
  Prod.mk.inj (h.parameterText_eq.symm.trans h'.parameterText_eq)

/-- **A parameter list ends at the parenthesis that matches the first one**, which stands at `o`; no
other parenthesis matches it. If none does, everything behind the first parenthesis is the list, and
nothing is left. -/
theorem parameterText_eq_iff {o : Nat} (hopen : text.toList[o]? = some '(')
    (hfirst : '(' ∉ text.toList.take o) :
    parameterText ((after? '(' text.toList).getD []) = (list, tail) ↔
      (DividesAt text (text.toList.take o) list tail ∧
        ∀ list' tail', DividesAt text (text.toList.take o) list' tail' →
          list' = list ∧ tail' = tail) ∨
      (∀ list' tail', ¬DividesAt text (text.toList.take o) list' tail') ∧
        list = text.toList.drop (o + 1) ∧ tail = [] := by
  have htext : text.toList = text.toList.take o ++ '(' :: text.toList.drop (o + 1) := by
    obtain ⟨hlt, hchar⟩ := List.getElem?_eq_some_iff.mp hopen
    rw [← hchar, ← List.drop_eq_getElem_cons hlt, List.take_append_drop]
  have hafter : after? '(' text.toList = some (text.toList.drop (o + 1)) := by
    conv_lhs => rw [htext]
    exact Text.after?_append hfirst _
  cases hclosing : closing 0 (text.toList.drop (o + 1)) with
  | some p =>
    -- the list is closed, and no other parenthesis closes it
    have hdivides := dividesAt_of_closing htext hfirst hclosing
    constructor
    · intro h
      rw [hdivides.parameterText_eq] at h
      obtain ⟨rfl, rfl⟩ := Prod.mk.inj h
      exact .inl ⟨hdivides, fun _ _ h => h.unique hdivides⟩
    · rintro (⟨h, -⟩ | ⟨hnone, -⟩)
      · exact h.parameterText_eq
      · exact absurd hdivides (hnone p.1 p.2)
  | none =>
    -- a parenthesis that closed the list would have been found
    have hnone : ∀ list' tail', ¬DividesAt text (text.toList.take o) list' tail' := by
      intro list' tail' h
      have hrest : text.toList.drop (o + 1) = list' ++ ')' :: tail' :=
        Option.some.inj (hafter.symm.trans h.after?_eq)
      rw [hrest, closing_balanced h.balanced] at hclosing
      cases hclosing
    rw [hafter, Option.getD_some, parameterText, hclosing, Option.getD_none, Prod.mk.injEq]
    constructor
    · rintro ⟨rfl, rfl⟩
      exact .inr ⟨hnone, rfl, rfl⟩
    · rintro (⟨h, -⟩ | ⟨-, rfl, rfl⟩)
      · exact absurd h (hnone list tail)
      · exact ⟨rfl, rfl⟩

/-- The list holds a list, and a parenthesis behind it is closed without being opened. -/
def nestedText : String :=
  "f[)](a(b)[, c) g) returns (d)"

theorem parameterText_eq_iff_nestedText :
    nestedText.toList[4]? = some '(' ∧ '(' ∉ nestedText.toList.take 4 ∧
      DividesAt nestedText (nestedText.toList.take 4) "a(b)[, c".toList
        " g) returns (d)".toList ∧
      ∀ list tail, DividesAt nestedText (nestedText.toList.take 4) list tail →
        list = "a(b)[, c".toList ∧ tail = " g) returns (d)".toList := by
  have hopen : nestedText.toList[4]? = some '(' := by decide
  have hfirst : '(' ∉ nestedText.toList.take 4 := by decide
  have hread : parameterText ((after? '(' nestedText.toList).getD []) =
      ("a(b)[, c".toList, " g) returns (d)".toList) := by decide +kernel
  refine ⟨hopen, hfirst, ?_⟩
  rcases (parameterText_eq_iff hopen hfirst).mp hread with h | ⟨-, -, hnil⟩
  · exact h
  · exact absurd hnil (by decide)

end ExploitReplay.Signature
