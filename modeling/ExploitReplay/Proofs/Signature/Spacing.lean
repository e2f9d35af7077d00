import ExploitReplay.Proofs.Signature.Reading

/-!
# Texts that are read alike

A signature is read from its words alone. So it makes no difference which blanks stand between the
words, how many there are, or whether some stand in front or at the end; and the keyword in front of
the name may be left out.

## Main definitions

* `ReadAlike a b`: the texts are read as the same signature, or refused for the same defect

## Main results

* `ofWords_congr`: what is read of some words, whatever text they are from
* `readAlike_of_words`: texts with the same words from the name on are read alike
* `parse_spacing_keyword`: neither the spacing nor the keyword matters
-/

namespace ExploitReplay.Signature

open Text (words)

/-- The texts are read alike: as signatures that differ in nothing but the text that they keep, or
both are refused for the same defect. -/
inductive ReadAlike (a b : String) : Prop
  | signatures {s t : Signature} (left : parse (some a) = .ok s) (right : parse (some b) = .ok t)
      (name : s.name = t.name) (parameters : s.parameters = t.parameters)
      (modifiers : s.modifiers = t.modifiers) (returns : s.returns = t.returns)
      (payable : s.payable = t.payable) : ReadAlike a b
  | refused {d : Defect} (left : parse (some a) = .error ⟨some a, d⟩)
      (right : parse (some b) = .error ⟨some b, d⟩) : ReadAlike a b

/-! ### Reading from words -/

/-- **What is read of some words**, whatever text they are from. Of the words in front of the name
it only counts whether one of them lets a call send value along. -/
theorem ofWords_congr (a b : String) {all all' : List (List Char)} (body : List (List Char))
    (h : payableKeyword ∈ all ↔ payableKeyword ∈ all') :
    ofWords b all' body = (ofWords a all body).map ({ · with raw := b }) := by
  unfold ofWords
  split
  · simp only [h]
    rfl
  · rfl

/-- Texts are read alike if what is read of them is the same but for the text that is kept. -/
theorem readAlike_of_read {a b : String} (h : read b = (read a).map ({ · with raw := b })) :
    ReadAlike a b := by
  have hparse : ∀ text : String, parse (some text) = (read text).mapError (⟨some text, ·⟩) := by
    intro text
    rw [parse, Option.getD_some]
    cases read text <;> rfl
  have ha := hparse a
  have hb := hparse b
  rw [h] at hb
  cases hread : read a with
  | error d =>
    rw [hread] at ha hb
    exact .refused ha hb
  | ok s =>
    rw [hread] at ha hb
    exact .signatures ha hb rfl rfl rfl rfl rfl

/-- **Texts with the same words from the name on are read alike.** -/
theorem readAlike_of_words {a b : String}
    (hcount : (words a.toList).length < 2 ↔ (words b.toList).length < 2)
    (hbody : fromName (words a.toList) = fromName (words b.toList))
    (hpayable : payableKeyword ∈ words a.toList ↔ payableKeyword ∈ words b.toList) :
    ReadAlike a b := by
  apply readAlike_of_read
  rw [read_eq_ofWords a, read_eq_ofWords b, ← hbody]
  by_cases hfew : (words a.toList).length < 2
  · rw [if_pos hfew, if_pos (hcount.mp hfew)]
    rfl
  · rw [if_neg hfew, if_neg (mt hcount.mpr hfew)]
    exact ofWords_congr a b _ hpayable

/-! ### Spacing and the keyword -/

theorem readAlike_of_words_eq {a b : String} (h : words a.toList = words b.toList) :
    ReadAlike a b := by
  apply readAlike_of_words <;> rw [h]

/-- The keyword in front of the name may be left out. -/
theorem readAlike_of_keyword {a b : String} (henough : 2 ≤ (words a.toList).length)
    (hfirst : (words a.toList).head? ≠ some functionKeyword)
    (h : words b.toList = functionKeyword :: words a.toList) : ReadAlike a b := by
  apply readAlike_of_words
  case hcount =>
    rw [h, List.length_cons]
    omega
  case hbody =>
    rw [h, fromName, if_pos rfl]
    cases hwords : words a.toList with
    | nil => rfl
    | cons w ws =>
      rw [fromName, if_neg]
      rintro rfl
      simp [hwords] at hfirst
  case hpayable =>
    have hother : payableKeyword ≠ functionKeyword := by decide
    rw [h, List.mem_cons, or_iff_right hother]

/-- Put together with single spaces, the words of a text are found again. -/
theorem words_singleSpaces (text : String) :
    words (" ".intercalate ((words text.toList).map String.ofList)).toList = words text.toList := by
  have hjoined : ((words text.toList).map String.ofList).map String.toList = words text.toList := by
    simp [Function.comp_def]
  rw [Text.toList_intercalate_space, hjoined,
    Text.words_unwords fun w hw => Text.isWord_of_mem_words hw]

theorem words_keyword_append (text : String) :
    words ("function " ++ text).toList = functionKeyword :: words text.toList := by
  have hkeyword : ("function " ++ text).toList = functionKeyword ++ ' ' :: text.toList := by
    rw [String.toList_append]
    rfl
  have hword : words functionKeyword = [functionKeyword] := by decide
  rw [hkeyword, Text.words_append_blank (by decide), hword]
  rfl

/-- **Neither the spacing nor the keyword matters.** Texts with the same words are read alike, so a
text may be written with single spaces; and so may the keyword be added to a text that does not start
with it. -/
theorem parse_spacing_keyword :
    (∀ a b : String, words a.toList = words b.toList → ReadAlike a b) ∧
      (∀ a : String, ReadAlike a (" ".intercalate ((words a.toList).map String.ofList))) ∧
      ∀ a : String, 2 ≤ (words a.toList).length →
        (words a.toList).head? ≠ some functionKeyword → ReadAlike a ("function " ++ a) := by
  refine ⟨fun a b h => readAlike_of_words_eq h, fun a => ?_, fun a henough hfirst => ?_⟩
  · exact readAlike_of_words_eq (words_singleSpaces a).symm
  · exact readAlike_of_keyword henough hfirst (words_keyword_append a)

/-- The first text has blanks of several kinds, and the second one single spaces. -/
def looseText : String :=
  "\tpay( uint256\u00a0a,\n b )\u2003 payable returns(uint )  "

def tightText : String :=
  "pay( uint256 a, b ) payable returns(uint )"

theorem parse_spacing_keyword_looseText :
    words looseText.toList = words tightText.toList ∧ ReadAlike looseText tightText ∧
      2 ≤ (words tightText.toList).length ∧
      (words tightText.toList).head? ≠ some functionKeyword ∧
      ReadAlike tightText ("function " ++ tightText) := by
  obtain ⟨hspacing, -, hkeyword⟩ := parse_spacing_keyword
  have hwords : words looseText.toList = words tightText.toList := by decide +kernel
  have henough : 2 ≤ (words tightText.toList).length := by decide +kernel
  have hfirst : (words tightText.toList).head? ≠ some functionKeyword := by decide +kernel
  exact ⟨hwords, hspacing _ _ hwords, henough, hfirst, hkeyword _ henough hfirst⟩

end ExploitReplay.Signature
