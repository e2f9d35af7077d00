import ExploitReplay.Proofs.Text.Words
import ExploitReplay.Signature.Reading

/-!
# What is kept of a signature

## Main results

* `raw_of_parse`: a signature keeps the text it was read from
* `name_subset_of_parse`: its name is a part of that text
* `isKnown_of_mem_returns`: the types of its returned values are in the catalog
-/

namespace ExploitReplay.Signature

theorem raw_of_ofWords {raw : String} {all body : List (List Char)} {s : Signature}
    (h : ofWords raw all body = .ok s) : s.raw = raw := by
  unfold ofWords at h
  split at h
  · rw [← Except.ok.inj h]
  · cases h

/-- The name of a signature stands in front of a parenthesis, and the types of its returned values
are those of some clause. -/
theorem name_returns_of_ofWords {raw : String} {all body : List (List Char)} {s : Signature}
    (h : ofWords raw all body = .ok s) :
    (∃ w ∈ body, s.name = String.ofList (Text.before '(' w)) ∧
      ∃ clause, s.returns = returnsOf clause := by
  unfold ofWords at h
  split at h
  · rename_i hopen
    rw [← Except.ok.inj h]
    refine ⟨⟨body.headD [], ?_, rfl⟩, _, rfl⟩
    cases body with
    | nil => cases hopen
    | cons w body => exact List.mem_cons_self
  · cases h

theorem mem_of_mem_fromName {ws : List (List Char)} {w : List Char} (h : w ∈ fromName ws) :
    w ∈ ws := by
  cases ws with
  | nil => exact h
  | cons v vs =>
    simp only [fromName] at h
    split at h
    · exact List.mem_cons_of_mem _ h
    · exact h

theorem words_of_words?_eq {text : String} {ws : List (List Char)} (h : words? text = .ok ws) :
    ws = Text.words text.toList ∧ ws ≠ [] := by
  unfold words? at h
  split at h
  · rename_i hwords
    rw [← Except.ok.inj h, hwords]
    exact ⟨rfl, by simp⟩
  · cases h

/-- A text with two words is read from its words. -/
theorem read_eq_ofWords (text : String) :
    read text =
      if (Text.words text.toList).length < 2 then .error .tooFewWords
      else ofWords text (Text.words text.toList) (fromName (Text.words text.toList)) := by
  rw [read, words?]
  rcases Text.words text.toList with _ | ⟨first, _ | ⟨second, rest⟩⟩
  · rfl
  · rfl
  · rw [if_neg (by simp)]
    rfl

/-- A signature is read from the words of its text. -/
theorem ofWords_of_parse {text : String} {s : Signature} (h : parse (some text) = .ok s) :
    ∃ ws, words? text = .ok ws ∧ ofWords text ws (fromName ws) = .ok s := by
  simp only [parse, Option.getD_some] at h
  split at h
  · rename_i s' hread
    obtain rfl := Except.ok.inj h
    unfold read at hread
    cases hwords : words? text with
    | error d => simp [hwords, Except.bind] at hread
    | ok ws => exact ⟨ws, rfl, by simpa [hwords, Except.bind] using hread⟩
  · cases h

section Parsed

variable {text : String} {s : Signature}

/-- A signature keeps the text it was read from. -/
theorem raw_of_parse (h : parse (some text) = .ok s) : s.raw = text := by
  obtain ⟨ws, -, hof⟩ := ofWords_of_parse h
  exact raw_of_ofWords hof

/-- The text of a signature is not empty. -/
theorem ne_empty_of_parse (h : parse (some text) = .ok s) : text ≠ "" := by
  rintro rfl
  obtain ⟨ws, hwords, -⟩ := ofWords_of_parse h
  obtain ⟨rfl, hne⟩ := words_of_words?_eq hwords
  exact hne rfl

/-- The name of a signature is a part of its text. -/
theorem name_subset_of_parse (h : parse (some text) = .ok s) : s.name.toList ⊆ text.toList := by
  obtain ⟨ws, hwords, hof⟩ := ofWords_of_parse h
  obtain ⟨⟨w, hw, hname⟩, -⟩ := name_returns_of_ofWords hof
  obtain ⟨rfl, -⟩ := words_of_words?_eq hwords
  rw [hname, String.toList_ofList]
  exact fun c hc => (Text.infix_of_mem_words (mem_of_mem_fromName hw)).subset
    ((List.takeWhile_prefix _).subset hc)

/-- The types of the returned values are in the catalog. -/
theorem isKnown_of_mem_returns (h : parse (some text) = .ok s) {t : String} (ht : t ∈ s.returns) :
    ValueType.isKnown t = true := by
  obtain ⟨ws, -, hof⟩ := ofWords_of_parse h
  obtain ⟨-, clause, hreturns⟩ := name_returns_of_ofWords hof
  rw [hreturns] at ht
  exact isKnown_of_mem_typesOf ht

end Parsed

end ExploitReplay.Signature
