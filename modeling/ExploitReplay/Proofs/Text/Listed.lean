import ExploitReplay.Proofs.Text.Words

/-!
# Lists of texts

Texts are listed with a comma and a space between neighbours, and a list may stand in parentheses
behind a word. The words of such a list are those of its members, but for the punctuation that
touches them.

## Main definitions

* `listed parts`: texts with a comma and a space between neighbours
* `withList w parts`: a word with a list in parentheses behind it

## Main results

* `Tidy.listed`, `Tidy.withList`: lists of tidy texts are tidy
* `words_listed_cons_cons`: the comma belongs to the last word before it
* `mem_words_withList`: a word without punctuation is a word of a member
-/

namespace ExploitReplay.Text

/-! ### Lists -/

/-- Texts with a comma and a space between neighbours. -/
def listed (parts : List (List Char)) : List Char :=
  [',', ' '].intercalate parts

@[simp] theorem listed_nil : listed [] = [] := rfl

@[simp] theorem listed_singleton (p : List Char) : listed [p] = p := by
  simp [listed]

theorem listed_cons_cons (p q : List Char) (ps : List (List Char)) :
    listed (p :: q :: ps) = (p ++ [',']) ++ ' ' :: listed (q :: ps) := by
  simp [listed, List.intercalate_cons_cons]

theorem mem_listed {parts : List (List Char)} {c : Char} (h : c ∈ listed parts) :
    c = ',' ∨ c = ' ' ∨ ∃ p ∈ parts, c ∈ p := by
  induction parts with
  | nil => simp at h
  | cons p ps ih =>
    cases ps with
    | nil => exact .inr (.inr ⟨p, by simp, by simpa using h⟩)
    | cons q qs =>
      simp only [listed_cons_cons, List.mem_append, List.mem_cons, List.not_mem_nil, or_false] at h
      rcases h with (h | h) | h | h
      · exact .inr (.inr ⟨p, by simp, h⟩)
      · exact .inl h
      · exact .inr (.inl h)
      · rcases ih h with h | h | ⟨r, hr, hc⟩
        · exact .inl h
        · exact .inr (.inl h)
        · exact .inr (.inr ⟨r, List.mem_cons_of_mem _ hr, hc⟩)

/-- A list of tidy texts is tidy. -/
theorem Tidy.listed {parts : List (List Char)} (hne : parts ≠ []) (h : ∀ p ∈ parts, Tidy p) :
    Tidy (Text.listed parts) := by
  induction parts with
  | nil => exact absurd rfl hne
  | cons p ps ih =>
    have hp := h p (by simp)
    cases ps with
    | nil => simpa using hp
    | cons q qs =>
      have hcomma : Tidy (p ++ [',']) := hp.append_word (by decide)
      rw [listed_cons_cons]
      exact hcomma.append_space (ih (by simp) fun r hr => h r (List.mem_cons_of_mem _ hr))

/-- **The comma belongs to the last word before it.** -/
theorem words_listed_cons_cons {p : List Char} (h : Tidy p) (q : List Char)
    (ps : List (List Char)) :
    words (listed (p :: q :: ps)) = onLast (· ++ [',']) (words p) ++ words (listed (q :: ps)) := by
  rw [listed_cons_cons, words_append_blank (by decide), h.words_append_word (by decide)]

theorem mem_words_listed {v : List Char} {parts : List (List Char)} (h : ∀ p ∈ parts, Tidy p)
    (hcomma : ',' ∉ v) (hv : v ∈ words (listed parts)) : ∃ p ∈ parts, v ∈ words p := by
  induction parts with
  | nil => simp at hv
  | cons p ps ih =>
    cases ps with
    | nil => exact ⟨p, by simp, by simpa using hv⟩
    | cons q qs =>
      rw [words_listed_cons_cons (h p (by simp)), List.mem_append] at hv
      rcases hv with hv | hv
      · rcases mem_onLast hv with hv | ⟨u, -, rfl⟩
        · exact ⟨p, by simp, hv⟩
        · simp at hcomma
      · obtain ⟨r, hr, hv⟩ := ih (fun r hr => h r (List.mem_cons_of_mem _ hr)) hv
        exact ⟨r, List.mem_cons_of_mem _ hr, hv⟩

/-! ### Lists in parentheses -/

/-- A word with a list in parentheses behind it; the word may be missing. -/
def withList (w : List Char) (parts : List (List Char)) : List Char :=
  (w ++ ['(']) ++ (listed parts ++ [')'])

theorem append_withList (u w : List Char) (parts : List (List Char)) :
    u ++ withList w parts = withList (u ++ w) parts := by
  simp [withList]

theorem tidy_listed_close {parts : List (List Char)} (h : ∀ p ∈ parts, Tidy p) :
    Tidy (listed parts ++ [')']) := by
  by_cases hne : parts = []
  · subst hne
    exact tidy_of_isWord (by decide)
  · exact (Tidy.listed hne h).append_word (by decide)

theorem Tidy.withList {w : List Char} {parts : List (List Char)} (hw : NoBlank w)
    (h : ∀ p ∈ parts, Tidy p) : Tidy (Text.withList w parts) :=
  (tidy_listed_close h).word_append (hw.append (by decide))

/-- **A word without punctuation is a word of a member of the list.** -/
theorem mem_words_withList {v w : List Char} {parts : List (List Char)} (hw : NoBlank w)
    (h : ∀ p ∈ parts, Tidy p) (hopen : '(' ∉ v) (hclose : ')' ∉ v) (hcomma : ',' ∉ v)
    (hv : v ∈ words (withList w parts)) : ∃ p ∈ parts, v ∈ words p := by
  rw [withList, (tidy_listed_close h).words_word_append (hw.append (by decide))] at hv
  -- the first word holds the opening parenthesis, the last one the closing parenthesis
  rcases mem_onFirst hv with hv | ⟨u, -, rfl⟩
  · by_cases hne : parts = []
    · subst hne
      have hparen : words (listed [] ++ [')']) = [[')']] := by decide
      rw [hparen, List.mem_singleton] at hv
      simp [hv] at hclose
    · rw [(Tidy.listed hne h).words_append_word (by decide)] at hv
      rcases mem_onLast hv with hv | ⟨u, -, rfl⟩
      · exact mem_words_listed h hcomma hv
      · simp at hclose
  · simp at hopen

end ExploitReplay.Text
