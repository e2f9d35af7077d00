import ExploitReplay.Proofs.Text.Words
import Mathlib.Data.List.Chain

/-!
# Spacing

Cutting a text into words and putting these together again changes its spacing only: every run of
blanks becomes one space, and the blanks at the end go. Written character by character, that is what
a reader sees who looks for characters that are no blanks.

## Main definitions

* `singleSpaced cs`: the text with one space for every run of blanks, and none at its end
* `EvenlySpaced cs`: the text has no blanks but spaces, and no two of them side by side

## Main results

* `singleSpaced_not_blank`, `singleSpaced_blank`: what becomes of the first character
* `words_singleSpaced`: the words stay
* `unwords_words_append`: a text that starts with a word is put together single-spaced
* `after?_unwords_words`: what follows a character that is no blank
* `mem_later_append`: a word behind a blank stays one in a longer text
* `tidy_trimBlanks`: what is left of an evenly spaced text without the blanks at its ends
-/

namespace ExploitReplay.Text

/-- The text with one space for every run of blanks, and none at its end. -/
def singleSpaced (cs : List Char) : List Char :=
  (leadAndWords cs).1 ++ (leadAndWords cs).2.flatMap (' ' :: ·)

@[simp] theorem singleSpaced_nil : singleSpaced [] = [] := rfl

/-! ### The first character -/

theorem singleSpaced_not_blank {c : Char} (h : isBlank c = false) (cs : List Char) :
    singleSpaced (c :: cs) = c :: singleSpaced cs := by
  simp [singleSpaced, h]

/-- A blank becomes a space, or joins the blanks behind it. -/
theorem singleSpaced_blank {c : Char} (h : isBlank c = true) (cs : List Char) :
    singleSpaced (c :: cs) = singleSpaced cs ∨ singleSpaced (c :: cs) = ' ' :: singleSpaced cs := by
  simp only [singleSpaced, leadAndWords_blank h, words, consWord]
  split
  · rename_i hlead
    exact .inl (by simp [hlead])
  · exact .inr (by simp)

theorem singleSpaced_blank_blank {c d : Char} (hc : isBlank c = true) (hd : isBlank d = true)
    (cs : List Char) : singleSpaced (c :: d :: cs) = singleSpaced (d :: cs) := by
  simp [singleSpaced, words, hc, hd]

theorem singleSpaced_blank_not_blank {c d : Char} (hc : isBlank c = true) (hd : isBlank d = false)
    (cs : List Char) : singleSpaced (c :: d :: cs) = ' ' :: singleSpaced (d :: cs) := by
  simp [singleSpaced, words, hc, hd]

theorem singleSpaced_append {w : List Char} (h : NoBlank w) (cs : List Char) :
    singleSpaced (w ++ cs) = w ++ singleSpaced cs := by
  simp [singleSpaced, leadAndWords_append h]

/-! ### Its words -/

theorem unwords_cons_eq_flatMap (w : List Char) (ws : List (List Char)) :
    unwords (w :: ws) = w ++ ws.flatMap (' ' :: ·) := by
  induction ws generalizing w with
  | nil => simp
  | cons v vs ih => rw [unwords_cons_cons, ih, List.flatMap_cons, List.cons_append]

theorem words_flatMap_space {ws : List (List Char)} (h : ∀ w ∈ ws, IsWord w) :
    leadAndWords (ws.flatMap (' ' :: ·)) = ([], ws) := by
  induction ws with
  | nil => rfl
  | cons w ws ih =>
    have hw := h w (by simp)
    have ih := ih fun v hv => h v (List.mem_cons_of_mem _ hv)
    rw [List.flatMap_cons, List.cons_append, leadAndWords_blank (by decide),
      words_append hw.ne_nil hw.noBlank, ih, List.append_nil]

theorem mem_words_of_mem_later {cs w : List Char} (h : w ∈ (leadAndWords cs).2) :
    w ∈ words cs := by
  unfold words consWord
  split
  · exact h
  · exact List.mem_cons_of_mem _ h

theorem leadAndWords_singleSpaced (cs : List Char) :
    leadAndWords (singleSpaced cs) = leadAndWords cs := by
  obtain ⟨hlead, -⟩ := isBlank_of_mem_leadAndWords cs
  have hrest : ∀ w ∈ (leadAndWords cs).2, IsWord w := fun w hw =>
    isWord_of_mem_words (mem_words_of_mem_later hw)
  rw [singleSpaced, leadAndWords_append hlead, words_flatMap_space hrest, List.append_nil]

/-- **The words stay.** -/
theorem words_singleSpaced (cs : List Char) : words (singleSpaced cs) = words cs := by
  rw [words, leadAndWords_singleSpaced, words]

/-- **A text that starts with a word is put together single-spaced.** -/
theorem unwords_words_append {w : List Char} (hne : w ≠ []) (h : NoBlank w) (cs : List Char) :
    unwords (words (w ++ cs)) = singleSpaced (w ++ cs) := by
  rw [words_append hne h, unwords_cons_eq_flatMap, singleSpaced, leadAndWords_append h]

/-! ### What follows a character -/

/-- Up to a space in front, a text put together from its words is single-spaced. -/
theorem singleSpaced_eq_unwords_words (cs : List Char) :
    singleSpaced cs = unwords (words cs) ∨ singleSpaced cs = ' ' :: unwords (words cs) := by
  rw [singleSpaced, words]
  cases (leadAndWords cs).1 with
  | cons c lead => exact .inl (unwords_cons_eq_flatMap _ _).symm
  | nil =>
    cases (leadAndWords cs).2 with
    | nil => exact .inl rfl
    | cons w ws =>
      refine .inr ?_
      rw [consWord_nil, unwords_cons_eq_flatMap, List.nil_append, List.flatMap_cons,
        List.cons_append]

section After

variable {d : Char}

theorem after?_singleSpaced (hd : isBlank d = false) (cs : List Char) :
    after? d (singleSpaced cs) = (after? d cs).map singleSpaced := by
  have hspace : ' ' ≠ d := by
    rintro rfl
    exact absurd hd (by decide)
  induction cs with
  | nil => rfl
  | cons c cs ih =>
    cases hc : isBlank c with
    | false =>
      rw [singleSpaced_not_blank hc, after?, after?]
      split
      · rfl
      · exact ih
    | true =>
      have hne : c ≠ d := by
        rintro rfl
        simp [hc] at hd
      rw [after?_cons_of_ne hne, ← ih]
      rcases singleSpaced_blank hc cs with he | he
      · rw [he]
      · rw [he, after?_cons_of_ne hspace]

/-- **What follows a character that is no blank**, once the words are put together again. -/
theorem after?_unwords_words (hd : isBlank d = false) (cs : List Char) :
    after? d (unwords (words cs)) = (after? d cs).map singleSpaced := by
  have hspace : ' ' ≠ d := by
    rintro rfl
    exact absurd hd (by decide)
  rw [← after?_singleSpaced hd]
  rcases singleSpaced_eq_unwords_words cs with he | he
  · rw [he]
  · rw [he, after?_cons_of_ne hspace]

end After

/-! ### The words of a part -/

/-- The run of non-blanks that a text starts with ends at a blank, or with the text. -/
theorem exists_append_lead (cs : List Char) :
    ∃ rest, cs = (leadAndWords cs).1 ++ rest ∧ ∀ c ∈ rest.head?, isBlank c = true := by
  induction cs with
  | nil => exact ⟨[], rfl, by simp⟩
  | cons c cs ih =>
    cases hc : isBlank c with
    | true => exact ⟨c :: cs, by rw [leadAndWords_blank hc, List.nil_append], by simpa using hc⟩
    | false =>
      obtain ⟨rest, hcs, hrest⟩ := ih
      refine ⟨rest, ?_, hrest⟩
      rw [leadAndWords_not_blank hc, List.cons_append, ← hcs]

/-- A word behind a blank stays one, whatever stands in front of the text. -/
theorem mem_later_append {as bs w : List Char} (h : w ∈ (leadAndWords bs).2) :
    w ∈ (leadAndWords (as ++ bs)).2 := by
  induction as with
  | nil => exact h
  | cons a as ih =>
    cases ha : isBlank a with
    | false => rwa [List.cons_append, leadAndWords_not_blank ha]
    | true =>
      rw [List.cons_append, leadAndWords_blank ha]
      exact mem_words_of_mem_later ih

/-! ### Evenly spaced texts -/

/-- The text has no blanks but spaces, and no two of them side by side. -/
structure EvenlySpaced (cs : List Char) : Prop where
  spaces : ∀ c ∈ cs, isBlank c = true → c = ' '
  apart : cs.IsChain fun a b => isBlank a = true → isBlank b = false

namespace EvenlySpaced

theorem of_isInfix {as cs : List Char} (h : EvenlySpaced cs) (hlies : as <:+: cs) :
    EvenlySpaced as where
  spaces := fun c hc => h.spaces c (hlies.subset hc)
  apart := h.apart.infix hlies

theorem of_cons {c : Char} {cs : List Char} (h : EvenlySpaced (c :: cs)) : EvenlySpaced cs :=
  h.of_isInfix (List.suffix_cons c cs).isInfix

theorem cons_not_blank {c : Char} {cs : List Char} (hc : isBlank c = false)
    (h : EvenlySpaced cs) : EvenlySpaced (c :: cs) where
  spaces := by
    intro d hd hblank
    rcases List.mem_cons.mp hd with rfl | hd
    · simp [hc] at hblank
    · exact h.spaces d hd hblank
  apart := h.apart.cons fun _ _ hblank => by simp [hc] at hblank

theorem cons_space {d : Char} {cs : List Char} (hd : isBlank d = false)
    (h : EvenlySpaced (d :: cs)) : EvenlySpaced (' ' :: d :: cs) where
  spaces := by
    intro c hc hblank
    rcases List.mem_cons.mp hc with rfl | hc
    · rfl
    · exact h.spaces c hc hblank
  apart := List.isChain_cons_cons.mpr ⟨fun _ => hd, h.apart⟩

/-- Single-spacing an evenly spaced text drops at most a space at its end. -/
theorem singleSpaced_eq_self {cs : List Char} (h : EvenlySpaced cs)
    (hlast : ∀ c ∈ cs.getLast?, isBlank c = false) : singleSpaced cs = cs := by
  induction cs with
  | nil => rfl
  | cons c cs ih =>
    cases cs with
    | nil =>
      have hc : isBlank c = false := hlast c rfl
      rw [singleSpaced_not_blank hc, singleSpaced_nil]
    | cons d ds =>
      have ih := ih h.of_cons (by simpa using hlast)
      cases hc : isBlank c with
      | false => rw [singleSpaced_not_blank hc, ih]
      | true =>
        have hd : isBlank d = false := (List.isChain_cons_cons.mp h.apart).1 hc
        rw [singleSpaced_blank_not_blank hc hd, ih, h.spaces c List.mem_cons_self hc]

end EvenlySpaced

/-- **A single-spaced text is evenly spaced.** -/
theorem evenlySpaced_singleSpaced (cs : List Char) : EvenlySpaced (singleSpaced cs) := by
  induction cs with
  | nil => exact ⟨by simp, by simp⟩
  | cons c cs ih =>
    cases hc : isBlank c with
    | false =>
      rw [singleSpaced_not_blank hc]
      exact ih.cons_not_blank hc
    | true =>
      cases cs with
      | nil =>
        have hnone : singleSpaced [c] = [] := by simp [singleSpaced, hc]
        rwa [hnone]
      | cons d ds =>
        cases hd : isBlank d with
        | true => rwa [singleSpaced_blank_blank hc hd]
        | false =>
          rw [singleSpaced_blank_not_blank hc hd]
          rw [singleSpaced_not_blank hd] at ih ⊢
          exact ih.cons_space hd

/-- The blanks at the two ends of a text stand around what is left of it. -/
theorem exists_append_trimBlanks (cs : List Char) :
    ∃ front back, cs = front ++ trimBlanks cs ++ back ∧ (∀ c ∈ front, isBlank c = true) ∧
      ∀ c ∈ back, isBlank c = true := by
  refine ⟨cs.takeWhile isBlank, (cs.dropWhile isBlank).rtakeWhile isBlank, ?_, ?_, ?_⟩
  · change cs = _ ++ (cs.dropWhile isBlank).rdropWhile isBlank ++ _
    rw [List.append_assoc, List.rdropWhile_append_rtakeWhile, List.takeWhile_append_dropWhile]
  · exact fun c hc => List.mem_takeWhile_imp hc
  · exact fun c hc => List.mem_rtakeWhile_imp hc

theorem trimBlanks_isInfix (cs : List Char) : trimBlanks cs <:+: cs := by
  obtain ⟨front, back, hcs, -, -⟩ := exists_append_trimBlanks cs
  exact ⟨front, back, hcs.symm⟩

theorem isBlank_head_trimBlanks (cs : List Char) :
    ∀ c ∈ (trimBlanks cs).head?, isBlank c = false := by
  intro c hc
  obtain ⟨back, hback⟩ : trimBlanks cs <+: cs.dropWhile isBlank := List.rdropWhile_prefix isBlank _
  have hhead : (cs.dropWhile isBlank).head? = some c := by
    rw [← hback, List.head?_append, hc, Option.some_or]
  have hnot := List.head?_dropWhile_not isBlank cs
  rw [hhead] at hnot
  simpa using hnot

theorem isBlank_last_trimBlanks (cs : List Char) :
    ∀ c ∈ (trimBlanks cs).getLast?, isBlank c = false := by
  intro c hc
  have hne : trimBlanks cs ≠ [] := by
    intro hnil
    simp [hnil] at hc
  have hnot := List.rdropWhile_last_not isBlank (cs.dropWhile isBlank) hne
  rw [List.getLast?_eq_some_getLast hne, Option.mem_some_iff] at hc
  change ¬isBlank ((trimBlanks cs).getLast hne) = true at hnot
  simpa [hc] using hnot

/-- **What is left of an evenly spaced text** without the blanks at its ends is tidy. -/
theorem tidy_trimBlanks {cs : List Char} (h : EvenlySpaced cs) (hne : trimBlanks cs ≠ []) :
    Tidy (trimBlanks cs) where
  ne_nil := hne
  unwords_words := by
    have heven := h.of_isInfix (trimBlanks_isInfix cs)
    have hself := heven.singleSpaced_eq_self (isBlank_last_trimBlanks cs)
    obtain ⟨c, rest, hcs⟩ := List.exists_cons_of_ne_nil hne
    have hc : isBlank c = false := isBlank_head_trimBlanks cs c (by rw [hcs]; rfl)
    have hwords := unwords_words_append (w := [c]) (by simp) (by simpa [NoBlank] using hc) rest
    rw [List.singleton_append, ← hcs, hself] at hwords
    exact hwords

end ExploitReplay.Text
