import ExploitReplay.Proofs.Text.Cut
import ExploitReplay.Text.Blank
import Mathlib.Data.List.DropRight

/-!
# Words of composed texts

How the words of a text arise from those of its parts. Parts with a blank between them keep their
words; parts that touch share one. A text is tidy if it is what its words make with single spaces;
tidy texts survive being cut into words and put together again.

## Main definitions

* `NoBlank w`, `IsWord w`: a text without blanks, and one that is not empty
* `Tidy cs`: a text that is not empty and is made of its words

## Main results

* `words_append_blank`: the words of two texts with a blank between them
* `words_unwords`: the words that were put together are found again
* `Tidy.words_word_append`, `Tidy.words_append_word`: a text that touches a tidy one
* `Tidy.unwords`: tidy texts with single spaces between them
-/

namespace ExploitReplay.Text

/-! ### Words of two texts -/

theorem consWord_append (w : List Char) (ws vs : List (List Char)) :
    consWord w (ws ++ vs) = consWord w ws ++ vs := by
  unfold consWord
  split <;> rfl

theorem leadAndWords_append_blank {c : Char} (h : isBlank c = true) (as bs : List Char) :
    leadAndWords (as ++ c :: bs) = ((leadAndWords as).1, (leadAndWords as).2 ++ words bs) := by
  induction as with
  | nil => simp [h, leadAndWords]
  | cons a as ih =>
    cases ha : isBlank a with
    | true => simp [ha, words, ih, consWord_append]
    | false => simp [ha, ih]

/-- **The words of two texts with a blank between them.** -/
theorem words_append_blank {c : Char} (h : isBlank c = true) (as bs : List Char) :
    words (as ++ c :: bs) = words as ++ words bs := by
  simp only [words, leadAndWords_append_blank h, consWord_append]

/-- A text without blanks. -/
def NoBlank (w : List Char) : Prop :=
  ∀ c ∈ w, isBlank c = false

instance : DecidablePred NoBlank := fun w =>
  decidable_of_iff (w.all fun c => !isBlank c) (by simp [NoBlank])

theorem leadAndWords_append {w : List Char} (h : NoBlank w) (cs : List Char) :
    leadAndWords (w ++ cs) = (w ++ (leadAndWords cs).1, (leadAndWords cs).2) := by
  induction w with
  | nil => rfl
  | cons c w ih =>
    rw [List.cons_append, leadAndWords_not_blank (h c (by simp)), ih fun d hd => h d (by simp [hd])]
    rfl

/-- A text without blanks in front joins the first word. -/
theorem words_append {w : List Char} (hne : w ≠ []) (h : NoBlank w)
    (cs : List Char) : words (w ++ cs) = (w ++ (leadAndWords cs).1) :: (leadAndWords cs).2 := by
  rw [words, leadAndWords_append h, consWord, if_neg (by simp [hne])]

theorem NoBlank.append {w v : List Char} (hw : NoBlank w)
    (hv : NoBlank v) : NoBlank (w ++ v) := by
  intro c hc
  rcases List.mem_append.mp hc with hc | hc
  · exact hw c hc
  · exact hv c hc

/-! ### Words put together -/

/-- A text without blanks that is not empty. -/
structure IsWord (w : List Char) : Prop where
  ne_nil : w ≠ []
  noBlank : NoBlank w

instance : DecidablePred IsWord := fun w =>
  decidable_of_iff (w ≠ [] ∧ NoBlank w) ⟨fun h => ⟨h.1, h.2⟩, fun h => ⟨h.1, h.2⟩⟩

@[simp] theorem unwords_nil : unwords [] = [] := rfl

@[simp] theorem unwords_singleton (w : List Char) : unwords [w] = w := by
  simp [unwords]

theorem unwords_cons_cons (w v : List Char) (vs : List (List Char)) :
    unwords (w :: v :: vs) = w ++ ' ' :: unwords (v :: vs) := by
  simp [unwords, List.intercalate_cons_cons]

theorem unwords_cons {ws : List (List Char)} (h : ws ≠ []) (w : List Char) :
    unwords (w :: ws) = w ++ ' ' :: unwords ws := by
  obtain ⟨v, vs, rfl⟩ := List.exists_cons_of_ne_nil h
  exact unwords_cons_cons w v vs

theorem unwords_append_unwords {ws vs : List (List Char)} (hw : ws ≠ []) (hv : vs ≠ []) :
    unwords (ws ++ vs) = unwords ws ++ ' ' :: unwords vs := by
  induction ws with
  | nil => exact absurd rfl hw
  | cons w ws ih =>
    cases ws with
    | nil => rw [List.singleton_append, unwords_cons hv, unwords_singleton]
    | cons u us =>
      rw [List.cons_append, unwords_cons (by simp), ih (by simp), unwords_cons_cons]
      simp

theorem toList_intercalate_space (parts : List String) :
    (" ".intercalate parts).toList = unwords (parts.map String.toList) := by
  have hspace : " ".toList = [' '] := by decide
  rw [String.toList_intercalate, hspace]
  rfl

/-- What follows the first of several texts holds the words of the others. -/
theorem exists_unwords_cons (w : List Char) (ws : List (List Char)) :
    ∃ rest, unwords (w :: ws) = w ++ rest ∧ words rest = words (unwords ws) := by
  cases ws with
  | nil => exact ⟨[], by simp, rfl⟩
  | cons v vs =>
    exact ⟨' ' :: unwords (v :: vs), unwords_cons_cons w v vs, words_blank_cons (by decide) _⟩

theorem exists_unwords_concat (ws : List (List Char)) (w : List Char) :
    ∃ rest, unwords (ws ++ [w]) = rest ++ w := by
  by_cases hws : ws = []
  · exact ⟨[], by simp [hws]⟩
  · exact ⟨unwords ws ++ [' '], by simp [unwords_append_unwords hws]⟩

/-- The words of texts with single spaces between them are the words of all of them. -/
theorem words_unwords_eq_flatMap (parts : List (List Char)) :
    words (unwords parts) = parts.flatMap words := by
  induction parts with
  | nil => rfl
  | cons p ps ih =>
    cases ps with
    | nil => simp
    | cons q qs =>
      rw [unwords_cons_cons, words_append_blank (by decide), ih]
      rfl

theorem words_of_isWord {w : List Char} (h : IsWord w) : words w = [w] :=
  words_of_forall_not_blank h.ne_nil h.noBlank

theorem flatMap_words {ws : List (List Char)} (h : ∀ w ∈ ws, IsWord w) : ws.flatMap words = ws := by
  induction ws with
  | nil => rfl
  | cons w ws ih =>
    rw [List.flatMap_cons, words_of_isWord (h w (by simp)), ih fun v hv => h v (by simp [hv])]
    rfl

/-- **The words that were put together are found again.** -/
theorem words_unwords {ws : List (List Char)} (h : ∀ w ∈ ws, IsWord w) : words (unwords ws) = ws := by
  rw [words_unwords_eq_flatMap, flatMap_words h]

theorem nil_not_mem_words (cs : List Char) : [] ∉ words cs := by
  have hcons : ∀ (w : List Char) (ws : List (List Char)), [] ∉ ws → [] ∉ consWord w ws := by
    intro w ws h
    unfold consWord
    split
    · exact h
    · rename_i hw
      simp [h, Ne.symm hw]
  -- a run that ends at a blank becomes a word only if it is not empty
  have hrest : [] ∉ (leadAndWords cs).2 := by
    induction cs with
    | nil => simp [leadAndWords]
    | cons c cs ih =>
      cases hc : isBlank c with
      | true =>
        rw [leadAndWords_blank hc]
        exact hcons _ _ ih
      | false =>
        rw [leadAndWords_not_blank hc]
        exact ih
  exact hcons _ _ hrest

theorem isWord_of_mem_words {cs w : List Char} (h : w ∈ words cs) : IsWord w where
  ne_nil := fun he => nil_not_mem_words cs (he ▸ h)
  noBlank := fun _ hc => isBlank_of_mem_words h hc

theorem mem_consWord {v w : List Char} {ws : List (List Char)} (h : v ∈ consWord w ws) :
    v = w ∨ v ∈ ws := by
  unfold consWord at h
  split at h
  · exact .inr h
  · exact List.mem_cons.mp h

/-- A word stands in the text as it is. -/
theorem infix_of_mem_words {cs w : List Char} (h : w ∈ words cs) : w <:+: cs := by
  -- the run a text starts with is a prefix of it, the words after that lie further in
  have hparts : (leadAndWords cs).1 <+: cs ∧ ∀ v ∈ (leadAndWords cs).2, v <:+: cs := by
    clear h
    induction cs with
    | nil => simp [leadAndWords]
    | cons c cs ih =>
      obtain ⟨hlead, hrest⟩ := ih
      cases hc : isBlank c with
      | false =>
        rw [leadAndWords_not_blank hc]
        exact ⟨List.cons_prefix_cons.mpr ⟨rfl, hlead⟩, fun v hv => List.infix_cons (hrest v hv)⟩
      | true =>
        rw [leadAndWords_blank hc]
        refine ⟨List.nil_prefix, fun v hv => List.infix_cons ?_⟩
        rcases mem_consWord hv with rfl | hv
        · exact hlead.isInfix
        · exact hrest v hv
  rcases mem_consWord h with rfl | hw
  · exact hparts.1.isInfix
  · exact hparts.2 w hw

/-! ### A text that touches words -/

/-- A text that touches the first word. -/
theorem append_unwords {ws : List (List Char)} (h : ws ≠ []) (w : List Char) :
    w ++ unwords ws = unwords (onFirst (w ++ ·) ws) := by
  obtain ⟨v, vs, rfl⟩ := List.exists_cons_of_ne_nil h
  cases vs with
  | nil => simp [onFirst]
  | cons u us => simp [onFirst, unwords_cons_cons]

/-- A text that touches the last word. -/
theorem unwords_append {ws : List (List Char)} (h : ws ≠ []) (w : List Char) :
    unwords ws ++ w = unwords (onLast (· ++ w) ws) := by
  induction ws with
  | nil => exact absurd rfl h
  | cons v vs ih =>
    cases vs with
    | nil => simp [onLast]
    | cons u us =>
      have hne : onLast (· ++ w) (u :: us) ≠ [] := by
        intro he
        simpa using congrArg List.length he
      rw [unwords_cons_cons, onLast, unwords_cons hne, ← ih (by simp)]
      simp

theorem isWord_append {w v : List Char} (hw : NoBlank w) (hv : IsWord v) :
    IsWord (w ++ v) where
  ne_nil := by simp [hv.ne_nil]
  noBlank := hw.append hv.noBlank

theorem append_isWord {w v : List Char} (hw : IsWord w) (hv : NoBlank v) :
    IsWord (w ++ v) where
  ne_nil := by simp [hw.ne_nil]
  noBlank := hw.noBlank.append hv

/-! ### Tidy texts -/

/-- A text that is not empty and is made of its words with single spaces between them. -/
structure Tidy (cs : List Char) : Prop where
  ne_nil : cs ≠ []
  unwords_words : unwords (words cs) = cs

instance : DecidablePred Tidy := fun cs =>
  decidable_of_iff (cs ≠ [] ∧ unwords (words cs) = cs)
    ⟨fun h => ⟨h.1, h.2⟩, fun h => ⟨h.1, h.2⟩⟩

theorem tidy_of_isWord {w : List Char} (h : IsWord w) : Tidy w where
  ne_nil := h.ne_nil
  unwords_words := by rw [words_of_isWord h, unwords_singleton]

namespace Tidy

variable {cs ds w : List Char}

theorem words_ne_nil (h : Tidy cs) : words cs ≠ [] := by
  intro hnil
  have hcs := h.unwords_words
  rw [hnil, unwords_nil] at hcs
  exact h.ne_nil hcs.symm

/-- **A text that touches the first word of a tidy one.** -/
theorem words_word_append (h : Tidy cs) (hw : NoBlank w) :
    words (w ++ cs) = onFirst (w ++ ·) (words cs) := by
  have hcs := append_unwords h.words_ne_nil w
  rw [h.unwords_words] at hcs
  rw [hcs, words_unwords]
  intro v hv
  rcases mem_onFirst hv with hv | ⟨u, hu, rfl⟩
  · exact isWord_of_mem_words hv
  · exact isWord_append hw (isWord_of_mem_words hu)

/-- **A text that touches the last word of a tidy one.** -/
theorem words_append_word (h : Tidy cs) (hw : NoBlank w) :
    words (cs ++ w) = onLast (· ++ w) (words cs) := by
  have hcs := unwords_append h.words_ne_nil w
  rw [h.unwords_words] at hcs
  rw [hcs, words_unwords]
  intro v hv
  rcases mem_onLast hv with hv | ⟨u, hu, rfl⟩
  · exact isWord_of_mem_words hv
  · exact append_isWord (isWord_of_mem_words hu) hw

theorem word_append (h : Tidy cs) (hw : NoBlank w) : Tidy (w ++ cs) where
  ne_nil := by simp [h.ne_nil]
  unwords_words := by
    rw [h.words_word_append hw, ← append_unwords h.words_ne_nil, h.unwords_words]

theorem append_word (h : Tidy cs) (hw : NoBlank w) : Tidy (cs ++ w) where
  ne_nil := by simp [h.ne_nil]
  unwords_words := by
    rw [h.words_append_word hw, ← unwords_append h.words_ne_nil, h.unwords_words]

/-- Two tidy texts with a space between them. -/
theorem append_space (hc : Tidy cs) (hd : Tidy ds) : Tidy (cs ++ ' ' :: ds) where
  ne_nil := by simp
  unwords_words := by
    rw [words_append_blank (by decide), unwords_append_unwords hc.words_ne_nil hd.words_ne_nil,
      hc.unwords_words, hd.unwords_words]

/-! ### The ends of a tidy text -/

theorem isBlank_head (h : Tidy cs) : ∀ c ∈ cs.head?, isBlank c = false := by
  obtain ⟨w, ws, hws⟩ := List.exists_cons_of_ne_nil h.words_ne_nil
  have hmem : w ∈ words cs := by simp [hws]
  have hw : IsWord w := isWord_of_mem_words hmem
  obtain ⟨rest, hrest, -⟩ := exists_unwords_cons w ws
  obtain ⟨d, w, rfl⟩ := List.exists_cons_of_ne_nil hw.ne_nil
  rw [← h.unwords_words, hws, hrest]
  intro c hc
  obtain rfl : d = c := by simpa using hc
  exact hw.noBlank d (by simp)

theorem isBlank_last (h : Tidy cs) : ∀ c ∈ cs.getLast?, isBlank c = false := by
  have hw : IsWord ((words cs).getLast h.words_ne_nil) :=
    isWord_of_mem_words (List.getLast_mem h.words_ne_nil)
  obtain ⟨rest, hrest⟩ :=
    exists_unwords_concat (words cs).dropLast ((words cs).getLast h.words_ne_nil)
  rw [List.dropLast_concat_getLast, h.unwords_words] at hrest
  rw [hrest, List.getLast?_append, List.getLast?_eq_some_getLast hw.ne_nil]
  intro c hc
  obtain rfl : _ = c := by simpa using hc
  exact hw.noBlank _ (List.getLast_mem hw.ne_nil)

/-- A tidy text has no blanks to trim. -/
theorem trimBlanks (h : Tidy cs) : Text.trimBlanks cs = cs := by
  have hdrop : ∀ {ds : List Char}, (∀ c ∈ ds.head?, Text.isBlank c = false) →
      ds.dropWhile Text.isBlank = ds := by
    intro ds hds
    cases ds with
    | nil => rfl
    | cons d ds => simp [hds d rfl]
  rw [Text.trimBlanks, hdrop h.isBlank_head, hdrop, List.reverse_reverse]
  rw [List.head?_reverse]
  exact h.isBlank_last

end Tidy

/-- **Trimming once is enough**: no blank is left at either end. -/
theorem trimBlanks_trimBlanks (cs : List Char) : trimBlanks (trimBlanks cs) = trimBlanks cs := by
  -- the text is trimmed at its front, then at its back, which leaves a prefix with the same head
  have hfront : (trimBlanks cs).dropWhile isBlank = trimBlanks cs := by
    obtain ⟨back, hback⟩ : trimBlanks cs <+: cs.dropWhile isBlank :=
      List.rdropWhile_prefix isBlank _
    rw [List.dropWhile_eq_self_iff]
    intro hlength
    have hlength' : 0 < (cs.dropWhile isBlank).length := by
      rw [← hback, List.length_append]
      omega
    have hhead := List.dropWhile_eq_self_iff.mp (List.dropWhile_idempotent isBlank cs) hlength'
    simpa [← hback, List.getElem_append_left hlength] using hhead
  change ((trimBlanks cs).dropWhile isBlank).rdropWhile isBlank = trimBlanks cs
  rw [hfront]
  exact List.rdropWhile_idempotent isBlank _

theorem trim_trim (s : String) : trim (trim s) = trim s := by
  rw [trim, trim, String.toList_ofList, trimBlanks_trimBlanks]

theorem trimBlanks_blank_cons {c : Char} (h : isBlank c = true) (cs : List Char) :
    trimBlanks (c :: cs) = trimBlanks cs := by
  simp [trimBlanks, h]

/-- **Tidy texts with single spaces between them** are tidy. -/
theorem Tidy.unwords {parts : List (List Char)} (hne : parts ≠ []) (h : ∀ p ∈ parts, Tidy p) :
    Tidy (Text.unwords parts) := by
  induction parts with
  | nil => exact absurd rfl hne
  | cons p ps ih =>
    cases ps with
    | nil => simpa using h p (by simp)
    | cons q qs =>
      rw [unwords_cons_cons]
      exact (h p (by simp)).append_space (ih (by simp) fun r hr => h r (List.mem_cons_of_mem _ hr))

end ExploitReplay.Text
