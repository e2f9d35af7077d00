/-!
# Blanks and words

A text is read as the words between its blanks. The blank characters are the white space and the
separator controls of Unicode; joiners and byte-order marks are not among them.

## Main definitions

* `isBlank c`: the character separates words
* `words cs`: the maximal runs of non-blank characters, in order
* `unwords ws`: the words with one space between neighbours
* `trimBlanks cs`: the text without the blanks at its two ends

## Main results

* `isBlank_of_mem_words`: no word holds a blank
* `words_blank_cons`, `words_of_forall_not_blank`: words of a text that starts with a blank, and of
  a single word
-/

namespace ExploitReplay.Text

/-- The characters that separate words: tab to carriage return, the four separator controls, the
space, and the other white space of Unicode. -/
def isBlank (c : Char) : Bool :=
  let n := c.toNat
  (0x9 ≤ n && n ≤ 0xD) || (0x1C ≤ n && n ≤ 0x20) || n == 0x85 || n == 0xA0 || n == 0x1680 ||
    (0x2000 ≤ n && n ≤ 0x200A) || n == 0x2028 || n == 0x2029 || n == 0x202F || n == 0x205F ||
    n == 0x3000

/-! ### Words -/

/-- A word in front of a list of words, unless it is empty. -/
def consWord (w : List Char) (ws : List (List Char)) : List (List Char) :=
  if w = [] then ws else w :: ws

/-- The run of non-blanks that a text starts with, and the words after it. -/
def leadAndWords : List Char → List Char × List (List Char)
  | [] => ([], [])
  | c :: cs =>
    let (lead, rest) := leadAndWords cs
    if isBlank c then ([], consWord lead rest) else (c :: lead, rest)

/-- The maximal runs of non-blank characters of a text, in order. -/
def words (cs : List Char) : List (List Char) :=
  consWord (leadAndWords cs).1 (leadAndWords cs).2

/-- The words of a list with one space between neighbours. -/
def unwords (ws : List (List Char)) : List Char :=
  [' '].intercalate ws

@[simp] theorem consWord_nil (ws : List (List Char)) : consWord [] ws = ws := rfl

@[simp] theorem consWord_cons (c : Char) (w : List Char) (ws : List (List Char)) :
    consWord (c :: w) ws = (c :: w) :: ws := rfl

@[simp] theorem leadAndWords_blank {c : Char} (h : isBlank c = true) (cs : List Char) :
    leadAndWords (c :: cs) = ([], words cs) := by
  simp [leadAndWords, words, h]

@[simp] theorem leadAndWords_not_blank {c : Char} (h : isBlank c = false) (cs : List Char) :
    leadAndWords (c :: cs) = (c :: (leadAndWords cs).1, (leadAndWords cs).2) := by
  simp [leadAndWords, h]

@[simp] theorem words_nil : words [] = [] := rfl

theorem words_blank_cons {c : Char} (h : isBlank c = true) (cs : List Char) :
    words (c :: cs) = words cs := by
  simp [words, h]

theorem leadAndWords_of_forall_not_blank {w : List Char} (h : ∀ c ∈ w, isBlank c = false) :
    leadAndWords w = (w, []) := by
  induction w with
  | nil => rfl
  | cons c w ih =>
    rw [leadAndWords_not_blank (h c (by simp)), ih fun d hd => h d (by simp [hd])]

/-- A text without blanks is one word. -/
theorem words_of_forall_not_blank {w : List Char} (hw : w ≠ [])
    (h : ∀ c ∈ w, isBlank c = false) : words w = [w] := by
  obtain ⟨c, w, rfl⟩ := List.exists_cons_of_ne_nil hw
  simp [words, leadAndWords_of_forall_not_blank h]

theorem isBlank_of_mem_leadAndWords (cs : List Char) :
    (∀ c ∈ (leadAndWords cs).1, isBlank c = false) ∧
      ∀ w ∈ (leadAndWords cs).2, ∀ c ∈ w, isBlank c = false := by
  induction cs with
  | nil => simp [leadAndWords]
  | cons c cs ih =>
    obtain ⟨hl, hr⟩ := ih
    cases hc : isBlank c with
    | false =>
      rw [leadAndWords_not_blank hc]
      refine ⟨fun d hd => ?_, hr⟩
      rcases List.mem_cons.mp hd with rfl | hd
      · exact hc
      · exact hl d hd
    | true =>
      rw [leadAndWords_blank hc]
      refine ⟨by simp, fun w hw => ?_⟩
      unfold words consWord at hw
      split at hw
      · exact hr w hw
      · rcases List.mem_cons.mp hw with rfl | hw
        · exact hl
        · exact hr w hw

/-- **No word holds a blank.** -/
theorem isBlank_of_mem_words {cs w : List Char} (hw : w ∈ words cs) {c : Char} (hc : c ∈ w) :
    isBlank c = false := by
  obtain ⟨hl, hr⟩ := isBlank_of_mem_leadAndWords cs
  unfold words consWord at hw
  split at hw
  · exact hr w hw c hc
  · rcases List.mem_cons.mp hw with rfl | hw
    · exact hl c hc
    · exact hr w hw c hc

/-! ### Trimming -/

/-- The text without the blanks at its two ends. -/
def trimBlanks (cs : List Char) : List Char :=
  ((cs.dropWhile isBlank).reverse.dropWhile isBlank).reverse

@[simp] theorem trimBlanks_nil : trimBlanks [] = [] := rfl

/-- The text without the blanks at its two ends, as a string. -/
def trim (s : String) : String :=
  String.ofList (trimBlanks s.toList)

end ExploitReplay.Text
