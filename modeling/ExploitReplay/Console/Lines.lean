import ExploitReplay.Text.Blank
import ExploitReplay.Text.Cluster

/-!
# Lines of a terminal

A tab leads to the next tab stop. A line that is too long for its columns is broken between words. A
word that is still too long then is cut into pieces, or kept whole and cut short.

## Main definitions

* `expandTabs cs`: a line with blanks in the place of its tabs
* `phrases cs`: the words of a line, with the blanks around them
* `chopped w word`: the pieces of a word that is too long
* `broken cut w cs`: the lines that a line is broken into
* `framed w cs`: a line in exactly `w` columns

## Main results

* `flatten_phrases`: no character of a line is lost between its words
* `flatten_broken`: nor is one where a line is broken
-/

namespace ExploitReplay.Line

/-! ### Tabs -/

/-- The distance between tab stops. -/
def tabStop : Nat := 8

/-- The parts of a line that has got to a column, with blanks for the tab after every part but the
last. A tab is at least one blank. -/
def expandFrom (column : Nat) : List (List Char) → List Char
  | [] => []
  | [part] => part
  | part :: rest =>
    let cell := part ++ [' ']
    let reached := column + Text.columnsOf cell
    let blanks := (tabStop - reached % tabStop) % tabStop
    cell ++ List.replicate blanks ' ' ++ expandFrom (reached + blanks) rest

/-- A line with blanks in the place of its tabs. -/
def expandTabs (cs : List Char) : List Char :=
  expandFrom 0 (cs.splitOn '\t')

/-! ### Breaking -/

/-- The words of a line after the beginning of one, which has been `seen` if it is more than
blanks. -/
def phrasesFrom (seen : Bool) (start : List Char) : List Char → List (List Char)
  | [] => if seen then [start] else []
  | c :: cs =>
    if Text.isBlank c then phrasesFrom seen (start ++ [c]) cs
    else if seen && start.getLast?.any Text.isBlank then start :: phrasesFrom true [c] cs
    else phrasesFrom true (start ++ [c]) cs

/-- The words of a line, each with the blanks after it, and the first one also with those before
it. -/
def phrases (cs : List Char) : List (List Char) :=
  phrasesFrom false [] cs

/-- A text without the blanks at its end. -/
def trimEnd (cs : List Char) : List Char :=
  (cs.reverse.dropWhile Text.isBlank).reverse

/-- The pieces of `w` columns that the clusters of a word make after the beginning of one, of which
some columns are used. -/
def choppedFrom (w : Nat) (piece : List Char) (used : Nat) :
    List Text.Cluster → List (List Char)
  | [] => [piece]
  | g :: rest =>
    if used + g.columns ≤ w then choppedFrom w (piece ++ g.text) (used + g.columns) rest
    else piece :: choppedFrom w g.text g.columns rest

/-- The pieces of `w` columns that a word is cut into. -/
def chopped (w : Nat) (word : List Char) : List (List Char) :=
  choppedFrom w [] 0 (Text.clusters word)

/-- The lines of `w` columns that words make after the beginning of one, of which some columns are
used. A word that is too long for any line is cut, and gets lines of its own. -/
def filled (cut : List Char → List (List Char)) (w : Nat) (line : List Char) (used : Nat) :
    List (List Char) → List (List Char)
  | [] => [line]
  | word :: rest =>
    let needed := Text.columnsOf (trimEnd word)
    if used + needed ≤ w then filled cut w (line ++ word) (used + Text.columnsOf word) rest
    else if line = [] ∨ w < needed ∨ used ≠ 0 then
      let pieces := if w < needed then cut word else [word]
      let last := pieces.getLast?.getD []
      (if line = [] then [] else [line]) ++ pieces.dropLast ++
        filled cut w last (Text.columnsOf last) rest
    else filled cut w (line ++ word) used rest

/-- The lines of `w` columns that a line is broken into. A line of blanks is not broken. -/
def broken (cut : List Char → List (List Char)) (w : Nat) (cs : List Char) : List (List Char) :=
  if phrases cs = [] then [cs] else filled cut w [] 0 (phrases cs)

/-! ### Fitting -/

/-- A line without blanks at its end that are beyond its `w`th character. -/
def withoutExcess (w : Nat) (cs : List Char) : List Char :=
  let blanks := cs.length - (trimEnd cs).length
  cs.take (cs.length - min blanks (cs.length - w))

/-- The mark at the end of a line that is cut short. -/
def ellipsis : Char := '…'

/-- A line in exactly `w` columns: with blanks after it, or cut short. A joiner at its end takes the
first blank, for which there is one more. -/
def framed (w : Nat) (cs : List Char) : List Char :=
  let line := withoutExcess w cs
  Text.padded w
    (if Text.columnsOf line ≤ w then Text.padded w line
      else Text.fitted (w - 1) line ++ [ellipsis])

/-! ### Nothing is lost -/

theorem flatten_phrasesFrom (start cs : List Char) :
    (phrasesFrom true start cs).flatten = start ++ cs := by
  induction cs generalizing start with
  | nil => simp [phrasesFrom]
  | cons c cs ih =>
    unfold phrasesFrom
    split
    · simp [ih]
    split <;> simp [ih]

/-- A line that has a word is made up of its words. -/
theorem flatten_phrases {cs : List Char} (h : ∃ c ∈ cs, Text.isBlank c = false) :
    (phrases cs).flatten = cs := by
  have general : ∀ start, (phrasesFrom false start cs).flatten = start ++ cs := by
    induction cs with
    | nil => simp at h
    | cons c cs ih =>
      intro start
      unfold phrasesFrom
      split
      · next blank =>
        have rest : ∃ d ∈ cs, Text.isBlank d = false := by
          obtain ⟨d, hd, hb⟩ := h
          rcases List.mem_cons.mp hd with rfl | hd
          · simp [blank] at hb
          · exact ⟨d, hd, hb⟩
        simp [ih rest]
      · simp [flatten_phrasesFrom]
  simpa [phrases] using general []

/-- A word that is cut is made up of its pieces. -/
theorem flatten_chopped (w : Nat) (word : List Char) : (chopped w word).flatten = word := by
  have general : ∀ (gs : List Text.Cluster) (piece : List Char) (used : Nat),
      (choppedFrom w piece used gs).flatten = piece ++ gs.flatMap Text.Cluster.text := by
    intro gs
    induction gs with
    | nil => simp [choppedFrom]
    | cons g rest ih =>
      intro piece used
      unfold choppedFrom
      split <;> simp [ih]
  rw [chopped, general, List.nil_append, Text.flatten_clusters]

theorem flatten_filled {cut : List Char → List (List Char)}
    (hcut : ∀ word, (cut word).flatten = word) (w : Nat) (words : List (List Char))
    (line : List Char) (used : Nat) :
    (filled cut w line used words).flatten = line ++ words.flatten := by
  have hpieces : ∀ pieces : List (List Char),
      pieces.dropLast.flatten ++ pieces.getLast?.getD [] = pieces.flatten := by
    intro pieces
    rcases List.eq_nil_or_concat pieces with rfl | ⟨front, last, rfl⟩
    · rfl
    · simp
  induction words generalizing line used with
  | nil => simp [filled]
  | cons word rest ih =>
    have hword : (if w < Text.columnsOf (trimEnd word) then cut word else [word]).flatten =
        word := by
      split
      · exact hcut word
      · simp
    simp only [filled]
    split
    · simp [ih]
    split
    · rw [List.flatten_append, List.flatten_append, ih, List.append_assoc,
        ← List.append_assoc (List.flatten (List.dropLast _)), hpieces, hword]
      split <;> simp_all
    · simp [ih]

/-- **Breaking a line loses none of it.** -/
theorem flatten_broken {cut : List Char → List (List Char)}
    (hcut : ∀ word, (cut word).flatten = word) (w : Nat) (cs : List Char) :
    (broken cut w cs).flatten = cs := by
  unfold broken
  split
  · simp
  · next words =>
    rw [flatten_filled hcut, List.nil_append, flatten_phrases]
    refine Classical.byContradiction fun none => ?_
    have blanks : ∀ (cs start : List Char), (∀ c ∈ cs, Text.isBlank c = true) →
        phrasesFrom false start cs = [] := by
      intro cs
      induction cs with
      | nil => simp [phrasesFrom]
      | cons c cs ih =>
        intro start all
        simp [phrasesFrom, all c (List.mem_cons_self ..),
          ih (start ++ [c]) fun d hd => all d (List.mem_cons_of_mem _ hd)]
    exact words (blanks cs [] fun c hc => by simpa using fun hb => none ⟨c, hc, hb⟩)

end ExploitReplay.Line
