import ExploitReplay.Text.Blank

/-!
# Braces and indentation

A text is read line by line, with the number of braces that are open. It is laid out if every line
is indented by four spaces for each open brace, and a line that starts with a closing brace by four
less. Texts whose braces are balanced can be put one below the other, and between braces one level
further in.

## Main definitions

* `openBraces cs`: how many braces a text opens and does not close
* `Balanced cs`: all braces are closed, and none before it is opened
* `IsInline cs`: there are neither braces nor line breaks in a text
* `IsFragment cs`, `IsStatement cs`: a text that can be written inside a line, and at its start
* `IsIndented d line`: the line is indented for `d` open braces
* `LaidOut d lines`: the lines are balanced and indented, where `d` braces are open before them

## Main results

* `Balanced.append`, `Balanced.enclose`: balanced texts behind one another, and between braces
* `LaidOut.statement`, `LaidOut.append`, `LaidOut.block`: lines below one another, and between braces
* `LaidOut.isIndented`: a laid out line is indented for the braces that are open before it
-/

namespace ExploitReplay.Text

/-! ### Open braces -/

/-- How many braces a text opens and does not close; negative if it closes more. -/
def openBraces (cs : List Char) : Int :=
  cs.count '\x7b' - cs.count '\x7d'

@[simp] theorem openBraces_nil : openBraces [] = 0 := rfl

@[simp] theorem openBraces_append (as bs : List Char) :
    openBraces (as ++ bs) = openBraces as + openBraces bs := by
  simp only [openBraces, List.count_append]
  omega

theorem openBraces_open_cons (cs : List Char) : openBraces ('\x7b' :: cs) = 1 + openBraces cs :=
  openBraces_append ['\x7b'] cs

theorem openBraces_close : openBraces ['\x7d'] = -1 := rfl

theorem openBraces_eq_zero {cs : List Char} (hopen : '\x7b' ∉ cs) (hclose : '\x7d' ∉ cs) :
    openBraces cs = 0 := by
  simp [openBraces, List.count_eq_zero_of_not_mem hopen, List.count_eq_zero_of_not_mem hclose]

/-- Every brace that a text opens is closed, and none is closed before it is opened. -/
structure Balanced (cs : List Char) : Prop where
  total : openBraces cs = 0
  nonneg : ∀ p, p <+: cs → 0 ≤ openBraces p

theorem Balanced.of_not_mem {cs : List Char} (hopen : '\x7b' ∉ cs) (hclose : '\x7d' ∉ cs) :
    Balanced cs where
  total := openBraces_eq_zero hopen hclose
  nonneg := by
    intro p hp
    have hzero : openBraces p = 0 :=
      openBraces_eq_zero (fun h => hopen (hp.subset h)) fun h => hclose (hp.subset h)
    omega

theorem Balanced.nil : Balanced [] :=
  .of_not_mem (by simp) (by simp)

/-- A prefix of two texts is one of the first, or the first and one of the second. -/
theorem prefix_append_cases {as bs p : List Char} (h : p <+: as ++ bs) :
    p <+: as ∨ ∃ q, q <+: bs ∧ p = as ++ q := by
  rcases List.prefix_or_prefix_of_prefix h (List.prefix_append as bs) with hp | ⟨q, rfl⟩
  · exact .inl hp
  · exact .inr ⟨q, (List.prefix_append_right_inj as).mp h, rfl⟩

/-- **Balanced texts stand behind one another.** -/
theorem Balanced.append {as bs : List Char} (ha : Balanced as) (hb : Balanced bs) :
    Balanced (as ++ bs) where
  total := by rw [openBraces_append, ha.total, hb.total, Int.add_zero]
  nonneg := by
    intro p hp
    rcases prefix_append_cases hp with hp | ⟨q, hq, rfl⟩
    · exact ha.nonneg p hp
    · -- the first text is closed, so only the second one counts
      rw [openBraces_append, ha.total, Int.zero_add]
      exact hb.nonneg q hq

/-- **A balanced text stands between braces.** -/
theorem Balanced.enclose {cs : List Char} (h : Balanced cs) :
    Balanced ('\x7b' :: (cs ++ ['\x7d'])) where
  total := by
    rw [openBraces_open_cons, openBraces_append, h.total, openBraces_close]
    rfl
  nonneg := by
    intro p hp
    -- nothing, or the opening brace and a part of the text, or all of it
    rcases List.prefix_cons_iff.mp hp with rfl | ⟨q, rfl, hq⟩
    · exact Int.le_refl 0
    rw [openBraces_open_cons]
    rcases List.prefix_concat_iff.mp hq with rfl | hq
    · rw [openBraces_append, h.total, openBraces_close]
      omega
    · have := h.nonneg q hq
      omega

/-! ### Texts without braces and line breaks -/

/-- There are neither braces nor line breaks in the text. -/
def IsInline (cs : List Char) : Prop :=
  '\n' ∉ cs ∧ '\x7b' ∉ cs ∧ '\x7d' ∉ cs

instance : DecidablePred IsInline := fun cs =>
  inferInstanceAs (Decidable ('\n' ∉ cs ∧ '\x7b' ∉ cs ∧ '\x7d' ∉ cs))

theorem IsInline.append {as bs : List Char} (ha : IsInline as) (hb : IsInline bs) :
    IsInline (as ++ bs) := by
  obtain ⟨ha₁, ha₂, ha₃⟩ := ha
  obtain ⟨hb₁, hb₂, hb₃⟩ := hb
  simp [IsInline, *]

theorem IsInline.of_subset {as bs : List Char} (h : IsInline bs) (hsub : as ⊆ bs) : IsInline as :=
  ⟨fun hc => h.1 (hsub hc), fun hc => h.2.1 (hsub hc), fun hc => h.2.2 (hsub hc)⟩

theorem IsInline.balanced {cs : List Char} (h : IsInline cs) : Balanced cs :=
  .of_not_mem h.2.1 h.2.2

/-! ### Lines -/

/-- The text starts with a character that is neither a blank nor a closing brace. -/
def startsLine : List Char → Bool
  | [] => false
  | c :: _ => !isBlank c && c != '\x7d'

theorem startsLine_append {as : List Char} (h : startsLine as = true) (bs : List Char) :
    startsLine (as ++ bs) = true := by
  cases as with
  | nil => cases h
  | cons c cs => exact h

/-- A text that can be written inside a line: its braces are balanced. -/
structure IsFragment (cs : List Char) : Prop where
  noBreak : '\n' ∉ cs
  balanced : Balanced cs

theorem IsFragment.append {as bs : List Char} (ha : IsFragment as) (hb : IsFragment bs) :
    IsFragment (as ++ bs) where
  noBreak := by simp [ha.noBreak, hb.noBreak]
  balanced := ha.balanced.append hb.balanced

theorem IsFragment.enclose {cs : List Char} (h : IsFragment cs) :
    IsFragment ('\x7b' :: (cs ++ ['\x7d'])) where
  noBreak := by simp [h.noBreak]
  balanced := h.balanced.enclose

theorem IsInline.isFragment {cs : List Char} (h : IsInline cs) : IsFragment cs :=
  ⟨h.1, h.balanced⟩

/-- A text that can stand on a line: it starts with neither a blank nor a closing brace, and its
braces are balanced. -/
structure IsStatement (cs : List Char) : Prop extends IsFragment cs where
  starts : startsLine cs = true

theorem IsStatement.append {as bs : List Char} (ha : IsStatement as) (hb : IsFragment bs) :
    IsStatement (as ++ bs) where
  toIsFragment := ha.toIsFragment.append hb
  starts := startsLine_append ha.starts bs

/-- The text of some lines, each with a line break behind it. -/
def unlines (lines : List (List Char)) : List Char :=
  lines.flatMap (· ++ ['\n'])

@[simp] theorem unlines_append (as bs : List (List Char)) :
    unlines (as ++ bs) = unlines as ++ unlines bs :=
  List.flatMap_append

@[simp] theorem unlines_singleton (line : List Char) : unlines [line] = line ++ ['\n'] := by
  simp [unlines]

theorem openBraces_unlines (lines : List (List Char)) :
    openBraces (unlines lines) = openBraces lines.flatten := by
  induction lines with
  | nil => rfl
  | cons line lines ih =>
    have hbreak : openBraces ['\n'] = 0 := rfl
    rw [← List.singleton_append, unlines_append, unlines_singleton, openBraces_append,
      openBraces_append, ih, hbreak, List.singleton_append, List.flatten_cons, openBraces_append,
      Int.add_zero]

/-- The lines are read back from their text, with an empty one behind the last line break. -/
theorem splitOn_unlines {lines : List (List Char)} (h : ∀ line ∈ lines, '\n' ∉ line) :
    (unlines lines).splitOn '\n' = lines ++ [[]] := by
  have hjoin : unlines lines = ['\n'].intercalate (lines ++ [[]]) := by
    clear h
    induction lines with
    | nil => rfl
    | cons line lines ih =>
      obtain ⟨l, ls, hcons⟩ := List.exists_cons_of_ne_nil (show lines ++ [[]] ≠ [] by simp)
      rw [← List.singleton_append, unlines_append, unlines_singleton, ih, List.append_assoc [line],
        List.singleton_append, hcons, List.intercalate_cons_cons]
  rw [hjoin, List.splitOn_intercalate]
  · intro line hline
    rcases List.mem_append.mp hline with hline | hline
    · exact h line hline
    · simp [List.mem_singleton.mp hline]
  · simp

/-! ### Indentation -/

/-- The line is indented for `d` open braces: four spaces for each, for one brace less if the line
starts with a closing brace, and then a character that is no blank. -/
def IsIndented (d : Int) (line : List Char) : Prop :=
  ∃ (n : Nat) (c : Char) (rest : List Char), line = List.replicate n ' ' ++ c :: rest ∧
    isBlank c = false ∧ (n : Int) = 4 * (if c = '\x7d' then d - 1 else d)

/-- Every line that is not empty is indented for the braces that are open, `d` of them before the
first line. -/
def IndentedFrom : Int → List (List Char) → Prop
  | _, [] => True
  | d, line :: lines => (line ≠ [] → IsIndented d line) ∧ IndentedFrom (d + openBraces line) lines

theorem indentedFrom_append {d : Int} {as bs : List (List Char)} :
    IndentedFrom d (as ++ bs) ↔ IndentedFrom d as ∧ IndentedFrom (d + openBraces as.flatten) bs := by
  induction as generalizing d with
  | nil => simp [IndentedFrom]
  | cons a as ih =>
    rw [List.cons_append, IndentedFrom, IndentedFrom, ih, List.flatten_cons, openBraces_append,
      Int.add_assoc, and_assoc]

/-- What a line starts with when `d` braces are open. -/
def indentation (d : Nat) : List Char :=
  List.replicate (4 * d) ' '

theorem isInline_indentation (d : Nat) : IsInline (indentation d) := by
  have hspace : ∀ c ∈ indentation d, c = ' ' := fun c hc => List.eq_of_mem_replicate hc
  refine ⟨fun h => ?_, fun h => ?_, fun h => ?_⟩ <;> exact absurd (hspace _ h) (by decide)

/-- A statement is indented for the braces that are open. -/
theorem IsStatement.isIndented {cs : List Char} (h : IsStatement cs) (d : Nat) :
    IsIndented d (indentation d ++ cs) := by
  have hstarts := h.starts
  cases cs with
  | nil => cases hstarts
  | cons c rest =>
    simp only [startsLine, Bool.and_eq_true, Bool.not_eq_true', bne_iff_ne] at hstarts
    refine ⟨4 * d, c, rest, rfl, hstarts.1, ?_⟩
    rw [if_neg hstarts.2]
    omega

/-- The lines are balanced and indented, where `d` braces are open before them. -/
structure LaidOut (d : Nat) (lines : List (List Char)) : Prop where
  noBreak : ∀ line ∈ lines, '\n' ∉ line
  balanced : Balanced (unlines lines)
  indented : IndentedFrom d lines

namespace LaidOut

variable {d : Nat}

theorem openBraces_flatten {lines : List (List Char)} (h : LaidOut d lines) :
    openBraces lines.flatten = 0 := by
  rw [← openBraces_unlines, h.balanced.total]

theorem nil : LaidOut d [] :=
  ⟨by simp, .nil, trivial⟩

/-- An empty line. -/
theorem empty : LaidOut d [[]] :=
  ⟨by simp, .of_not_mem (by decide) (by decide), by simp [IndentedFrom]⟩

/-- **Laid out lines stand below one another.** -/
theorem append {as bs : List (List Char)} (ha : LaidOut d as) (hb : LaidOut d bs) :
    LaidOut d (as ++ bs) where
  noBreak := by
    intro line hline
    rcases List.mem_append.mp hline with hline | hline
    · exact ha.noBreak line hline
    · exact hb.noBreak line hline
  balanced := by
    rw [unlines_append]
    exact ha.balanced.append hb.balanced
  indented := by
    -- the first lines leave no brace open, so the others start at the same depth
    rw [indentedFrom_append, ha.openBraces_flatten, Int.add_zero]
    exact ⟨ha.indented, hb.indented⟩

/-- **A statement stands on a line of its own.** -/
theorem statement {cs : List Char} (h : IsStatement cs) : LaidOut d [indentation d ++ cs] where
  noBreak := by
    intro line hline
    obtain rfl := List.mem_singleton.mp hline
    rw [List.mem_append, not_or]
    exact ⟨(isInline_indentation d).1, h.noBreak⟩
  balanced := by
    rw [unlines_singleton]
    exact ((isInline_indentation d).balanced.append h.balanced).append
      (.of_not_mem (by decide) (by decide))
  indented := ⟨fun _ => h.isIndented d, trivial⟩

/-- **A block**: a head with an opening brace, lines one level further in, and the closing brace. -/
theorem block {head : List Char} {lines : List (List Char)} (hhead : IsStatement head)
    (hlines : LaidOut (d + 1) lines) :
    LaidOut d ([indentation d ++ (head ++ [' ', '\x7b'])] ++ lines ++
      [indentation d ++ ['\x7d']]) where
  noBreak := by
    have hindentation := (isInline_indentation d).1
    intro line hline
    simp only [List.mem_append, List.mem_singleton] at hline
    rcases hline with (rfl | hline) | rfl
    · simp [hindentation, hhead.noBreak]
    · exact hlines.noBreak line hline
    · simp [hindentation]
  balanced := by
    have hspaces := (isInline_indentation d).balanced
    have hspace : Balanced [' '] := .of_not_mem (by decide) (by decide)
    have hbreak : Balanced ['\n'] := .of_not_mem (by decide) (by decide)
    -- the line break of the head, the lines and the indentation of the last line are inside
    have hinside := ((hbreak.append hlines.balanced).append hspaces).enclose
    have hall := ((((hspaces.append hhead.balanced).append hspace).append hinside).append hbreak)
    rw [unlines_append, unlines_append, unlines_singleton, unlines_singleton]
    simpa [List.append_assoc] using hall
  indented := by
    have hopen : openBraces (indentation d ++ (head ++ [' ', '\x7b'])) = 1 := by
      rw [openBraces_append, openBraces_append, (isInline_indentation d).balanced.total,
        hhead.balanced.total]
      rfl
    have hstatement : IsIndented d (indentation d ++ (head ++ [' ', '\x7b'])) := by
      obtain ⟨n, c, rest, hline, hrest⟩ := hhead.isIndented d
      refine ⟨n, c, rest ++ [' ', '\x7b'], ?_, hrest⟩
      rw [← List.append_assoc, hline, List.append_assoc, List.cons_append]
    -- the lines start behind one more brace, and the last line closes it again
    rw [indentedFrom_append, indentedFrom_append]
    refine ⟨⟨⟨fun _ => hstatement, trivial⟩, ?_⟩,
      fun _ => ⟨4 * d, '\x7d', [], rfl, by decide, ?_⟩, trivial⟩
    · rw [List.flatten_singleton, hopen]
      exact hlines.indented
    · rw [if_pos rfl, List.flatten_append, openBraces_append, List.flatten_singleton, hopen,
        hlines.openBraces_flatten]
      omega

/-- **A laid out line is indented for the braces that are open before it.** -/
theorem isIndented {before after : List (List Char)} {line : List Char}
    (h : LaidOut d (before ++ line :: after)) (hline : line ≠ []) :
    IsIndented (d + openBraces before.flatten) line := by
  have hindented := h.indented
  rw [indentedFrom_append] at hindented
  exact hindented.2.1 hline

end LaidOut

end ExploitReplay.Text
