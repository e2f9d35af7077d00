import ExploitReplay.Yaml.Writer

/-!
# The characters of written YAML

Whatever is in the texts of a mapping, it is written in visible characters and line feeds: a text
that holds anything else goes between double quotes, where an escape stands for it.

## Main definitions

* `Yaml.InWriting cs`: visible characters and line feeds only

## Main results

* `inWriting_escapedFrom`: so are all texts between double quotes
* `inWriting_mappingText`: and all mappings
-/

namespace ExploitReplay

theorem Text.exists_of_mem_hexDigits {width n : Nat} {c : Char} (h : c ∈ hexDigits width n) :
    ∃ digit < 16, c = Nat.digitChar digit := by
  induction width generalizing n with
  | zero => cases h
  | succ width ih =>
    rw [hexDigits, List.mem_append, List.mem_singleton] at h
    rcases h with h | h
    · exact ih h
    · exact ⟨n % 16, Nat.mod_lt _ (by decide), h⟩

namespace Yaml

/-- Visible characters and line feeds only. -/
def InWriting (cs : List Char) : Prop :=
  ∀ c ∈ cs, isVisible c = true ∨ c = '\n'

namespace InWriting

variable {cs ds : List Char} {c : Char}

theorem nil : InWriting [] := by
  intro c hc
  cases hc

theorem cons (hc : isVisible c = true ∨ c = '\n') (h : InWriting cs) : InWriting (c :: cs) := by
  intro d hd
  rcases List.mem_cons.mp hd with rfl | hd
  · exact hc
  · exact h d hd

theorem append (hc : InWriting cs) (hd : InWriting ds) : InWriting (cs ++ ds) := by
  intro c hmem
  rcases List.mem_append.mp hmem with h | h
  · exact hc c h
  · exact hd c h

theorem of_all (h : cs.all (fun c => isVisible c || c == '\n') = true) : InWriting cs := by
  intro c hc
  simpa using List.all_eq_true.mp h c hc

end InWriting

/-! ### Plain and single-quoted scalars -/

/-- Folding adds line feeds, blanks and quotes. -/
theorem inWriting_foldedFrom (quoted : Bool) (last : Option Char) (column : Nat) {cs : List Char}
    (h : InWriting cs) : InWriting (foldedFrom quoted last column cs) := by
  have hindent : InWriting indentation := .of_all (by decide)
  induction cs generalizing last column with
  | nil => exact .nil
  | cons c cs ih =>
    have hrest : ∀ last column, InWriting (foldedFrom quoted last column cs) := fun last column =>
      ih last column fun d hd => h d (List.mem_cons_of_mem _ hd)
    have hc := h c (by simp)
    unfold foldedFrom
    split
    · refine .append (.append ?_ ?_) (hrest _ _)
      · split <;> exact .of_all (by decide)
      · split
        · exact .nil
        · exact hindent
    · split
      · exact .cons (.inr rfl) (.append hindent (hrest _ _))
      · refine .append ?_ (hrest _ _)
        unfold quoteDoubled
        split
        · exact .of_all (by decide)
        · exact .cons hc .nil

/-! ### Double-quoted scalars -/

theorem inWriting_codeEscape (c : Char) : InWriting (codeEscape c) := by
  have hdigit : ∀ digit < 16, isVisible (Nat.digitChar digit).toUpper = true := by decide
  have hdigits : ∀ width, InWriting ((Text.hexDigits width c.toNat).map Char.toUpper) := by
    intro width d hd
    obtain ⟨e, he, rfl⟩ := List.mem_map.mp hd
    obtain ⟨digit, hlt, rfl⟩ := Text.exists_of_mem_hexDigits he
    exact .inl (hdigit digit hlt)
  unfold codeEscape
  by_cases hbyte : c.toNat < 0x100
  · rw [if_pos hbyte]
    exact .cons (.inl (by decide)) (hdigits 2)
  by_cases hshort : c.toNat < 0x10000
  · rw [if_neg hbyte, if_pos hshort]
    exact .cons (.inl (by decide)) (hdigits 4)
  · rw [if_neg hbyte, if_neg hshort]
    exact .cons (.inl (by decide)) (hdigits 8)

theorem inWriting_escape {c : Char} {escape : List Char} (h : escapeOf? c = some escape) :
    InWriting escape := by
  unfold escapeOf? at h
  split at h
  · rename_i letter hletter
    have hletters : ∀ pair ∈ shortEscapes, isVisible pair.2 = true := by decide
    obtain ⟨before, after, hsplit, -⟩ := List.lookup_eq_some_iff.mp hletter
    obtain rfl := Option.some.inj h
    exact .cons (.inl (by decide)) (.cons (.inl (hletters (c, letter) (by simp [hsplit]))) .nil)
  · split at h
    · cases h
    · obtain rfl := Option.some.inj h
      exact .cons (.inl (by decide)) (inWriting_codeEscape c)

theorem isVisible_of_escapeOf? {c : Char} (h : escapeOf? c = none) : isVisible c = true := by
  unfold escapeOf? at h
  split at h
  · cases h
  · split at h
    · assumption
    · cases h

theorem inWriting_hiddenBreak (next : Option Char) : InWriting (hiddenBreak next) := by
  unfold hiddenBreak
  split <;> exact .of_all (by decide)

/-- **All texts between double quotes are written in visible characters and line feeds.** -/
theorem inWriting_escapedFrom (first fresh : Bool) (column : Nat) (cs : List Char) :
    InWriting (escapedFrom first fresh column cs) := by
  -- on the text: a character or its escape, next to which the line may be broken
  induction cs generalizing first fresh column with
  | nil => exact .nil
  | cons c cs ih =>
    unfold escapedFrom
    cases hescape : escapeOf? c with
    | some escape =>
      dsimp only
      have hwritten := inWriting_escape hescape
      split
      · exact (hwritten.append (inWriting_hiddenBreak _)).append (ih _ _ _)
      · exact hwritten.append (ih _ _ _)
    | none =>
      dsimp only
      have hc := isVisible_of_escapeOf? hescape
      split
      · exact (inWriting_hiddenBreak _).append (.cons (.inl hc) (ih _ _ _))
      · exact .cons (.inl hc) (ih _ _ _)

/-! ### Mappings -/

/-- A text that needs no escapes is in visible characters and line feeds. -/
theorem inWriting_of_needsEscapes {cs : List Char} (h : needsEscapes cs = false) :
    InWriting cs := by
  unfold needsEscapes at h
  rw [Bool.or_eq_false_iff, Bool.not_eq_false'] at h
  exact .of_all h.1

theorem inWriting_scalarText (column : Nat) (s : String) :
    InWriting (scalarText column s).toList := by
  unfold scalarText
  rw [String.toList_ofList]
  by_cases hescapes : needsEscapes s.toList = true
  · rw [styleOf, if_pos hescapes]
    exact .cons (.inl (by decide)) (.append (inWriting_escapedFrom _ _ _ _) (.of_all (by decide)))
  · rw [styleOf, if_neg hescapes]
    have htext := inWriting_of_needsEscapes (Bool.not_eq_true _ ▸ hescapes)
    split
    · exact inWriting_foldedFrom _ _ _ htext
    · exact .cons (.inl (by decide))
        (.append (inWriting_foldedFrom _ _ _ htext) (.of_all (by decide)))
    · split at * <;> contradiction

theorem inWriting_pairText (key value : String) : InWriting (pairText key value).toList := by
  unfold pairText
  simp only [String.toList_append]
  exact .append (.append (.append (inWriting_scalarText 0 key) (.of_all (by decide)))
    (inWriting_scalarText _ value)) (.of_all (by decide))

/-- **All mappings between texts are written in visible characters and line feeds.** -/
theorem inWriting_mappingText (pairs : List (String × String)) :
    InWriting (mappingText pairs).toList := by
  induction pairs with
  | nil => exact .nil
  | cons pair rest ih =>
    obtain ⟨key, value⟩ := pair
    have hcons : mappingText ((key, value) :: rest) = pairText key value ++ mappingText rest := by
      simp [mappingText, String.join_cons]
    rw [hcons, String.toList_append]
    exact (inWriting_pairText key value).append ih

end Yaml

end ExploitReplay
