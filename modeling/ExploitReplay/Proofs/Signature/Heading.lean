import ExploitReplay.Proofs.Signature.Parameters
import ExploitReplay.Proofs.Signature.Returns
import ExploitReplay.Proofs.Text.Spacing
import ExploitReplay.Signature.Reading
import Mathlib.Data.List.Infix

/-!
# What stands behind the parameters

A signature is read from its words, put together with single spaces. Whatever stands between the
parentheses of its parameters, and however it is spaced, the list ends at the parenthesis that
matches the first one, and what is behind it has the same words as in the text.

## Main definitions

* `ClosesFrom depth cs`: the text closes `depth` parentheses that are open before it, and its own
* `Balanced cs`: the parentheses of the text match

## Main results

* `closing_append_of_closesFrom`: a balanced text closes no parenthesis around it
* `closesFrom_of_closing`: a list that ends is balanced
* `map_snd_closing_singleSpaced`: spacing does not change where a list ends
* `read_heading`: what is read of the words behind the parameters
-/

namespace ExploitReplay.Signature

open Text (NoBlank isBlank singleSpaced words)

/-! ### Matching parentheses -/

/-- The text closes `depth` parentheses that are open before it and those that it opens itself. -/
structure ClosesFrom (depth : Nat) (cs : List Char) : Prop where
  /-- Nothing is closed that is not open. -/
  prefixes : ∀ p, p <+: cs → p.count ')' ≤ depth + p.count '('
  total : cs.count ')' = depth + cs.count '('

/-- The parentheses of the text match. -/
def Balanced (cs : List Char) : Prop :=
  ClosesFrom 0 cs

instance : DecidablePred Balanced := fun cs =>
  decidable_of_iff
    ((∀ p ∈ cs.inits, p.count ')' ≤ 0 + p.count '(') ∧ cs.count ')' = 0 + cs.count '(')
    ⟨fun h => ⟨fun p hp => h.1 p ((List.mem_inits _ _).mpr hp), h.2⟩,
      fun h => ⟨fun p hp => h.prefixes p ((List.mem_inits _ _).mp hp), h.total⟩⟩

namespace ClosesFrom

variable {depth : Nat} {cs : List Char}

theorem of_open_cons (h : ClosesFrom depth ('(' :: cs)) : ClosesFrom (depth + 1) cs where
  prefixes := by
    intro p hp
    have := h.prefixes ('(' :: p) (List.cons_prefix_cons.mpr ⟨rfl, hp⟩)
    simp at this
    omega
  total := by
    have := h.total
    simp at this
    omega

theorem of_close_cons (h : ClosesFrom depth (')' :: cs)) :
    ∃ outer, depth = outer + 1 ∧ ClosesFrom outer cs := by
  have hfirst := h.prefixes [')'] (by simp)
  simp at hfirst
  obtain ⟨outer, rfl⟩ : ∃ outer, depth = outer + 1 := ⟨depth - 1, by omega⟩
  refine ⟨outer, rfl, fun p hp => ?_, ?_⟩
  · have := h.prefixes (')' :: p) (List.cons_prefix_cons.mpr ⟨rfl, hp⟩)
    simp at this
    omega
  · have := h.total
    simp at this
    omega

theorem of_other_cons {c : Char} (hopen : c ≠ '(') (hclose : c ≠ ')')
    (h : ClosesFrom depth (c :: cs)) : ClosesFrom depth cs where
  prefixes := by
    intro p hp
    have := h.prefixes (c :: p) (List.cons_prefix_cons.mpr ⟨rfl, hp⟩)
    simpa [List.count_cons_of_ne hopen, List.count_cons_of_ne hclose] using this
  total := by
    have := h.total
    simpa [List.count_cons_of_ne hopen, List.count_cons_of_ne hclose] using this

theorem nil : ClosesFrom 0 [] :=
  ⟨fun p hp => by simp [List.prefix_nil.mp hp], rfl⟩

theorem open_cons (h : ClosesFrom (depth + 1) cs) : ClosesFrom depth ('(' :: cs) where
  prefixes := by
    intro p hp
    rcases List.prefix_cons_iff.mp hp with rfl | ⟨q, rfl, hq⟩
    · simp
    · have := h.prefixes q hq
      simp
      omega
  total := by
    have := h.total
    simp
    omega

theorem close_cons (h : ClosesFrom depth cs) : ClosesFrom (depth + 1) (')' :: cs) where
  prefixes := by
    intro p hp
    rcases List.prefix_cons_iff.mp hp with rfl | ⟨q, rfl, hq⟩
    · simp
    · have := h.prefixes q hq
      simp
      omega
  total := by
    have := h.total
    simp
    omega

theorem other_cons {c : Char} (hopen : c ≠ '(') (hclose : c ≠ ')') (h : ClosesFrom depth cs) :
    ClosesFrom depth (c :: cs) where
  prefixes := by
    intro p hp
    rcases List.prefix_cons_iff.mp hp with rfl | ⟨q, rfl, hq⟩
    · simp
    · simpa [List.count_cons_of_ne hopen, List.count_cons_of_ne hclose] using h.prefixes q hq
  total := by
    simpa [List.count_cons_of_ne hopen, List.count_cons_of_ne hclose] using h.total

/-- Only the parentheses of a text count. -/
theorem filter_iff {keep : Char → Bool} (hopen : keep '(' = true) (hclose : keep ')' = true) :
    ClosesFrom depth (cs.filter keep) ↔ ClosesFrom depth cs := by
  induction cs generalizing depth with
  | nil => rfl
  | cons c cs ih =>
    by_cases hc : c = '('
    · subst hc
      rw [List.filter_cons_of_pos hopen]
      exact ⟨fun h => (ih.mp h.of_open_cons).open_cons, fun h => (ih.mpr h.of_open_cons).open_cons⟩
    by_cases hc' : c = ')'
    · subst hc'
      rw [List.filter_cons_of_pos hclose]
      constructor <;> intro h
      · obtain ⟨outer, rfl, hcs⟩ := h.of_close_cons
        exact (ih.mp hcs).close_cons
      · obtain ⟨outer, rfl, hcs⟩ := h.of_close_cons
        exact (ih.mpr hcs).close_cons
    · -- another character does not count, whether it is kept or not
      have hother : ClosesFrom depth (c :: cs) ↔ ClosesFrom depth cs :=
        ⟨fun h => h.of_other_cons hc hc', fun h => h.other_cons hc hc'⟩
      rw [hother, List.filter_cons]
      split
      · exact ⟨fun h => ih.mp (h.of_other_cons hc hc'), fun h => (ih.mpr h).other_cons hc hc'⟩
      · exact ih

end ClosesFrom

/-- **A balanced text closes no parenthesis around it.** -/
theorem closing_append_of_closesFrom {depth : Nat} {cs : List Char} (h : ClosesFrom depth cs)
    (rest : List Char) :
    closing depth (cs ++ rest) = (closing 0 rest).map fun p => (cs ++ p.1, p.2) := by
  induction cs generalizing depth with
  | nil =>
    obtain rfl : depth = 0 := by simpa using h.total.symm
    simp
  | cons c cs ih =>
    by_cases hopen : c = '('
    · subst hopen
      rw [List.cons_append, closing_open_cons, ih h.of_open_cons, Option.map_map]
      rfl
    by_cases hclose : c = ')'
    · subst hclose
      obtain ⟨outer, rfl, hcs⟩ := h.of_close_cons
      rw [List.cons_append, closing_close_cons, ih hcs, Option.map_map]
      rfl
    · rw [List.cons_append, closing_cons_of_ne hopen hclose, ih (h.of_other_cons hopen hclose),
        Option.map_map]
      rfl

theorem closing_balanced {cs : List Char} (h : Balanced cs) (tail : List Char) :
    closing 0 (cs ++ ')' :: tail) = some (cs, tail) := by
  rw [closing_append_of_closesFrom h]
  simp

/-- **A list that ends is balanced.** -/
theorem closesFrom_of_closing {depth : Nat} {cs inside rest : List Char}
    (h : closing depth cs = some (inside, rest)) : ClosesFrom depth inside := by
  induction cs generalizing depth inside with
  | nil => simp [closing] at h
  | cons c cs ih =>
    by_cases hopen : c = '('
    · subst hopen
      rw [closing_open_cons] at h
      obtain ⟨⟨i, r⟩, hi, he⟩ := Option.map_eq_some_iff.mp h
      obtain ⟨rfl, rfl⟩ := Prod.mk.inj he
      exact (ih hi).open_cons
    by_cases hclose : c = ')'
    · subst hclose
      cases depth with
      | zero =>
        rw [closing_zero_close_cons] at h
        obtain ⟨rfl, -⟩ := Prod.mk.inj (Option.some.inj h)
        exact .nil
      | succ depth =>
        rw [closing_close_cons] at h
        obtain ⟨⟨i, r⟩, hi, he⟩ := Option.map_eq_some_iff.mp h
        obtain ⟨rfl, rfl⟩ := Prod.mk.inj he
        exact (ih hi).close_cons
    · rw [closing_cons_of_ne hopen hclose] at h
      obtain ⟨⟨i, r⟩, hi, he⟩ := Option.map_eq_some_iff.mp h
      obtain ⟨rfl, rfl⟩ := Prod.mk.inj he
      exact (ih hi).other_cons hopen hclose

/-! ### Spacing -/

/-- **Spacing does not change where a list ends**, if it ends at all. -/
theorem map_snd_closing_singleSpaced (depth : Nat) (cs : List Char) :
    (closing depth (singleSpaced cs)).map (·.2) =
      (closing depth cs).map fun p => singleSpaced p.2 := by
  induction cs generalizing depth with
  | nil => rfl
  | cons c cs ih =>
    by_cases hopen : c = '('
    · subst hopen
      simpa [Text.singleSpaced_not_blank, isBlank, closing_open_cons, Function.comp_def] using
        ih (depth + 1)
    by_cases hclose : c = ')'
    · subst hclose
      rw [Text.singleSpaced_not_blank (by decide)]
      cases depth with
      | zero => simp
      | succ depth => simpa [closing_close_cons, Function.comp_def] using ih depth
    · have hcons : (closing depth (c :: cs)).map (fun p => singleSpaced p.2) =
          (closing depth cs).map fun p => singleSpaced p.2 := by
        rw [closing_cons_of_ne hopen hclose, Option.map_map]
        rfl
      rw [hcons, ← ih depth]
      cases hc : isBlank c with
      | false =>
        rw [Text.singleSpaced_not_blank hc, closing_cons_of_ne hopen hclose, Option.map_map]
        rfl
      | true =>
        rcases Text.singleSpaced_blank hc cs with he | he
        · rw [he]
        · rw [he, closing_cons_of_ne (by decide) (by decide), Option.map_map]
          rfl

theorem closing_singleSpaced {depth : Nat} {cs inside rest : List Char}
    (h : closing depth cs = some (inside, rest)) :
    ∃ inside', closing depth (singleSpaced cs) = some (inside', singleSpaced rest) := by
  have hmap := map_snd_closing_singleSpaced depth cs
  rw [h] at hmap
  obtain ⟨⟨inside', rest'⟩, hclosing, rfl⟩ := Option.map_eq_some_iff.mp hmap
  exact ⟨inside', hclosing⟩

/-! ### Reading -/

/-- **What is read of the words behind the parameters.** The signature starts with the keyword, the
name and a list of parameters whose parentheses match; the words behind them hold the modifiers and
the clause of the returned values. -/
theorem read_heading {text : String} {name parameters tail : List Char}
    (htext : text.toList =
      functionKeyword ++ ' ' :: (name ++ '(' :: (parameters ++ ')' :: tail)))
    (hname : NoBlank name) (hopener : '(' ∉ name) (hparameters : Balanced parameters) :
    ∃ s, read text = .ok s ∧ s.raw = text ∧ s.name = String.ofList name ∧
      s.modifiers = (splitAtReturns (words tail)).1.map String.ofList ∧
      s.returns = returnsOf (splitAtReturns (words tail)).2 := by
  have hhead : NoBlank (name ++ ['(']) := hname.append (by decide)
  have hbody : name ++ '(' :: (parameters ++ ')' :: tail) =
      (name ++ ['(']) ++ (parameters ++ ')' :: tail) := by simp
  have hkeyword : words functionKeyword = [functionKeyword] := by decide
  have hall : words text.toList =
      functionKeyword :: words (name ++ '(' :: (parameters ++ ')' :: tail)) := by
    rw [htext, Text.words_append_blank (by decide), hkeyword]
    rfl
  obtain ⟨lead, rest, hwords⟩ : ∃ lead rest, words (name ++ '(' :: (parameters ++ ')' :: tail)) =
      (name ++ '(' :: lead) :: rest := by
    have happend := Text.words_append (by simp) hhead (parameters ++ ')' :: tail)
    rw [← hbody, List.append_assoc] at happend
    exact ⟨_, _, happend⟩
  -- put together again, the words differ from the text in their spacing only
  obtain ⟨inside, hclosing⟩ := closing_singleSpaced (closing_balanced hparameters tail)
  have hafter : Text.after? '(' (Text.unwords ((name ++ '(' :: lead) :: rest)) =
      some (singleSpaced (parameters ++ ')' :: tail)) := by
    rw [← hwords, hbody, Text.unwords_words_append (by simp) hhead, Text.singleSpaced_append hhead,
      List.append_assoc]
    exact Text.after?_append hopener _
  have hread : read text = ofWords text (functionKeyword :: (name ++ '(' :: lead) :: rest)
      ((name ++ '(' :: lead) :: rest) := by
    rw [read, words?, hall, hwords, Except.bind, fromName, if_pos rfl]
  have hlist : parameterText (singleSpaced (parameters ++ ')' :: tail)) =
      (inside, singleSpaced tail) := by
    rw [parameterText, hclosing, Option.getD_some]
  rw [hread, ofWords, List.headD_cons, if_pos (by simp), hafter, Option.getD_some, hlist]
  refine ⟨_, rfl, rfl, ?_, ?_, ?_⟩
  · rw [Text.before_append hopener]
  · rw [Text.words_singleSpaced]
  · rw [Text.words_singleSpaced]

end ExploitReplay.Signature
