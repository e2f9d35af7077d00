import ExploitReplay.Proofs.Text.Listed
import ExploitReplay.Proofs.Text.Spacing
import ExploitReplay.Signature.Parameters

/-!
# The segments of a parameter list

A list is cut at the commas outside all brackets. No segment is cut again, and all but the last one
close the brackets that they open, or open those that they close. So the parameters, which are the
segments without the blanks around them, are found again when they are listed with a comma and a
space between neighbours, however their brackets match.

## Main definitions

* `bracketDepth cs`: how many brackets a text opens and does not close
* `Whole depth cs`: no comma cuts the text
* `Cut depth ss`: texts that are cut at the commas between them, and nowhere else

## Main results

* `cut_segments`: the segments of a text are cut at the commas between them
* `Cut.parametersOf_listed`: listed texts are found again as the parameters of the list
* `parametersOf_listed_parametersOf`: the parameters of a list are found again
* `filter_listed_parametersOf`: nothing but commas and blanks is lost
-/

namespace ExploitReplay.Signature

open Text (EvenlySpaced Tidy isBlank listed onFirst trimBlanks)

/-! ### Depth -/

/-- How many brackets a text opens and does not close; negative if it closes more. -/
def bracketDepth : List Char → Int
  | [] => 0
  | c :: cs => bracketStep c + bracketDepth cs

@[simp] theorem bracketDepth_nil : bracketDepth [] = 0 := rfl

@[simp] theorem bracketDepth_cons (c : Char) (cs : List Char) :
    bracketDepth (c :: cs) = bracketStep c + bracketDepth cs := rfl

@[simp] theorem bracketDepth_append (as bs : List Char) :
    bracketDepth (as ++ bs) = bracketDepth as + bracketDepth bs := by
  induction as with
  | nil => simp
  | cons a as ih => rw [List.cons_append, bracketDepth_cons, ih, bracketDepth_cons, Int.add_assoc]

theorem bracketStep_of_isBlank {c : Char} (h : isBlank c = true) : bracketStep c = 0 := by
  unfold bracketStep
  split
  · rename_i hopen
    rcases hopen with rfl | rfl <;> exact absurd h (by decide)
  · split
    · rename_i hclose
      rcases hclose with rfl | rfl <;> exact absurd h (by decide)
    · rfl

theorem bracketDepth_of_isBlank {cs : List Char} (h : ∀ c ∈ cs, isBlank c = true) :
    bracketDepth cs = 0 := by
  induction cs with
  | nil => rfl
  | cons c cs ih =>
    rw [bracketDepth_cons, bracketStep_of_isBlank (h c (by simp)),
      ih fun d hd => h d (List.mem_cons_of_mem _ hd), Int.add_zero]

theorem bracketDepth_trimBlanks (cs : List Char) :
    bracketDepth (trimBlanks cs) = bracketDepth cs := by
  obtain ⟨front, back, hcs, hfront, hback⟩ := Text.exists_append_trimBlanks cs
  rw [congrArg bracketDepth hcs, bracketDepth_append, bracketDepth_append,
    bracketDepth_of_isBlank hfront, bracketDepth_of_isBlank hback, Int.zero_add, Int.add_zero]

/-! ### Texts that are not cut -/

/-- No comma cuts the text where it starts at the depth. -/
def Whole (depth : Int) (cs : List Char) : Prop :=
  segments depth cs = [cs]

variable {depth : Int}

theorem whole_cons_iff {c : Char} {cs : List Char} :
    Whole depth (c :: cs) ↔ ¬(c = ',' ∧ depth = 0) ∧ Whole (depth + bracketStep c) cs := by
  rw [Whole, segments]
  split
  · rename_i hcut
    simp [hcut, segments_ne_nil]
  · rename_i hcut
    obtain ⟨s, ss, hss⟩ := List.exists_cons_of_ne_nil (segments_ne_nil (depth + bracketStep c) cs)
    simp [Whole, hss, hcut, consSegment]

theorem whole_append_iff {as bs : List Char} :
    Whole depth (as ++ bs) ↔ Whole depth as ∧ Whole (depth + bracketDepth as) bs := by
  induction as generalizing depth with
  | nil => simp [Whole, segments]
  | cons a as ih =>
    rw [List.cons_append, whole_cons_iff, ih, whole_cons_iff, bracketDepth_cons, Int.add_assoc,
      and_assoc]

/-- **What follows a text that is not cut** is cut at the depth that the text leads to. -/
theorem Whole.segments_append {cs : List Char} (h : Whole depth cs) (rest : List Char) :
    segments depth (cs ++ rest) = onFirst (cs ++ ·) (segments (depth + bracketDepth cs) rest) := by
  induction cs generalizing depth with
  | nil =>
    obtain ⟨s, ss, hss⟩ := List.exists_cons_of_ne_nil (segments_ne_nil depth rest)
    simp [hss, onFirst]
  | cons c cs ih =>
    obtain ⟨hcut, hcs⟩ := whole_cons_iff.mp h
    obtain ⟨s, ss, hss⟩ := List.exists_cons_of_ne_nil
      (segments_ne_nil (depth + bracketStep c + bracketDepth cs) rest)
    rw [List.cons_append, segments, if_neg hcut, ih hcs, bracketDepth_cons, ← Int.add_assoc, hss]
    rfl

theorem Whole.trimBlanks {cs : List Char} (h : Whole depth cs) : Whole depth (trimBlanks cs) := by
  obtain ⟨front, back, hcs, hfront, -⟩ := Text.exists_append_trimBlanks cs
  rw [hcs, whole_append_iff, whole_append_iff, bracketDepth_of_isBlank hfront, Int.add_zero] at h
  exact h.1.2

/-! ### Texts that are cut at the commas between them -/

/-- Put one behind the other with commas between them, the texts are cut at these commas and nowhere
else: none is cut where it stands, and every comma is reached at depth zero. -/
inductive Cut : Int → List (List Char) → Prop
  | last {depth : Int} {s : List Char} (whole : Whole depth s) : Cut depth [s]
  | cons {depth : Int} {s : List Char} {ss : List (List Char)} (whole : Whole depth s)
      (closed : depth + bracketDepth s = 0) (rest : Cut 0 ss) : Cut depth (s :: ss)

theorem Cut.ne_nil {ss : List (List Char)} (h : Cut depth ss) : ss ≠ [] := by
  cases h <;> simp

/-- A character that cuts nothing stands in front of the first text. -/
theorem Cut.consSegment {c : Char} (hc : ¬(c = ',' ∧ depth = 0)) {ss : List (List Char)}
    (h : Cut (depth + bracketStep c) ss) : Cut depth (consSegment c ss) := by
  cases h with
  | last whole => exact .last (whole_cons_iff.mpr ⟨hc, whole⟩)
  | cons whole closed rest =>
    refine .cons (whole_cons_iff.mpr ⟨hc, whole⟩) ?_ rest
    rwa [bracketDepth_cons, ← Int.add_assoc]

/-- **The segments of a text are cut at the commas between them.** -/
theorem cut_segments (depth : Int) (cs : List Char) : Cut depth (segments depth cs) := by
  induction cs generalizing depth with
  | nil => exact .last rfl
  | cons c cs ih =>
    rw [segments]
    split
    · rename_i hcut
      rw [hcut.2]
      exact .cons rfl rfl (ih 0)
    · rename_i hcut
      exact (ih _).consSegment hcut

/-- Blanks around the texts, and empty texts, do not matter. -/
theorem Cut.filter_trimBlanks {ss : List (List Char)} (h : Cut depth ss) (hdepth : depth = 0) :
    (ss.map Text.trimBlanks).filter (· ≠ []) = [] ∨
      Cut 0 ((ss.map Text.trimBlanks).filter (· ≠ [])) := by
  induction h with
  | last whole =>
    rename_i s
    subst hdepth
    by_cases hs : Text.trimBlanks s = []
    · exact .inl (by simp [hs])
    · exact .inr (by simpa [hs] using .last whole.trimBlanks)
  | cons whole closed rest ih =>
    rename_i s ss
    subst hdepth
    by_cases hs : Text.trimBlanks s = []
    · simpa [hs] using ih rfl
    · refine .inr ?_
      rw [List.map_cons, List.filter_cons_of_pos (by simpa using hs)]
      rcases ih rfl with hnil | hcut
      · rw [hnil]
        exact .last whole.trimBlanks
      · exact .cons whole.trimBlanks (by rwa [bracketDepth_trimBlanks]) hcut

/-! ### Lists of parameters -/

/-- The segments of listed texts, without the blanks around them, are the texts. -/
theorem Cut.map_trimBlanks_segments_listed {ps : List (List Char)} (h : Cut 0 ps)
    (htidy : ∀ p ∈ ps, Tidy p) : (segments 0 (listed ps)).map Text.trimBlanks = ps := by
  induction ps with
  | nil => exact absurd rfl h.ne_nil
  | cons p ps ih =>
    have hp := htidy p (by simp)
    cases h with
    | last whole =>
      have hsegments : segments 0 p = [p] := whole
      simp [hsegments, hp.trimBlanks]
    | cons whole closed rest =>
      obtain ⟨q, qs, rfl⟩ := List.exists_cons_of_ne_nil rest.ne_nil
      have ih := ih rest fun r hr => htidy r (List.mem_cons_of_mem _ hr)
      obtain ⟨s, ss, hss⟩ := List.exists_cons_of_ne_nil (segments_ne_nil 0 (listed (q :: qs)))
      -- the space behind the comma opens the next segment, where it is trimmed
      have hcomma : segments 0 (',' :: ' ' :: listed (q :: qs)) = [] :: (' ' :: s) :: ss := by
        simp [segments, bracketStep, hss, Signature.consSegment]
      have hblank := Text.trimBlanks_blank_cons (c := ' ') (by decide) s
      rw [hss] at ih
      rw [Text.listed_cons_cons, List.append_assoc, List.singleton_append, whole.segments_append,
        closed, hcomma]
      simp [onFirst, hp.trimBlanks, hblank, ← ih]

/-- **Listed texts are found again as the parameters of the list.** -/
theorem Cut.parametersOf_listed {ps : List (List Char)} (h : Cut 0 ps) (htidy : ∀ p ∈ ps, Tidy p) :
    parametersOf (listed ps) = ps := by
  rw [parametersOf, h.map_trimBlanks_segments_listed htidy, List.filter_eq_self]
  intro p hp
  simpa using (htidy p hp).ne_nil

/-- A segment stands in the text as it is. -/
theorem infix_of_mem_segments {cs s : List Char} (h : s ∈ segments depth cs) : s <:+: cs := by
  -- the first segment is a prefix of the text, the others lie further in
  have hparts : ∃ t ts, segments depth cs = t :: ts ∧ t <+: cs ∧ ∀ u ∈ ts, u <:+: cs := by
    clear h
    induction cs generalizing depth with
    | nil => exact ⟨[], [], rfl, List.nil_prefix, by simp⟩
    | cons c cs ih =>
      obtain ⟨t, ts, hts, hstarts, hlies⟩ := @ih (depth + bracketStep c)
      rw [segments]
      split
      · rename_i hcut
        obtain ⟨rfl, rfl⟩ := hcut
        rw [show (0 : Int) + bracketStep ',' = 0 from rfl] at hts
        refine ⟨[], segments 0 cs, rfl, List.nil_prefix, fun u hu => ?_⟩
        rw [hts] at hu
        rcases List.mem_cons.mp hu with rfl | hu
        · exact List.infix_cons hstarts.isInfix
        · exact List.infix_cons (hlies u hu)
      · rw [hts]
        exact ⟨c :: t, ts, rfl, List.cons_prefix_cons.mpr ⟨rfl, hstarts⟩, fun u hu =>
          List.infix_cons (hlies u hu)⟩
  obtain ⟨t, ts, hts, hstarts, hlies⟩ := hparts
  rw [hts] at h
  rcases List.mem_cons.mp h with rfl | h
  · exact hstarts.isInfix
  · exact hlies s h

/-- The parameters of an evenly spaced list are tidy. -/
theorem tidy_of_mem_parametersOf {cs p : List Char} (h : EvenlySpaced cs)
    (hp : p ∈ parametersOf cs) : Tidy p := by
  obtain ⟨hp, hne⟩ := List.mem_filter.mp hp
  obtain ⟨s, hs, rfl⟩ := List.mem_map.mp hp
  exact Text.tidy_trimBlanks (h.of_isInfix (infix_of_mem_segments hs)) (by simpa using hne)

/-- **The parameters of a list are found again** when they are listed. -/
theorem parametersOf_listed_parametersOf {cs : List Char} (h : EvenlySpaced cs) :
    parametersOf (listed (parametersOf cs)) = parametersOf cs := by
  rcases (cut_segments 0 cs).filter_trimBlanks rfl with hnil | hcut
  · have hnone : parametersOf cs = [] := hnil
    rw [hnone]
    rfl
  · exact hcut.parametersOf_listed fun p => tidy_of_mem_parametersOf h

/-! ### What is lost -/

section Filter

variable {keep : Char → Bool}

theorem filter_segments (hcomma : keep ',' = false) (depth : Int) (cs : List Char) :
    (segments depth cs).flatMap (List.filter keep) = cs.filter keep := by
  induction cs generalizing depth with
  | nil => rfl
  | cons c cs ih =>
    rw [segments]
    split
    · rename_i hcut
      rw [List.flatMap_cons, ih, hcut.1, List.filter_cons_of_neg (by simp [hcomma])]
      rfl
    · have ih := ih (depth + bracketStep c)
      obtain ⟨s, ss, hss⟩ := List.exists_cons_of_ne_nil (segments_ne_nil (depth + bracketStep c) cs)
      rw [hss, List.flatMap_cons] at ih
      rw [hss, consSegment, List.flatMap_cons, List.filter_cons, List.filter_cons, ← ih]
      split <;> rfl

theorem filter_trimBlanks (hblank : ∀ c, isBlank c = true → keep c = false) (cs : List Char) :
    (trimBlanks cs).filter keep = cs.filter keep := by
  have hnone : ∀ {ds : List Char}, (∀ c ∈ ds, isBlank c = true) → ds.filter keep = [] := by
    intro ds hds
    exact List.filter_eq_nil_iff.mpr fun c hc => by simp [hblank c (hds c hc)]
  obtain ⟨front, back, hcs, hfront, hback⟩ := Text.exists_append_trimBlanks cs
  rw [congrArg (List.filter keep) hcs, List.filter_append, List.filter_append, hnone hfront,
    hnone hback, List.nil_append, List.append_nil]

theorem filter_parametersOf (hcomma : keep ',' = false)
    (hblank : ∀ c, isBlank c = true → keep c = false) (cs : List Char) :
    (parametersOf cs).flatMap (List.filter keep) = cs.filter keep := by
  -- the texts that are left out are empty
  have hfilled : ∀ ts : List (List Char),
      (ts.filter (· ≠ [])).flatMap (List.filter keep) = ts.flatMap (List.filter keep) := by
    intro ts
    induction ts with
    | nil => rfl
    | cons t ts ih =>
      by_cases ht : t = []
      · rw [List.filter_cons_of_neg (by simpa using ht), ih, ht]
        rfl
      · rw [List.filter_cons_of_pos (by simpa using ht), List.flatMap_cons, ih, List.flatMap_cons]
  rw [parametersOf, hfilled, List.flatMap_map, ← filter_segments hcomma 0 cs]
  exact List.flatMap_congr fun s _ => filter_trimBlanks hblank s

theorem filter_listed (hcomma : keep ',' = false) (hspace : keep ' ' = false)
    (ps : List (List Char)) : (listed ps).filter keep = ps.flatMap (List.filter keep) := by
  induction ps with
  | nil => rfl
  | cons p ps ih =>
    cases ps with
    | nil => simp
    | cons q qs =>
      rw [Text.listed_cons_cons, List.flatMap_cons, ← ih]
      simp [hcomma, hspace]

/-- **Nothing but commas and blanks is lost** when the parameters of a list are listed again. -/
theorem filter_listed_parametersOf (hcomma : keep ',' = false)
    (hblank : ∀ c, isBlank c = true → keep c = false) (cs : List Char) :
    (listed (parametersOf cs)).filter keep = cs.filter keep := by
  rw [filter_listed hcomma (hblank ' ' (by decide)), filter_parametersOf hcomma hblank]

end Filter

end ExploitReplay.Signature
