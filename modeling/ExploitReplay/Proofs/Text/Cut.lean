import ExploitReplay.Text.Cut
import Mathlib.Data.List.TakeWhile

/-!
# Cutting composed texts

A text is cut at the first place where the cutting character, or the key, stands; parts without it
stay whole.

## Main results

* `before_append`, `after?_append`: cutting behind a part without the character
* `afterText?_eq_none`, `afterText?_self_append`: cutting at a key
* `onLast_append_singleton`, `onLast_onLast`: changing the last member of a list
-/

namespace ExploitReplay.Text

variable {d : Char} {as w key : List Char}

/-! ### At a character -/

theorem forall_bne_of_not_mem (h : d ∉ as) : ∀ c ∈ as, (c != d) = true := by
  intro c hc
  simpa using fun he : c = d => h (he ▸ hc)

theorem not_mem_before (d : Char) (cs : List Char) : d ∉ before d cs := by
  intro hmem
  simpa using List.mem_takeWhile_imp hmem

theorem before_append (h : d ∉ as) (bs : List Char) : before d (as ++ d :: bs) = as := by
  rw [before, List.takeWhile_append_of_pos (forall_bne_of_not_mem h)]
  simp

theorem after?_append (h : d ∉ as) (bs : List Char) : after? d (as ++ d :: bs) = some bs := by
  induction as with
  | nil => simp [after?]
  | cons a as ih =>
    obtain ⟨ha, has⟩ := List.ne_and_not_mem_of_not_mem_cons h
    simp [after?, Ne.symm ha, ih has]

theorem after?_cons_of_ne {c : Char} (h : c ≠ d) (cs : List Char) :
    after? d (c :: cs) = after? d cs := by
  rw [after?, if_neg h]

theorem after?_append_of_not_mem (h : d ∉ as) (bs : List Char) :
    after? d (as ++ bs) = after? d bs := by
  induction as with
  | nil => rfl
  | cons a as ih =>
    obtain ⟨ha, has⟩ := List.ne_and_not_mem_of_not_mem_cons h
    rw [List.cons_append, after?_cons_of_ne ha.symm, ih has]

/-! ### At a key -/

theorem afterText?_eq_none (h : ¬key <:+: w) : afterText? key w = none := by
  induction w with
  | nil => rfl
  | cons c w ih =>
    rw [List.infix_cons_iff, not_or] at h
    rw [afterText?, if_neg (by simpa using h.1), ih h.2]

theorem afterText?_eq_none_iff (hkey : key ≠ []) : afterText? key w = none ↔ ¬key <:+: w := by
  refine ⟨fun hnone => ?_, afterText?_eq_none⟩
  induction w with
  | nil => simpa using hkey
  | cons c w ih =>
    rw [afterText?] at hnone
    split at hnone
    · cases hnone
    · rename_i hprefix
      rw [List.infix_cons_iff, not_or]
      exact ⟨by simpa using hprefix, ih hnone⟩

theorem afterText?_self_append (h : key ≠ []) (bs : List Char) :
    afterText? key (key ++ bs) = some bs := by
  obtain ⟨c, key, rfl⟩ := List.exists_cons_of_ne_nil h
  rw [List.cons_append, afterText?, if_pos (by simp)]
  simp

/-! ### Lists with one member changed -/

section Members

variable {α : Type} {f g : α → α} {xs : List α}

theorem onFirst_ne_nil (h : xs ≠ []) : onFirst f xs ≠ [] := by
  obtain ⟨x, xs, rfl⟩ := List.exists_cons_of_ne_nil h
  simp [onFirst]

theorem onLast_append_singleton (f : α → α) (xs : List α) (x : α) :
    onLast f (xs ++ [x]) = xs ++ [f x] := by
  induction xs with
  | nil => rfl
  | cons y ys ih =>
    obtain ⟨z, zs, hzs⟩ :=
      List.exists_cons_of_ne_nil (List.append_ne_nil_of_right_ne_nil ys (List.cons_ne_nil x []))
    rw [List.cons_append, List.cons_append, ← ih, hzs, onLast]

theorem onFirst_onFirst (f g : α → α) (xs : List α) :
    onFirst f (onFirst g xs) = onFirst (f ∘ g) xs := by
  cases xs <;> rfl

theorem onLast_onLast (f g : α → α) (xs : List α) :
    onLast f (onLast g xs) = onLast (f ∘ g) xs := by
  induction xs with
  | nil => rfl
  | cons x xs ih =>
    cases xs with
    | nil => rfl
    | cons y ys =>
      have hne : onLast g (y :: ys) ≠ [] := by
        intro he
        simpa using congrArg List.length he
      obtain ⟨z, zs, hzs⟩ := List.exists_cons_of_ne_nil hne
      rw [hzs] at ih
      rw [onLast, hzs, onLast, ih, onLast]

theorem onFirst_eq_self (h : ∀ x ∈ xs, f x = x) : onFirst f xs = xs := by
  cases xs with
  | nil => rfl
  | cons x xs => rw [onFirst, h x (by simp)]

theorem onLast_eq_self (h : ∀ x ∈ xs, f x = x) : onLast f xs = xs := by
  induction xs with
  | nil => rfl
  | cons x xs ih =>
    cases xs with
    | nil => rw [onLast, h x (by simp)]
    | cons y ys => rw [onLast, ih fun z hz => h z (List.mem_cons_of_mem _ hz)]

theorem mem_onFirst {y : α} (h : y ∈ onFirst f xs) :
    y ∈ xs ∨ ∃ x ∈ xs, y = f x := by
  cases xs with
  | nil => simp [onFirst] at h
  | cons x xs =>
    rcases List.mem_cons.mp h with rfl | h
    · exact .inr ⟨x, by simp, rfl⟩
    · exact .inl (by simp [h])

theorem mem_onLast {y : α} (h : y ∈ onLast f xs) :
    y ∈ xs ∨ ∃ x ∈ xs, y = f x := by
  fun_induction onLast f xs with
  | case1 => simp at h
  | case2 x => exact .inr ⟨x, by simp, by simpa using h⟩
  | case3 x x' xs ih =>
    rcases List.mem_cons.mp h with rfl | h
    · exact .inl (by simp)
    · rcases ih h with hy | ⟨z, hz, rfl⟩
      · exact .inl (List.mem_cons_of_mem _ hy)
      · exact .inr ⟨z, List.mem_cons_of_mem _ hz, rfl⟩

end Members

end ExploitReplay.Text
