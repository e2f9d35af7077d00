/-!
# Cutting texts

## Main definitions

* `before d cs`, `after? d cs`: the text before the first `d`, and what follows it
* `afterText? key cs`: what follows the first occurrence of a key
* `onFirst f xs`, `onLast f xs`: a list with its first, or its last, member changed
-/

namespace ExploitReplay.Text

/-- The text before the first `d`; all of it, if there is none. -/
def before (d : Char) (cs : List Char) : List Char :=
  cs.takeWhile (· != d)

/-- What follows the first `d`. -/
def after? (d : Char) : List Char → Option (List Char)
  | [] => none
  | c :: cs => if c = d then some cs else after? d cs

/-- What follows the first occurrence of a key that is not empty. -/
def afterText? (key : List Char) : List Char → Option (List Char)
  | [] => none
  | c :: cs =>
    if key.isPrefixOf (c :: cs) then some ((c :: cs).drop key.length) else afterText? key cs

/-- A list with its first member changed. -/
def onFirst {α : Type} (f : α → α) : List α → List α
  | [] => []
  | x :: xs => f x :: xs

/-- A list with its last member changed. -/
def onLast {α : Type} (f : α → α) : List α → List α
  | [] => []
  | [x] => [f x]
  | x :: y :: ys => x :: onLast f (y :: ys)

theorem after?_eq_none_iff {d : Char} {cs : List Char} : after? d cs = none ↔ d ∉ cs := by
  induction cs with
  | nil => simp [after?]
  | cons c cs ih =>
    by_cases h : c = d
    · simp [after?, h]
    · simp [after?, h, ih, Ne.symm h]

/-- The first `d` splits the text in two. -/
theorem before_append_after {d : Char} {cs rest : List Char} (h : after? d cs = some rest) :
    before d cs ++ d :: rest = cs := by
  induction cs with
  | nil => simp [after?] at h
  | cons c cs ih =>
    by_cases hc : c = d
    · simp only [after?, hc, if_true, Option.some.injEq] at h
      simp [before, hc, h]
    · simp only [after?, hc, if_false] at h
      simpa [before, hc] using ih h

@[simp] theorem length_onFirst {α : Type} (f : α → α) (xs : List α) :
    (onFirst f xs).length = xs.length := by
  cases xs <;> rfl

@[simp] theorem length_onLast {α : Type} (f : α → α) (xs : List α) :
    (onLast f xs).length = xs.length := by
  fun_induction onLast f xs <;> simp_all

end ExploitReplay.Text
