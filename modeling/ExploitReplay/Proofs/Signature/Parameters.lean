import ExploitReplay.Proofs.Signature.Segments

/-!
# Well-nested parameters

A parameter is well nested when its brackets match and its commas stand between brackets. Such
parameters hide their brackets and commas from a reader outside: the list closes at its own
parenthesis, and is cut at its own commas only.

## Main definitions

* `nests stack cs`: the text matches its own brackets, and closes those on the stack
* `Parameter cs`: a tidy, well-nested text

## Main results

* `closing_listed`: a list of parameters ends at its own parenthesis
* `parametersOf_listed`: the parameters of a list are found again
-/

namespace ExploitReplay.Signature

open Text (Tidy listed listed_cons_cons)

/-- The text matches its own brackets and then closes those on the stack; all its commas stand
between brackets. -/
def nests : List Char → List Char → Bool
  | stack, [] => stack = []
  | stack, c :: cs =>
    if c = '(' then nests (')' :: stack) cs
    else if c = '[' then nests (']' :: stack) cs
    else if c = ')' ∨ c = ']' then
      match stack with
      | [] => false
      | closer :: stack => closer = c && nests stack cs
    else (c ≠ ',' ∨ stack ≠ []) && nests stack cs

/-- What the first character of a well-nested text does to the stack. -/
inductive NestStep (stack : List Char) : Char → List Char → Prop
  | openParen : NestStep stack '(' (')' :: stack)
  | openSquare : NestStep stack '[' (']' :: stack)
  | closeParen (outer : List Char) (top : stack = ')' :: outer) : NestStep stack ')' outer
  | closeSquare (outer : List Char) (top : stack = ']' :: outer) : NestStep stack ']' outer
  | other (c : Char) (bracket : c ∉ ['(', ')', '[', ']']) (comma : c = ',' → stack ≠ []) :
      NestStep stack c stack

theorem nestStep_of_nests_cons {stack cs : List Char} {c : Char}
    (h : nests stack (c :: cs) = true) :
    ∃ stack', NestStep stack c stack' ∧ nests stack' cs = true := by
  by_cases hop : c = '('
  · subst hop
    exact ⟨_, .openParen, by simpa [nests] using h⟩
  by_cases hos : c = '['
  · subst hos
    exact ⟨_, .openSquare, by simpa [nests] using h⟩
  by_cases hcp : c = ')'
  · subst hcp
    cases stack with
    | nil => simp [nests] at h
    | cons closer outer =>
      obtain ⟨rfl, h⟩ : closer = ')' ∧ nests outer cs = true := by simpa [nests] using h
      exact ⟨outer, .closeParen outer rfl, h⟩
  by_cases hcs : c = ']'
  · subst hcs
    cases stack with
    | nil => simp [nests] at h
    | cons closer outer =>
      obtain ⟨rfl, h⟩ : closer = ']' ∧ nests outer cs = true := by simpa [nests] using h
      exact ⟨outer, .closeSquare outer rfl, h⟩
  · obtain ⟨hcomma, h⟩ : (¬c = ',' ∨ ¬stack = []) ∧ nests stack cs = true := by
      simpa [nests, hop, hos, hcp, hcs] using h
    exact ⟨stack, .other c (by simp [hop, hos, hcp, hcs])
      fun hc => hcomma.resolve_left fun hne => hne hc, h⟩

/-! ### The end of the list -/

theorem closing_open_cons (depth : Nat) (cs : List Char) :
    closing depth ('(' :: cs) = (closing (depth + 1) cs).map fun p => ('(' :: p.1, p.2) := by
  cases depth <;> simp [closing]

theorem closing_close_cons (depth : Nat) (cs : List Char) :
    closing (depth + 1) (')' :: cs) = (closing depth cs).map fun p => (')' :: p.1, p.2) := by
  simp [closing]

@[simp] theorem closing_zero_close_cons (cs : List Char) : closing 0 (')' :: cs) = some ([], cs) := by
  simp [closing]

theorem closing_cons_of_ne {c : Char} (hopen : c ≠ '(') (hclose : c ≠ ')') (depth : Nat)
    (cs : List Char) :
    closing depth (c :: cs) = (closing depth cs).map fun p => (c :: p.1, p.2) := by
  cases depth <;> simp [closing, hopen, hclose]

/-- **A well-nested text closes no parenthesis around it.** -/
theorem closing_append_of_nests {stack cs : List Char} (h : nests stack cs = true)
    (rest : List Char) :
    closing (stack.count ')') (cs ++ rest) = (closing 0 rest).map fun p => (cs ++ p.1, p.2) := by
  -- of the stack only the parentheses count; the square brackets on it are passed over
  induction cs generalizing stack with
  | nil =>
    obtain rfl : stack = [] := by simpa [nests] using h
    simp
  | cons c cs ih =>
    obtain ⟨stack', hstep, hnests⟩ := nestStep_of_nests_cons h
    have ih := ih hnests
    cases hstep with
    | openParen =>
      rw [List.count_cons_self] at ih
      rw [List.cons_append, closing_open_cons, ih, Option.map_map]
      rfl
    | openSquare =>
      rw [List.count_cons_of_ne (by decide)] at ih
      rw [List.cons_append, closing_cons_of_ne (by decide) (by decide), ih, Option.map_map]
      rfl
    | closeParen outer top =>
      subst top
      rw [List.cons_append, List.count_cons_self, closing_close_cons, ih, Option.map_map]
      rfl
    | closeSquare outer top =>
      subst top
      rw [List.cons_append, closing_cons_of_ne (by decide) (by decide),
        List.count_cons_of_ne (by decide), ih, Option.map_map]
      rfl
    | other c bracket comma =>
      obtain ⟨hopen, hclose⟩ : c ≠ '(' ∧ c ≠ ')' := by
        constructor <;> rintro rfl <;> simp at bracket
      rw [List.cons_append, closing_cons_of_ne hopen hclose, ih, Option.map_map]
      rfl

/-! ### The commas of the list -/

theorem NestStep.length_eq {stack stack' : List Char} {c : Char} (h : NestStep stack c stack') :
    (stack.length : Int) + bracketStep c = stack'.length := by
  cases h with
  | openParen | openSquare => simp [bracketStep]
  | closeParen outer top =>
    have hclose : bracketStep ')' = -1 := by decide
    rw [top, List.length_cons, hclose]
    omega
  | closeSquare outer top =>
    have hclose : bracketStep ']' = -1 := by decide
    rw [top, List.length_cons, hclose]
    omega
  | other c bracket comma =>
    simp only [List.mem_cons, List.not_mem_nil, or_false, not_or] at bracket
    simp [bracketStep, bracket]

/-- A comma of a well-nested text is not outside all brackets. -/
theorem NestStep.not_cut {stack stack' : List Char} {c : Char} (h : NestStep stack c stack') :
    ¬(c = ',' ∧ (stack.length : Int) = 0) := by
  rintro ⟨rfl, hlength⟩
  cases h with
  | other _ _ comma => exact comma rfl (List.length_eq_zero_iff.mp (by omega))

/-- **A well-nested text is not cut**, and closes the brackets on the stack. -/
theorem whole_of_nests {stack cs : List Char} (h : nests stack cs = true) :
    Whole stack.length cs ∧ (stack.length : Int) + bracketDepth cs = 0 := by
  -- here both kinds of brackets count, so the depth is the whole stack
  induction cs generalizing stack with
  | nil =>
    obtain rfl : stack = [] := by simpa [nests] using h
    exact ⟨rfl, rfl⟩
  | cons c cs ih =>
    obtain ⟨stack', hstep, hnests⟩ := nestStep_of_nests_cons h
    obtain ⟨hwhole, hdepth⟩ := ih hnests
    rw [← hstep.length_eq] at hwhole hdepth
    exact ⟨whole_cons_iff.mpr ⟨hstep.not_cut, hwhole⟩, by rwa [bracketDepth_cons, ← Int.add_assoc]⟩

/-! ### Lists of parameters -/

/-- A parameter as it may be written: tidy and well nested. -/
structure Parameter (cs : List Char) : Prop where
  tidy : Tidy cs
  nests : nests [] cs = true

instance : DecidablePred Parameter := fun cs =>
  decidable_of_iff (Tidy cs ∧ Signature.nests [] cs = true)
    ⟨fun h => ⟨h.1, h.2⟩, fun h => ⟨h.1, h.2⟩⟩

theorem Parameter.closing_append {p : List Char} (h : Parameter p) (rest : List Char) :
    closing 0 (p ++ rest) = (closing 0 rest).map fun q => (p ++ q.1, q.2) :=
  closing_append_of_nests h.nests rest

/-- **A list of parameters ends at its own parenthesis.** -/
theorem closing_listed {ps : List (List Char)} (h : ∀ p ∈ ps, Parameter p) (tail : List Char) :
    closing 0 (listed ps ++ ')' :: tail) = some (listed ps, tail) := by
  induction ps with
  | nil => simp
  | cons p ps ih =>
    have hp := h p (by simp)
    have ih := ih fun q hq => h q (List.mem_cons_of_mem _ hq)
    cases ps with
    | nil => simp [hp.closing_append]
    | cons q qs =>
      rw [listed_cons_cons, List.append_assoc, List.append_assoc, hp.closing_append,
        List.singleton_append, List.cons_append, closing_cons_of_ne (by decide) (by decide),
        closing_cons_of_ne (by decide) (by decide), ih]
      simp

/-- Parameters are cut at the commas between them. -/
theorem cut_of_forall_parameter {ps : List (List Char)} (hne : ps ≠ [])
    (h : ∀ p ∈ ps, Parameter p) : Cut 0 ps := by
  induction ps with
  | nil => exact absurd rfl hne
  | cons p ps ih =>
    obtain ⟨hwhole, hdepth⟩ := whole_of_nests (h p (by simp)).nests
    cases ps with
    | nil => exact .last hwhole
    | cons q qs =>
      exact .cons hwhole hdepth (ih (by simp) fun r hr => h r (List.mem_cons_of_mem _ hr))

/-- **The parameters of a list are found again.** -/
theorem parametersOf_listed {ps : List (List Char)} (h : ∀ p ∈ ps, Parameter p) :
    parametersOf (listed ps) = ps := by
  by_cases hne : ps = []
  · subst hne
    rfl
  · exact (cut_of_forall_parameter hne h).parametersOf_listed fun p hp => (h p hp).tidy

end ExploitReplay.Signature
