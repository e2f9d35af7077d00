import ExploitReplay.Sequence.Document
import Mathlib.Data.List.Forall2

/-!
# Lists that are read member by member

The steps, the arguments and the token grants of a document are read alike: every member by its
number, up to the first one that is rejected.

## Main definitions

* `eachFrom read n items`: the members from number `n` on, up to the first that is rejected

## Main results

* `eachFrom_eq_error_iff`: a list is rejected for the first member that is
* `eachFrom_isOk_iff`: it is accepted if all its members are
* `forall₂_of_eachFrom`: the members of an accepted list are read one by one
* `eachFrom_congr`: lists whose members are read alike are read alike
* `stepsOf_eq_eachFrom`, `inputsOf_eq_eachFrom`, `grantsOf_eq_eachFrom`
-/

namespace ExploitReplay.Exploit

/-! ### How a chain of checks ends -/

section Chain

variable {ε α β : Type} {x : Except ε α}

theorem bind_eq_error_iff {next : α → Except ε β} {e : ε} :
    x.bind next = .error e ↔ x = .error e ∨ ∃ a, x = .ok a ∧ next a = .error e := by
  cases x <;> simp [Except.bind]

theorem bind_eq_ok_iff {next : α → Except ε β} {b : β} :
    x.bind next = .ok b ↔ ∃ a, x = .ok a ∧ next a = .ok b := by
  cases x <;> simp [Except.bind]

theorem map_eq_error_iff {f : α → β} {e : ε} : x.map f = .error e ↔ x = .error e := by
  cases x <;> simp [Except.map]

theorem map_eq_ok_iff {f : α → β} {b : β} : x.map f = .ok b ↔ ∃ a, x = .ok a ∧ f a = b := by
  cases x <;> simp [Except.map]

end Chain

/-! ### Members and their numbers -/

section Members

variable {ε α β : Type} {read : Nat → α → Except ε β}

/-- The members of a list from number `n` on, up to the first that is rejected. -/
def eachFrom (read : Nat → α → Except ε β) : Nat → List α → Except ε (List β)
  | _, [] => .ok []
  | n, v :: rest => (read n v).bind fun b => (eachFrom read (n + 1) rest).map (b :: ·)

theorem eachFrom_cons_eq_ok_iff {n : Nat} {v : α} {rest : List α} {bs : List β} :
    eachFrom read n (v :: rest) = .ok bs ↔
      ∃ b cs, read n v = .ok b ∧ eachFrom read (n + 1) rest = .ok cs ∧ bs = b :: cs := by
  rw [eachFrom, bind_eq_ok_iff]
  constructor
  · rintro ⟨b, hb, hrest⟩
    obtain ⟨cs, hcs, rfl⟩ := map_eq_ok_iff.mp hrest
    exact ⟨b, cs, hb, hcs, rfl⟩
  · rintro ⟨b, cs, hb, hcs, rfl⟩
    exact ⟨b, hb, map_eq_ok_iff.mpr ⟨cs, hcs, rfl⟩⟩

/-- **A list is rejected for the first member that is.** -/
theorem eachFrom_eq_error_iff {n : Nat} {items : List α} {e : ε} :
    eachFrom read n items = .error e ↔ ∃ before v after bs, items = before ++ v :: after ∧
      eachFrom read n before = .ok bs ∧ read (n + before.length) v = .error e := by
  -- on the members: the first one is rejected, or one behind it is, counted from the next number
  induction items generalizing n with
  | nil => simp [eachFrom]
  | cons w rest ih =>
    rw [eachFrom, bind_eq_error_iff]
    constructor
    · rintro (hw | ⟨b, hb, hrest⟩)
      · exact ⟨[], w, rest, [], rfl, rfl, hw⟩
      · obtain ⟨before, v, after, cs, rfl, hcs, hv⟩ := ih.mp (map_eq_error_iff.mp hrest)
        refine ⟨w :: before, v, after, b :: cs, rfl, ?_, ?_⟩
        · exact eachFrom_cons_eq_ok_iff.mpr ⟨b, cs, hb, hcs, rfl⟩
        · rwa [List.length_cons, Nat.add_comm before.length, ← Nat.add_assoc]
    · rintro ⟨before, v, after, bs, hitems, hbs, hv⟩
      cases before with
      | nil =>
        obtain ⟨rfl, -⟩ := List.cons.inj hitems
        exact .inl hv
      | cons w' before =>
        obtain ⟨rfl, rfl⟩ := List.cons.inj hitems
        obtain ⟨b, cs, hb, hcs, -⟩ := eachFrom_cons_eq_ok_iff.mp hbs
        refine .inr ⟨b, hb, map_eq_error_iff.mpr (ih.mpr ⟨before, v, after, cs, rfl, hcs, ?_⟩)⟩
        rwa [List.length_cons, Nat.add_comm before.length, ← Nat.add_assoc] at hv

/-- **A list is accepted if all its members are**, whatever their numbers. -/
theorem eachFrom_isOk_iff {P : α → Prop} (hread : ∀ n v, (∃ b, read n v = .ok b) ↔ P v) (n : Nat)
    (items : List α) : (∃ bs, eachFrom read n items = .ok bs) ↔ ∀ v ∈ items, P v := by
  induction items generalizing n with
  | nil => simp [eachFrom]
  | cons v rest ih =>
    rw [List.forall_mem_cons, ← hread n v, ← ih (n + 1)]
    constructor
    · rintro ⟨bs, hbs⟩
      obtain ⟨b, cs, hb, hcs, -⟩ := eachFrom_cons_eq_ok_iff.mp hbs
      exact ⟨⟨b, hb⟩, cs, hcs⟩
    · rintro ⟨⟨b, hb⟩, cs, hcs⟩
      exact ⟨b :: cs, eachFrom_cons_eq_ok_iff.mpr ⟨b, cs, hb, hcs, rfl⟩⟩

/-- **The members of an accepted list are read one by one**, in their places. -/
theorem forall₂_of_eachFrom {R : α → β → Prop} {n : Nat} {items : List α} {bs : List β}
    (h : eachFrom read n items = .ok bs) (hread : ∀ n v b, read n v = .ok b → R v b) :
    List.Forall₂ R items bs := by
  induction items generalizing n bs with
  | nil =>
    obtain rfl := Except.ok.inj h
    exact .nil
  | cons v rest ih =>
    obtain ⟨b, cs, hb, hcs, rfl⟩ := eachFrom_cons_eq_ok_iff.mp h
    exact .cons (hread n v b hb) (ih hcs)

/-- Lists whose members are read alike are read alike. -/
theorem eachFrom_congr {γ : Type} {read' : Nat → γ → Except ε β} {items : List α}
    {items' : List γ} (h : List.Forall₂ (fun v w => ∀ n, read n v = read' n w) items items')
    (n : Nat) : eachFrom read n items = eachFrom read' n items' := by
  induction h generalizing n with
  | nil => rfl
  | cons head _ ih => rw [eachFrom, eachFrom, head n, ih (n + 1)]

end Members

/-! ### Steps, arguments and token grants -/

theorem stepsOf_eq_eachFrom (n : Nat) (items : List Json) :
    stepsOf n items = eachFrom stepOf n items := by
  induction items generalizing n with
  | nil => rfl
  | cons v rest ih => rw [stepsOf, eachFrom, ih]

theorem inputsOf_eq_eachFrom (i n : Nat) (items : List Json) :
    inputsOf i n items = eachFrom (inputOf i) n items := by
  induction items generalizing n with
  | nil => rfl
  | cons v rest ih => rw [inputsOf, eachFrom, ih]

theorem grantsOf_eq_eachFrom (n : Nat) (items : List Json) :
    grantsOf n items = eachFrom grantOf n items := by
  induction items generalizing n with
  | nil => rfl
  | cons v rest ih => rw [grantsOf, eachFrom, ih]

end ExploitReplay.Exploit
