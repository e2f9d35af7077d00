import ExploitReplay.Scope
import Mathlib.Data.List.Basic

/-!
# What a scope knows

A scope is read in two ways: by a name, and by a value. Reading by a name depends on the set of
declared names only. Reading by the address of an account depends on the bindings of type
`address` that hold a value, in their order, and on nothing else.

## Main definitions

* `Scope.addresses s`: the bindings of a scope that hold an address
* `Scope.WritesAs s address name`: the first binding that holds an address has the name

## Main results

* `mem_names_defineAll`: the names after a history of declarations
* `find?_eq_none_iff`: a name has no binding iff it is not declared
* `reference_cases`: a value is written by a declared name, or as it is
* `reference_of_find?_addresses`: an address is written by the first binding that holds it
* `WritesAs.define`: an address is written alike until its name is taken for something else
* `addresses_define_of_not_holds`, `addresses_define_of_holds`: a declaration acts on the held
  addresses as on a scope of their own
-/

namespace ExploitReplay.Scope

/-! ### Reading by a name -/

theorem mem_names_define {s : Scope} {b : Binding} {name : String} :
    name ∈ (s.define b).names ↔ name ∈ s.names ∨ name = b.name := by
  rw [names_define]
  split
  · rename_i h
    constructor
    · exact Or.inl
    · rintro (hn | rfl)
      · exact hn
      · exact h
  · simp

/-- A history of declarations adds the names it declares. -/
theorem mem_names_defineAll {s : Scope} {bs : List Binding} {name : String} :
    name ∈ (s.defineAll bs).names ↔ name ∈ s.names ∨ name ∈ bs.map (·.name) := by
  induction bs generalizing s with
  | nil => simp
  | cons b bs ih =>
    rw [defineAll_cons, ih, mem_names_define, List.map_cons, List.mem_cons, or_assoc]

theorem name_of_find? {s : Scope} {name : String} {b : Binding} (h : s.find? name = some b) :
    b.name = name := by
  simpa using List.find?_some h

theorem find?_eq_none_iff {s : Scope} {name : String} : s.find? name = none ↔ name ∉ s.names := by
  simp only [find?, names, List.find?_eq_none, beq_iff_eq, List.mem_map, not_exists, not_and]

/-! ### Reading by a value -/

theorem mem_of_latestHolding {value : String} {latest : Option Binding} {bs : List Binding}
    {b : Binding} (h : latestHolding value latest bs = some b) : b ∈ bs ∨ latest = some b := by
  induction bs generalizing latest with
  | nil => exact .inr h
  | cons x xs ih =>
    unfold latestHolding at h
    split at h
    · split at h
      · exact .inl (by simp [Option.some.inj h])
      · rcases ih h with hmem | hlast
        · exact .inl (List.mem_cons_of_mem _ hmem)
        · exact .inl (by simp [Option.some.inj hlast])
    · exact (ih h).imp_left (List.mem_cons_of_mem _)

theorem value_of_latestHolding {value : String} {latest : Option Binding} {bs : List Binding}
    {b : Binding} (h : latestHolding value latest bs = some b) :
    b.value = value ∨ latest = some b := by
  induction bs generalizing latest with
  | nil => exact .inr h
  | cons x xs ih =>
    unfold latestHolding at h
    split at h
    · rename_i hx
      split at h
      · exact .inl (Option.some.inj h ▸ hx)
      · rcases ih h with hvalue | hlast
        · exact .inl hvalue
        · exact .inl (Option.some.inj hlast ▸ hx)
    · exact ih h

/-- The binding that a value is written by is declared, and holds the value. -/
theorem of_holding? {s : Scope} {value : String} {b : Binding} (h : s.holding? value = some b) :
    b ∈ s.bindings ∧ b.value = value :=
  ⟨(mem_of_latestHolding h).resolve_right nofun, (value_of_latestHolding h).resolve_right nofun⟩

/-- A value is written by a declared name, or as it is. -/
theorem reference_cases (s : Scope) (value : String) :
    s.reference value ∈ s.names ∨ s.reference value = value := by
  unfold reference
  split
  · rename_i b hb
    exact .inl (List.mem_map.mpr ⟨b, (of_holding? hb).1, rfl⟩)
  · exact .inr rfl

/-! ### Reading by an address -/

/-- The binding holds an address: it is an address, and not the empty text of a variable that
keeps a returned value. -/
def holdsAddress (b : Binding) : Bool :=
  b.type = "address" ∧ b.value ≠ ""

/-- The bindings of a scope that hold an address, in order. -/
def addresses (s : Scope) : Scope :=
  ⟨s.bindings.filter holdsAddress⟩

theorem latestHolding_of_find? {value : String} (hv : value ≠ "") {b : Binding} {bs : List Binding}
    (h : (bs.filter holdsAddress).find? (·.value == value) = some b) (latest : Option Binding) :
    latestHolding value latest bs = some b := by
  induction bs generalizing latest with
  | nil => simp at h
  | cons x xs ih =>
    by_cases hx : x.value = value
    · by_cases ht : x.type = "address"
      · -- the search ends at the first address with this value
        have hb : x = b := by simpa [holdsAddress, ht, hx, hv] using h
        simpa [latestHolding, hx, ht] using hb
      · simp only [latestHolding, hx, ht, if_true, if_false]
        exact ih (by simpa [holdsAddress, ht] using h) _
    · -- another value is passed over, whether it is an address or not
      have h' : (xs.filter holdsAddress).find? (·.value == value) = some b := by
        rw [List.filter_cons] at h
        split at h
        · simpa [hx] using h
        · exact h
      simp only [latestHolding, hx, if_false]
      exact ih h' _

/-- **An address is written by the first binding that holds it.** -/
theorem reference_of_find?_addresses {s : Scope} {value : String} {b : Binding}
    (h : s.addresses.bindings.find? (·.value == value) = some b) : s.reference value = b.name := by
  have hv : value ≠ "" := by
    have hb : b ∈ s.bindings.filter holdsAddress := List.mem_of_find?_eq_some h
    have heq : b.value = value := by simpa using List.find?_some h
    simp only [List.mem_filter, holdsAddress, decide_eq_true_eq] at hb
    exact heq ▸ hb.2.2
  simp only [reference, holding?, latestHolding_of_find? hv h]

/-- The first binding that holds an address has the name. -/
def WritesAs (s : Scope) (address name : String) : Prop :=
  ∃ b, s.addresses.bindings.find? (·.value == address) = some b ∧ b.name = name

theorem WritesAs.reference {s : Scope} {address name : String} (h : s.WritesAs address name) :
    s.reference address = name := by
  obtain ⟨b, hfind, rfl⟩ := h
  exact reference_of_find?_addresses hfind

/-! ### What a declaration changes among the addresses -/

theorem mem_overwrite {b x : Binding} {bs : List Binding} (h : x ∈ overwrite b bs) :
    x = b ∨ x ∈ bs := by
  induction bs with
  | nil => simpa [overwrite] using h
  | cons y ys ih =>
    unfold overwrite at h
    split at h
    · rcases List.mem_cons.mp h with rfl | h
      · exact Or.inl rfl
      · exact Or.inr (List.mem_cons_of_mem _ h)
    · rcases List.mem_cons.mp h with rfl | h
      · exact Or.inr (List.mem_cons_self ..)
      · exact (ih h).imp_right (List.mem_cons_of_mem _)

theorem filter_overwrite_of_neg {p : Binding → Bool} {b : Binding} {bs : List Binding}
    (hb : p b = false) (hbs : ∀ x ∈ bs, x.name = b.name → p x = false) :
    (overwrite b bs).filter p = bs.filter p := by
  induction bs with
  | nil => simp [overwrite, hb]
  | cons x xs ih =>
    by_cases h : x.name = b.name
    · simp [overwrite, h, hb, hbs x (by simp) h]
    · have ih := ih fun y hy => hbs y (List.mem_cons_of_mem _ hy)
      simp [overwrite, h, List.filter_cons, ih]

theorem filter_overwrite_of_pos {p : Binding → Bool} {b : Binding} {bs : List Binding}
    (hb : p b = true) (hbs : ∀ x ∈ bs, x.name = b.name → p x = true) :
    (overwrite b bs).filter p = overwrite b (bs.filter p) := by
  induction bs with
  | nil => simp [overwrite, hb]
  | cons x xs ih =>
    by_cases h : x.name = b.name
    · simp [overwrite, h, hb, hbs x (by simp) h]
    · have ih := ih fun y hy => hbs y (List.mem_cons_of_mem _ hy)
      by_cases hx : p x = true
      · simp [overwrite, h, hx, ih]
      · simp [overwrite, h, hx, ih]

/-- The first binding with a property stays the first one when another name is bound to something
without the property. -/
theorem find?_overwrite_of_ne {p : Binding → Bool} {b x : Binding} {bs : List Binding}
    (h : bs.find? p = some x) (hb : p b = false) (hname : b.name ≠ x.name) :
    (overwrite b bs).find? p = some x := by
  induction bs with
  | nil => simp at h
  | cons y ys ih =>
    cases hy : p y with
    | true =>
      -- the search ends here, and this binding is not the one that is replaced
      obtain rfl : y = x := by simpa [hy] using h
      simp [overwrite, Ne.symm hname, hy]
    | false =>
      have h : ys.find? p = some x := by simpa [hy] using h
      unfold overwrite
      split
      · simpa [hb] using h
      · simpa [hy] using ih h

/-- **An address is written alike** until its name is taken for something that is no address. -/
theorem WritesAs.define {s : Scope} {address name : String} (h : s.WritesAs address name)
    {b : Binding} (hb : holdsAddress b = false) (hname : b.name ≠ name) :
    (s.define b).WritesAs address name := by
  obtain ⟨x, hfind, rfl⟩ := h
  refine ⟨x, ?_, rfl⟩
  change ((overwrite b s.bindings).filter holdsAddress).find? _ = _
  change (s.bindings.filter holdsAddress).find? _ = _ at hfind
  rw [List.find?_filter] at hfind ⊢
  exact find?_overwrite_of_ne hfind (by simp [hb]) hname

theorem WritesAs.defineAll {s : Scope} {address name : String} (h : s.WritesAs address name)
    {bs : List Binding} (hbs : ∀ b ∈ bs, holdsAddress b = false ∧ b.name ≠ name) :
    (s.defineAll bs).WritesAs address name := by
  induction bs generalizing s with
  | nil => exact h
  | cons b bs ih =>
    obtain ⟨hb, hname⟩ := hbs b (by simp)
    exact ih (h.define hb hname) fun x hx => hbs x (List.mem_cons_of_mem _ hx)

/-- A declaration that holds no address leaves the addresses alone, unless it takes the name of
one. -/
theorem addresses_define_of_not_holds {s : Scope} {b : Binding} (hb : holdsAddress b = false)
    (hs : ∀ x ∈ s.bindings, x.name = b.name → holdsAddress x = false) :
    (s.define b).addresses = s.addresses :=
  congrArg Scope.mk (filter_overwrite_of_neg hb hs)

/-- A declaration of an address is one among the addresses, unless it takes the name of another
kind of binding. -/
theorem addresses_define_of_holds {s : Scope} {b : Binding} (hb : holdsAddress b = true)
    (hs : ∀ x ∈ s.bindings, x.name = b.name → holdsAddress x = true) :
    (s.define b).addresses = s.addresses.define b :=
  congrArg Scope.mk (filter_overwrite_of_pos hb hs)

end ExploitReplay.Scope
