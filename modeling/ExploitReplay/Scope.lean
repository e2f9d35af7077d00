/-!
# Scopes

The names a generated test has declared so far, each with its value and its type. A name that is
declared again keeps its place and gets the new value and type.

## Main definitions

* `Binding`, `Scope`: a declared name, and the declared names in order
* `Scope.define s b`: the scope after a declaration
* `Scope.find? s name`: the binding of a name
* `Scope.holding? s value`: the binding to refer to a value by
* `Scope.ofHistory bs`: the scope after a history of declarations

## Main results

* `find?_define_self`, `find?_define_of_ne`: what a name is bound to after a declaration
* `names_define`: a declaration adds at most its own name, at the end
-/

namespace ExploitReplay

/-- A declared name with its value and its type. -/
structure Binding where
  name : String
  value : String
  type : String
deriving DecidableEq, Repr

/-- The declared names, in the order of their first declaration. -/
structure Scope where
  bindings : List Binding := []
deriving DecidableEq, Repr

namespace Scope

/-- The scope without a declaration. -/
def empty : Scope := {}

/-- The bindings with one more, in the place of the earlier binding of the same name if there is
one. -/
def overwrite (b : Binding) : List Binding → List Binding
  | [] => [b]
  | x :: xs => if x.name = b.name then b :: xs else x :: overwrite b xs

/-- The scope after a declaration. -/
def define (s : Scope) (b : Binding) : Scope :=
  ⟨overwrite b s.bindings⟩

/-- The scope after several declarations. -/
def defineAll (s : Scope) (bs : List Binding) : Scope :=
  bs.foldl define s

/-- The scope after a history of declarations, the earliest first. -/
def ofHistory (bs : List Binding) : Scope :=
  empty.defineAll bs

/-- The declared names, in the order of their first declaration. -/
def names (s : Scope) : List String :=
  s.bindings.map (·.name)

/-- How many names are declared. -/
def size (s : Scope) : Nat :=
  s.bindings.length

/-- The binding of a name. -/
def find? (s : Scope) (name : String) : Option Binding :=
  s.bindings.find? (·.name == name)

/-- The name is declared. -/
def contains (s : Scope) (name : String) : Bool :=
  (s.find? name).isSome

/-- The binding to refer to a value by, after those seen already: an address as soon as there is
one, and otherwise the latest binding that holds the value. -/
def latestHolding (value : String) : Option Binding → List Binding → Option Binding
  | latest, [] => latest
  | latest, b :: bs =>
    if b.value = value then
      if b.type = "address" then some b else latestHolding value (some b) bs
    else latestHolding value latest bs

/-- The binding to refer to a value by. -/
def holding? (s : Scope) (value : String) : Option Binding :=
  latestHolding value none s.bindings

/-- How a value is written: by a name that holds it, if there is one. -/
def reference (s : Scope) (value : String) : String :=
  match s.holding? value with
  | some b => b.name
  | none => value

/-! ### What a declaration changes -/

@[simp] theorem find?_empty (name : String) : empty.find? name = none := rfl

@[simp] theorem defineAll_nil (s : Scope) : s.defineAll [] = s := rfl

@[simp] theorem defineAll_cons (s : Scope) (b : Binding) (bs : List Binding) :
    s.defineAll (b :: bs) = (s.define b).defineAll bs := rfl

theorem defineAll_append (s : Scope) (bs cs : List Binding) :
    s.defineAll (bs ++ cs) = (s.defineAll bs).defineAll cs :=
  List.foldl_append

@[simp] theorem find?_define_self (s : Scope) (b : Binding) :
    (s.define b).find? b.name = some b := by
  obtain ⟨bs⟩ := s
  induction bs with
  | nil => simp [define, overwrite, find?]
  | cons x xs ih =>
    by_cases h : x.name = b.name
    · simp [define, overwrite, find?, h]
    · simpa [define, overwrite, find?, h] using ih

theorem find?_define_of_ne (s : Scope) {b : Binding} {name : String} (h : name ≠ b.name) :
    (s.define b).find? name = s.find? name := by
  obtain ⟨bs⟩ := s
  induction bs with
  | nil => simp [define, overwrite, find?, Ne.symm h]
  | cons x xs ih =>
    by_cases hx : x.name = b.name
    · simp [define, overwrite, find?, hx, Ne.symm h]
    · by_cases hn : x.name = name
      · simp [define, overwrite, find?, hn, h]
      · simpa [define, overwrite, find?, hx, hn] using ih

/-- A declaration adds at most its own name, at the end. -/
theorem names_define (s : Scope) (b : Binding) :
    (s.define b).names = if b.name ∈ s.names then s.names else s.names ++ [b.name] := by
  obtain ⟨bs⟩ := s
  induction bs with
  | nil => simp [define, overwrite, names]
  | cons x xs ih =>
    by_cases h : x.name = b.name
    · simp [define, overwrite, names, h]
    · have h' : ¬b.name = x.name := fun e => h e.symm
      simp only [define, overwrite, names, h, if_false, List.map_cons, List.mem_cons, h',
        false_or] at ih ⊢
      rw [ih]
      split <;> simp_all

end Scope

end ExploitReplay
