import ExploitReplay.Proofs.Registrations
import ExploitReplay.Proofs.Scope
import ExploitReplay.Proofs.Session.Depth

/-!
# Scopes after any history

A scope is filled by declaring names one after another, any of them several times. Read as a whole,
it lists the distinct names in the order of their first declaration, each with its last one. A value
is looked up among these: the first address that holds it is found, and otherwise the last binding
that does. What a name held before it was declared again is forgotten.

## Main definitions

* `Binding.IsLast history b`: the last declaration of its name in a history
* `Scope.current s`: what the names of a scope are bound to, in their order
* `Binding.command b`: the command that declares a binding
* `Recalls history context`: what a context answers after a history of declarations

## Main results

* `find?_defineAll`, `names_defineAll`: what a history adds to a scope
* `getElem?_bindings_defineAll`: a binding keeps its place unless its name is declared
* `bindings_eq_current`: a scope with distinct names is what its names are bound to
* `holding?_eq`: the binding that is found for a value
* `stateAfter_recalls`: the answers after any history
-/

namespace ExploitReplay

/-- The last declaration of its name in a history. -/
def Binding.IsLast (history : List Binding) (b : Binding) : Prop :=
  ∃ before after, history = before ++ b :: after ∧ ∀ x ∈ after, x.name ≠ b.name

namespace Scope

variable {s : Scope} {b : Binding} {bs : List Binding} {name value : String}

/-! ### Reading by a name -/

/-- **The last declaration of a name counts**, and without one what was known before. -/
theorem find?_defineAll (s : Scope) (bs : List Binding) (name : String) :
    (s.defineAll bs).find? name = (bs.reverse.find? (·.name == name)).or (s.find? name) := by
  induction bs generalizing s with
  | nil => rfl
  | cons b bs ih =>
    rw [defineAll_cons, ih, List.reverse_cons, List.find?_append, Option.or_assoc]
    congr 1
    by_cases h : b.name = name
    · subst h
      simp
    · have hne : (b.name == name) = false := by simpa using h
      rw [find?_define_of_ne s (Ne.symm h), List.find?_singleton, hne]
      rfl

/-- **The names that a history adds**: its distinct names that were not declared before, in the
order of their first declaration. -/
theorem names_defineAll (s : Scope) (bs : List Binding) :
    (s.defineAll bs).names =
      s.names ++ ((bs.map (·.name)).eraseDups.filter fun name => name ∉ s.names) := by
  -- on the last declaration: it adds its name behind all others, or none
  induction bs using List.reverseRecOn with
  | nil => simp
  | append_singleton bs b ih =>
    rw [defineAll_append, defineAll_cons, defineAll_nil, names_define, ih, List.map_append,
      List.map_singleton, AddressBook.eraseDups_append_singleton, AddressBook.addNew]
    by_cases hold : b.name ∈ s.names
    · by_cases hnew : b.name ∈ (bs.map (·.name)).eraseDups
      · simp [hold, hnew]
      · simp [hold, hnew, List.filter_append]
    · by_cases hnew : b.name ∈ (bs.map (·.name)).eraseDups
      · simp [hold, hnew]
      · simp [hold, hnew, List.filter_append]

theorem names_ofHistory (history : List Binding) :
    (ofHistory history).names = (history.map (·.name)).eraseDups := by
  have hempty : empty.names = [] := rfl
  rw [ofHistory, names_defineAll, hempty]
  simp

theorem find?_ofHistory (history : List Binding) (name : String) :
    (ofHistory history).find? name = history.reverse.find? (·.name == name) := by
  rw [ofHistory, find?_defineAll, find?_empty, Option.or_none]

/-- A name is bound to its last declaration. -/
theorem find?_ofHistory_eq_some_iff {history : List Binding} :
    (ofHistory history).find? name = some b ↔ b.name = name ∧ b.IsLast history := by
  rw [find?_ofHistory, List.find?_eq_some_iff_append]
  constructor
  · rintro ⟨hname, later, earlier, hreverse, hlater⟩
    have hname : b.name = name := by simpa using hname
    refine ⟨hname, earlier.reverse, later.reverse, ?_, ?_⟩
    · rw [← List.reverse_reverse history, hreverse]
      simp
    · intro x hx
      simpa [hname] using hlater x (List.mem_reverse.mp hx)
  · rintro ⟨rfl, before, after, rfl, hafter⟩
    refine ⟨by simp, after.reverse, before.reverse, by simp, ?_⟩
    intro x hx
    simpa using hafter x (List.mem_reverse.mp hx)

theorem find?_ofHistory_eq_none_iff {history : List Binding} :
    (ofHistory history).find? name = none ↔ ∀ b ∈ history, b.name ≠ name := by
  rw [find?_ofHistory, List.find?_eq_none]
  simp

/-! ### The place of a binding -/

theorem getElem?_bindings_define {k : Nat} (h : s.bindings[k]? = some b) {x : Binding}
    (hne : b.name ≠ x.name) : (s.define x).bindings[k]? = some b := by
  obtain ⟨bs⟩ := s
  change (overwrite x bs)[k]? = some b
  change bs[k]? = some b at h
  induction bs generalizing k with
  | nil => simp at h
  | cons y ys ih =>
    unfold overwrite
    cases k with
    | zero =>
      obtain rfl : y = b := by simpa using h
      simp [hne]
    | succ k =>
      have h : ys[k]? = some b := by simpa using h
      split
      · simpa using h
      · simpa using ih h

/-- **A binding keeps its place** unless its name is declared again. -/
theorem getElem?_bindings_defineAll {k : Nat} (h : s.bindings[k]? = some b)
    (hne : b.name ∉ bs.map (·.name)) : (s.defineAll bs).bindings[k]? = some b := by
  induction bs generalizing s with
  | nil => exact h
  | cons x bs ih =>
    rw [List.map_cons, List.mem_cons, not_or] at hne
    exact ih (getElem?_bindings_define h hne.1) hne.2

/-! ### What the names are bound to -/

/-- What the names of a scope are bound to, in the order of the names. -/
def current (s : Scope) : List Binding :=
  s.names.filterMap s.find?

theorem nodup_names_ofHistory (history : List Binding) : (ofHistory history).names.Nodup := by
  rw [names_ofHistory]
  exact AddressBook.nodup_eraseDups _

/-- **A scope with distinct names is what its names are bound to.** -/
theorem bindings_eq_current (h : s.names.Nodup) : s.bindings = s.current := by
  obtain ⟨bs⟩ := s
  have hself : ∀ b ∈ bs, (⟨bs⟩ : Scope).find? b.name = some b := fun b hb =>
    (AddressBook.find?_eq_some_iff h).mpr ⟨hb, rfl⟩
  calc bs = bs.filterMap some := List.filterMap_some.symm
    _ = bs.filterMap fun b => (⟨bs⟩ : Scope).find? b.name :=
      List.filterMap_congr fun b hb => (hself b hb).symm
    _ = (bs.map (·.name)).filterMap (⟨bs⟩ : Scope).find? := by
      rw [List.filterMap_map]
      rfl

/-! ### Reading by a value -/

/-- The search ends at the first address with the value; without one, the last binding with the
value is found, and in the end what was found before the search. -/
theorem latestHolding_eq (value : String) (latest : Option Binding) (bs : List Binding) :
    latestHolding value latest bs =
      ((bs.find? fun b => b.value = value ∧ b.type = "address").or
        (bs.reverse.find? (·.value = value))).or latest := by
  induction bs generalizing latest with
  | nil => rfl
  | cons b bs ih =>
    unfold latestHolding
    by_cases hvalue : b.value = value
    · by_cases htype : b.type = "address"
      · simp [hvalue, htype]
      · -- this binding is the latest so far, and one behind it comes before it
        simp only [hvalue, htype, if_true, if_false, ih, List.find?_cons, and_false, decide_false,
          List.reverse_cons, List.find?_append, decide_true, Option.or_assoc]
        rfl
    · simp only [hvalue, if_false, ih, List.find?_cons, false_and, decide_false,
        List.reverse_cons, List.find?_append, List.find?_nil, Option.or_none]

/-- **The binding that is found for a value**: the first address with the value, and otherwise the
last binding with it. -/
theorem holding?_eq (s : Scope) (value : String) :
    s.holding? value =
      (s.bindings.find? fun b => b.value = value ∧ b.type = "address").or
        (s.bindings.reverse.find? (·.value = value)) := by
  rw [holding?, latestHolding_eq, Option.or_none]

end Scope

/-! ### Sessions that declare -/

open Command (run stateAfter)

/-- The command that declares a binding. -/
def Binding.command (b : Binding) : Command :=
  .define b.name b.value b.type

/-- A session that only declares leaves the scope with its declarations. -/
theorem stateAfter_map_command (bs : List Binding) (context : Context) :
    stateAfter (bs.map Binding.command) context =
      { context with scope := context.scope.defineAll bs } := by
  induction bs generalizing context with
  | nil => rfl
  | cons b bs ih =>
    have hrun : (run b.command context).state =
        { context with scope := context.scope.define b } := by
      rw [Binding.command, run]
      rfl
    rw [List.map_cons, stateAfter, List.foldl_cons, hrun]
    exact ih _

/-- A declared name is answered with its binding, and any other is a failure. -/
theorem result_run_get (context : Context) (name : String) :
    (run (.get name) context).result =
      match context.scope.find? name with
      | some b => .ok b.reply
      | none => .error (.unknownVariable name) := by
  rw [run]
  cases context.scope.find? name <;> rfl

theorem Binding.reply_injective {b c : Binding} (h : b.reply = c.reply) : b = c := by
  obtain ⟨name, value, type⟩ := b
  obtain ⟨rfl, rfl, rfl⟩ := Reply.binding.inj h
  rfl

/-- What a context answers after a history of declarations. -/
structure Recalls (history : List Binding) (context : Context) : Prop where
  /-- The names are the distinct ones, in the order of their first declaration. -/
  names : FirstSeen (history.map (·.name)) context.scope.names
  /-- A name is answered with its last declaration. -/
  get : ∀ (name : String) (b : Binding), (run (.get name) context).result = .ok b.reply ↔
    b.name = name ∧ b.IsLast history
  /-- Just a name that was never declared is a failure. -/
  unknown : ∀ name, (run (.get name) context).result = .error (.unknownVariable name) ↔
    ∀ b ∈ history, b.name ≠ name
  /-- A value is found in the first address that the names are bound to and that holds it, and
  otherwise in the last binding that does. -/
  lookUp : ∀ value, context.scope.holding? value =
    (context.scope.current.find? fun b => b.value = value ∧ b.type = "address").or
      (context.scope.current.reverse.find? (·.value = value))
  /-- It is not found in a binding whose name was declared again. -/
  found : ∀ value b, context.scope.holding? value = some b →
    b.value = value ∧ b.IsLast history

/-- **The answers after any history of declarations.** The names are listed in the order of their
first declaration, each is bound to its last one, and a value is looked up among these. -/
theorem stateAfter_recalls (history : List Binding) (i : Indent) :
    Recalls history (stateAfter (history.map Binding.command) { indent := i }) := by
  have hstate : stateAfter (history.map Binding.command) { indent := i } =
      ⟨Scope.ofHistory history, i⟩ := stateAfter_map_command history _
  have hcurrent := Scope.bindings_eq_current (Scope.nodup_names_ofHistory history)
  rw [hstate]
  refine ⟨?_, ?_, ?_, ?_, ?_⟩
  · dsimp only
    rw [Scope.names_ofHistory]
    exact firstSeen_eraseDups _
  · intro name b
    rw [← Scope.find?_ofHistory_eq_some_iff, result_run_get]
    cases (Scope.ofHistory history).find? name with
    | none => simp
    | some c =>
      simp only [Except.ok.injEq, Option.some.injEq]
      exact ⟨Binding.reply_injective, congrArg Binding.reply⟩
  · intro name
    rw [← Scope.find?_ofHistory_eq_none_iff, result_run_get]
    cases (Scope.ofHistory history).find? name <;> simp
  · intro value
    rw [Scope.holding?_eq, ← hcurrent]
  · intro value b hfound
    obtain ⟨hmem, hvalue⟩ := Scope.of_holding? hfound
    -- a listed binding is what its name is bound to
    have hfind : (Scope.ofHistory history).find? b.name = some b :=
      (AddressBook.find?_eq_some_iff (Scope.nodup_names_ofHistory history)).mpr ⟨hmem, rfl⟩
    exact ⟨hvalue, (Scope.find?_ofHistory_eq_some_iff.mp hfind).2⟩

/-- A name that is declared again keeps its place, and is no longer found by its old value; of two
names with one value, the address is found. -/
example :
    let context := stateAfter ([⟨"a", "1", "address"⟩, ⟨"b", "2", "contract"⟩,
      ⟨"c", "2", "address"⟩, ⟨"a", "2", "contract"⟩].map Binding.command) {}
    context.scope.names = ["a", "b", "c"] ∧
      context.scope.holding? "1" = none ∧
      context.scope.holding? "2" = some ⟨"c", "2", "address"⟩ := by
  decide

end ExploitReplay
