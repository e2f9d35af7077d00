import ExploitReplay.Proofs.Signature.Heading

/-!
# Returned values that are not understood

A signature may return values of any type. Every value whose type is in the catalog is read as that
type; a value whose type is not is dropped, and the values behind it move up. So the values that are
read are those that are understood, in the order in which they are written.

## Main definitions

* `WrittenReturn`: a returned value as it may be written, of any type
* `WrittenReturn.recognised v`: the type that is read of it, if it is understood
* `Prototype`: a signature whose returned values have any types
* `Prototype.types p`: the types of the values that are understood

## Main results

* `typesOf_flatMap_pieces`: the values that are read are those that are understood
* `Prototype.WellFormed.parse_prototype`: the values that are read of a signature
* `Prototype.types_eq_map`: if every value is understood, every value is read
-/

namespace ExploitReplay.Signature

open Text (IsWord NoBlank Tidy listed unwords withList words)

/-! ### Returned values of any type -/

theorem eq_expand_of_understood {t u : String} (h : understood t = some u) :
    u = ValueType.expand t := by
  simp only [understood] at h
  split at h
  · exact (Option.some.inj h).symm
  · cases h

/-- A returned value as it may be written: a type of one word, perhaps where the value is stored,
and perhaps a name. -/
structure WrittenReturn where
  type : String
  location : Option String := none
  name : Option String := none
deriving DecidableEq, Repr

namespace WrittenReturn

/-- The type is a word that says nothing about where the value is stored; it may well be outside the
catalog. The name is no part of a type. -/
structure WellFormed (v : WrittenReturn) : Prop where
  word : IsWord v.type.toList
  plain : Plain v.type.toList
  type : ValueType.isLocation v.type = false
  location : ∀ l ∈ v.location, ValueType.isLocation l = true
  name : ∀ n ∈ v.name, IsReturnName n

instance : DecidablePred WellFormed := fun v =>
  decidable_of_iff (IsWord v.type.toList ∧ Plain v.type.toList ∧
      ValueType.isLocation v.type = false ∧ (∀ l ∈ v.location, ValueType.isLocation l = true) ∧
      ∀ n ∈ v.name, IsReturnName n)
    ⟨fun ⟨h₁, h₂, h₃, h₄, h₅⟩ => ⟨h₁, h₂, h₃, h₄, h₅⟩, fun h => ⟨h.1, h.2, h.3, h.4, h.5⟩⟩

/-- The words of the value. -/
def pieces (v : WrittenReturn) : List String :=
  v.type :: (v.location.toList ++ v.name.toList)

/-- The value as it is written. -/
def text (v : WrittenReturn) : String :=
  " ".intercalate v.pieces

/-- The type with the place where the value is stored. -/
def fullType (v : WrittenReturn) : String :=
  " ".intercalate (v.type :: v.location.toList)

/-- The type that is read of the value, if it is understood. -/
def recognised (v : WrittenReturn) : Option String :=
  understood v.fullType

/-! ### Its words -/

theorem isWord_of_mem_locations {l : String} (h : l ∈ ValueType.locations) :
    IsWord l.toList ∧ Plain l.toList := by
  revert l
  decide +kernel

variable {v : WrittenReturn}

theorem WellFormed.isWord_pieces (h : v.WellFormed) :
    ∀ p ∈ v.pieces, IsWord p.toList ∧ Plain p.toList := by
  intro p hp
  rw [pieces, List.mem_cons, List.mem_append] at hp
  rcases hp with rfl | hp | hp
  · exact ⟨h.word, h.plain⟩
  · have hlocation := h.location p (Option.mem_toList.mp hp)
    exact isWord_of_mem_locations (List.contains_iff_mem.mp hlocation)
  · have hname := h.name p (Option.mem_toList.mp hp)
    exact ⟨hname.word, hname.plain⟩

theorem toList_text (v : WrittenReturn) : v.text.toList = unwords (v.pieces.map String.toList) :=
  Text.toList_intercalate_space v.pieces

theorem WellFormed.tidy_text (h : v.WellFormed) : Tidy v.text.toList := by
  rw [toList_text]
  refine Tidy.unwords (by simp [pieces]) ?_
  exact List.forall_mem_map.mpr fun p hp => Text.tidy_of_isWord (h.isWord_pieces p hp).1

theorem WellFormed.words_text (h : v.WellFormed) :
    words v.text.toList = v.pieces.map String.toList := by
  have hwords : ∀ w ∈ v.pieces.map String.toList, IsWord w :=
    List.forall_mem_map.mpr fun p hp => (h.isWord_pieces p hp).1
  rw [toList_text, Text.words_unwords_eq_flatMap, Text.flatMap_words hwords]

/-- A value holds no comma and no parenthesis. -/
theorem WellFormed.plain_text (h : v.WellFormed) : Plain v.text.toList := by
  intro c hc
  rw [toList_text, pieces, List.map_cons, Text.unwords_cons_eq_flatMap, List.mem_append] at hc
  rcases hc with hc | hc
  · exact h.plain c hc
  · obtain ⟨w, hw, hc⟩ := List.mem_flatMap.mp hc
    obtain ⟨q, hq, rfl⟩ := List.mem_map.mp hw
    rcases List.mem_cons.mp hc with rfl | hc
    · decide
    · exact (h.isWord_pieces q (List.mem_cons_of_mem _ hq)).2 c hc

/-- A value starts with its type, which continues nothing before it. -/
theorem WellFormed.startsAnew (h : v.WellFormed) (rest : List String) :
    StartsAnew (v.pieces ++ rest) := by
  intro u hu
  obtain rfl : v.type = u := Option.some.inj hu
  exact h.type

/-- **A value is read as its type or not at all**, unless what follows belongs to it. -/
theorem WellFormed.typesOf_pieces_append (h : v.WellFormed) {rest : List String}
    (hrest : StartsAnew rest) :
    typesOf (v.pieces ++ rest) = v.recognised.toList ++ typesOf rest := by
  have hname : typesOf (v.name.toList ++ rest) = typesOf rest := by
    cases hname : v.name with
    | none => rfl
    | some n => exact typesOf_name_cons (h.name n hname) hrest
  have hanew : StartsAnew (v.name.toList ++ rest) := by
    intro u hu
    cases hname : v.name with
    | none => exact hrest u (by simpa [hname] using hu)
    | some n =>
      obtain rfl : n = u := by simpa [hname] using hu
      exact (h.name n hname).location
  rw [pieces, recognised, fullType]
  cases hlocation : v.location with
  | none =>
    rw [Option.toList_none, List.nil_append, List.cons_append, typesOf_cons hanew, hname,
      String.intercalate_singleton]
  | some l =>
    -- the place belongs to the type, so what follows it does not matter
    have hl := h.location l hlocation
    simp [typesOf, hl, hname, String.append_assoc]

end WrittenReturn

/-- **The values that are read are those that are understood.** -/
theorem typesOf_flatMap_pieces {values : List WrittenReturn} (h : ∀ v ∈ values, v.WellFormed) :
    typesOf (values.flatMap WrittenReturn.pieces) = values.filterMap WrittenReturn.recognised := by
  -- on the values: behind each of them there is a type again, or nothing
  induction values with
  | nil => simp [typesOf]
  | cons v values ih =>
    have hv := h v (by simp)
    have htail : ∀ w ∈ values, w.WellFormed := fun w hw => h w (List.mem_cons_of_mem _ hw)
    have hanew : StartsAnew (values.flatMap WrittenReturn.pieces) := by
      cases values with
      | nil => intro u hu; cases hu
      | cons w ws => exact (htail w (by simp)).startsAnew _
    rw [List.flatMap_cons, hv.typesOf_pieces_append hanew, ih htail, List.filterMap_cons]
    cases v.recognised <;> rfl

/-! ### Signatures -/

/-- A signature whose returned values have any types. The parameters and the modifiers are given as
they are written. -/
structure Prototype where
  name : String
  parameters : String
  modifiers : List String
  returned : List WrittenReturn
deriving DecidableEq, Repr

namespace Prototype

/-- The parentheses of the parameters match, and no modifier is taken for the keyword of the
returned values. -/
structure WellFormed (p : Prototype) : Prop where
  name : NoBlank p.name.toList
  opener : '(' ∉ p.name.toList
  parameters : Balanced p.parameters.toList
  modifiers : ∀ m ∈ p.modifiers, ¬returnsKeyword <:+: m.toList
  nonempty : p.returned ≠ []
  returned : ∀ v ∈ p.returned, v.WellFormed

instance : DecidablePred WellFormed := fun p =>
  decidable_of_iff
    (NoBlank p.name.toList ∧ '(' ∉ p.name.toList ∧ Balanced p.parameters.toList ∧
      (∀ m ∈ p.modifiers, ¬returnsKeyword <:+: m.toList) ∧ p.returned ≠ [] ∧
      ∀ v ∈ p.returned, v.WellFormed)
    ⟨fun ⟨h₁, h₂, h₃, h₄, h₅, h₆⟩ => ⟨h₁, h₂, h₃, h₄, h₅, h₆⟩,
      fun ⟨h₁, h₂, h₃, h₄, h₅, h₆⟩ => ⟨h₁, h₂, h₃, h₄, h₅, h₆⟩⟩

/-- The list of the returned values. -/
def values (p : Prototype) : String :=
  "(" ++ ", ".intercalate (p.returned.map (·.text)) ++ ")"

/-- The signature as it is written. -/
def text (p : Prototype) : String :=
  "function " ++ p.name ++ "(" ++ p.parameters ++ ") " ++
    " ".intercalate (p.modifiers ++ ["returns", p.values])

/-- The types of the values that are understood, in the order of the values. -/
def types (p : Prototype) : List String :=
  p.returned.filterMap WrittenReturn.recognised

/-- What stands behind the parameters. -/
def tail (p : Prototype) : List Char :=
  ' ' :: unwords ((p.modifiers ++ ["returns", p.values]).map String.toList)

theorem toList_values (p : Prototype) :
    p.values.toList = withList [] (p.returned.map (·.text.toList)) := by
  simp [values, withList, listed, Function.comp_def]

theorem toList_text (p : Prototype) :
    p.text.toList = functionKeyword ++
      ' ' :: (p.name.toList ++ '(' :: (p.parameters.toList ++ ')' :: p.tail)) := by
  have hspace : " ".toList = [' '] := by decide
  have hkeyword : "function ".toList = functionKeyword ++ [' '] := by decide
  simp [text, tail, hkeyword, hspace, unwords]

variable {p : Prototype}

/-- Behind the parameters stand the words of the modifiers and those of the clause. -/
theorem words_tail (p : Prototype) :
    words p.tail = p.modifiers.flatMap (fun m => words m.toList) ++
      returnsKeyword :: words p.values.toList := by
  have hkeyword : words "returns".toList = [returnsKeyword] := by decide
  rw [tail, Text.words_blank_cons (by decide), Text.words_unwords_eq_flatMap, List.flatMap_map,
    List.flatMap_append, List.flatMap_cons, hkeyword, List.flatMap_singleton]
  rfl

/-- The values that are read of the clause are those that are understood. -/
theorem WellFormed.returnsOf_values (h : p.WellFormed) :
    returnsOf (some (words p.values.toList)) = p.types := by
  have htidy : ∀ cs ∈ p.returned.map (·.text.toList), Tidy cs :=
    List.forall_mem_map.mpr fun v hv => (h.returned v hv).tidy_text
  have hplain : ∀ cs ∈ p.returned.map (·.text.toList), Plain cs :=
    List.forall_mem_map.mpr fun v hv => (h.returned v hv).plain_text
  have hpieces : ((p.returned.map (·.text.toList)).flatMap words).map String.ofList =
      p.returned.flatMap WrittenReturn.pieces := by
    rw [List.flatMap_map, List.flatMap_congr fun v hv => (h.returned v hv).words_text]
    simp [List.map_flatMap, Function.comp_def]
  rw [returnsOf, Option.getD_some, toList_values, clausePieces_withList htidy hplain, hpieces,
    typesOf_flatMap_pieces h.returned, types]

/-- **The values that are read of a signature** are those that are understood; the others are
dropped, and nothing tells where they stood. -/
theorem WellFormed.parse_prototype (h : p.WellFormed) :
    ∃ s, parse (some p.text) = .ok s ∧ s.name = p.name ∧ s.returns = p.types := by
  obtain ⟨s, hread, -, hname, -, hreturns⟩ :=
    read_heading p.toList_text h.name h.opener h.parameters
  -- no word before the keyword holds it, so the clause is what stands behind it
  have hmodifiers :
      ∀ w ∈ p.modifiers.flatMap (fun m => words m.toList), ¬returnsKeyword <:+: w := by
    intro w hw
    obtain ⟨m, hm, hw⟩ := List.mem_flatMap.mp hw
    exact fun hi => h.modifiers m hm (hi.trans (Text.infix_of_mem_words hw))
  rw [words_tail, splitAtReturns_append hmodifiers, splitAtReturns_keyword,
    h.returnsOf_values] at hreturns
  refine ⟨s, ?_, by rw [hname, String.ofList_toList], hreturns⟩
  rw [parse, Option.getD_some, hread]

/-- **If every value is understood, every value is read**, in its place. -/
theorem types_eq_map (h : ∀ v ∈ p.returned, v.recognised.isSome) :
    p.types = p.returned.map fun v => ValueType.expand v.fullType := by
  refine List.filterMap_eq_map_iff_forall_eq_some.mpr fun v hv => ?_
  obtain ⟨t, ht⟩ := Option.isSome_iff_exists.mp (h v hv)
  rw [ht, eq_expand_of_understood ht]

end Prototype

end ExploitReplay.Signature
