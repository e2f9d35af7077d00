import ExploitReplay.Proofs.Signature.Parameters
import ExploitReplay.Proofs.Text.Cut
import ExploitReplay.Signature.Returns
import Mathlib.Data.List.Basic

/-!
# Lists of returned values

A returned value is declared by its type and, if it has one, its name. The types of one word or two,
and the names between them, are cut into the same kind of pieces; still every declared value is read
as its type, and its name is dropped.

## Main definitions

* `ReturnEntry`: a declared return value
* `typeNames`: the types of the catalog and the shorthands
* `clauseText entries`: the declared values between parentheses

## Main results

* `splitAtReturns_append`: the clause starts at the first word that holds the keyword
* `clausePieces_withList`: the pieces of a list between parentheses are the words of its members
* `typesOf_piecesOf`: the pieces of declared values name their types
-/

namespace ExploitReplay.Signature

open Text (IsWord Tidy listed onFirst onLast withList words)

/-! ### Where the clause starts -/

/-- **The clause starts at the first word that holds the keyword.** -/
theorem splitAtReturns_append {ms : List (List Char)} (h : ∀ m ∈ ms, ¬returnsKeyword <:+: m)
    (ws : List (List Char)) :
    splitAtReturns (ms ++ ws) = (ms ++ (splitAtReturns ws).1, (splitAtReturns ws).2) := by
  induction ms with
  | nil => rfl
  | cons m ms ih =>
    rw [List.cons_append, splitAtReturns, Text.afterText?_eq_none (h m (by simp))]
    simp [ih fun k hk => h k (List.mem_cons_of_mem _ hk)]

/-- Before the clause stand the first words, up to one that holds the keyword. -/
theorem splitAtReturns_fst (ws : List (List Char)) :
    (splitAtReturns ws).1 <+: ws ∧ ∀ m ∈ (splitAtReturns ws).1, ¬returnsKeyword <:+: m := by
  induction ws with
  | nil => simp [splitAtReturns]
  | cons w ws ih =>
    rw [splitAtReturns]
    split
    · simp
    · simp
    · rename_i hnone
      have hw := (Text.afterText?_eq_none_iff (by decide)).mp hnone
      refine ⟨List.cons_prefix_cons.mpr ⟨rfl, ih.1⟩, ?_⟩
      simpa [hw] using ih.2

/-- The words behind the keyword, the rest of the first one among them. -/
theorem splitAtReturns_of_afterText? {w glued : List Char}
    (h : Text.afterText? returnsKeyword w = some glued) (ws : List (List Char)) :
    splitAtReturns (w :: ws) = ([], some ((if glued = [] then [] else [glued]) ++ ws)) := by
  rw [splitAtReturns, h]
  cases glued with
  | nil => rfl
  | cons c cs => rfl

theorem splitAtReturns_keyword (ws : List (List Char)) :
    splitAtReturns (returnsKeyword :: ws) = ([], some ws) := by
  have hafter := @Text.afterText?_self_append returnsKeyword (by decide) []
  rw [List.append_nil] at hafter
  rw [splitAtReturns_of_afterText? hafter, if_pos rfl, List.nil_append]

theorem splitAtReturns_glued {w : List Char} (h : w ≠ []) (ws : List (List Char)) :
    splitAtReturns ((returnsKeyword ++ w) :: ws) = ([], some (w :: ws)) := by
  rw [splitAtReturns_of_afterText? (Text.afterText?_self_append (by decide) w), if_neg h,
    List.singleton_append]

/-- Nothing is returned without a clause. -/
theorem returnsOf_none : returnsOf none = [] := by
  simp [returnsOf, clausePieces, unparenthesized, onFirst, onLast, typesOf]

/-! ### Declared values -/

/-- The types of the catalog and the shorthands. -/
def typeNames : List String :=
  ValueType.catalog ++ ValueType.shorthands.map (·.1)

/-- A text without commas and parentheses. -/
def Plain (cs : List Char) : Prop :=
  ∀ c ∈ cs, c ≠ ',' ∧ c ≠ '(' ∧ c ≠ ')'

instance : DecidablePred Plain := fun cs =>
  decidable_of_iff (cs.all fun c => c != ',' && c != '(' && c != ')') (by simp [Plain, and_assoc])

/-- A name of a returned value that is not taken for a part of a type. -/
structure IsReturnName (n : String) : Prop where
  word : IsWord n.toList
  plain : Plain n.toList
  location : ValueType.isLocation n = false
  unknown : ValueType.isKnown (ValueType.expand n) = false

instance : DecidablePred IsReturnName := fun n =>
  decidable_of_iff (IsWord n.toList ∧ Plain n.toList ∧ ValueType.isLocation n = false ∧
      ValueType.isKnown (ValueType.expand n) = false)
    ⟨fun h => ⟨h.1, h.2.1, h.2.2.1, h.2.2.2⟩, fun h => ⟨h.1, h.2, h.3, h.4⟩⟩

/-- A declared return value. -/
structure ReturnEntry where
  type : String
  name : Option String
deriving DecidableEq, Repr

namespace ReturnEntry

/-- A declared value as it may be written. -/
structure WellFormed (e : ReturnEntry) : Prop where
  type : e.type ∈ typeNames
  name : ∀ n ∈ e.name, IsReturnName n

instance : DecidablePred WellFormed := fun e =>
  decidable_of_iff (e.type ∈ typeNames ∧ ∀ n ∈ e.name, IsReturnName n)
    ⟨fun h => ⟨h.1, h.2⟩, fun h => ⟨h.1, h.2⟩⟩

/-- A declared value as it is written. -/
def text (e : ReturnEntry) : String :=
  match e.name with
  | none => e.type
  | some n => e.type ++ " " ++ n

/-- The words of a declared value. -/
def pieces (e : ReturnEntry) : List (List Char) :=
  words e.type.toList ++ e.name.toList.map String.toList

end ReturnEntry

/-! ### The types -/

theorem plain_of_mem_typeNames {t : String} (h : t ∈ typeNames) : Plain t.toList := by
  revert t
  decide +kernel

theorem tidy_of_mem_typeNames {t : String} (h : t ∈ typeNames) : Tidy t.toList := by
  revert t
  decide +kernel

/-- A type is one word, or a type without a fixed size and the place where it is stored. -/
theorem words_of_mem_typeNames {t : String} (h : t ∈ typeNames) :
    ((words t.toList).map String.ofList = [t] ∧ ValueType.isLocation t = false ∧
        understood t = some (ValueType.expand t)) ∨
      ∃ u ∈ ValueType.unsized, ∃ l ∈ ValueType.locations,
        (words t.toList).map String.ofList = [u, l] ∧ ValueType.isLocation u = false ∧
          ValueType.isLocation l = true ∧ understood (u ++ " " ++ l) = some (ValueType.expand t) := by
  revert t
  decide +kernel

/-- The pieces of a type start with no place. -/
theorem isLocation_head_words {t : String} (h : t ∈ typeNames) (rest : List String) :
    ∃ u, ((words t.toList).map String.ofList ++ rest).head? = some u ∧
      ValueType.isLocation u = false := by
  rcases words_of_mem_typeNames h with ⟨hwords, hlocation, -⟩ | ⟨u, -, l, -, hwords, hlocation, -⟩
  · exact ⟨t, by simp [hwords], hlocation⟩
  · exact ⟨u, by simp [hwords], hlocation⟩

/-- Pieces that do not continue the piece before them. -/
def StartsAnew (pieces : List String) : Prop :=
  ∀ u ∈ pieces.head?, ValueType.isLocation u = false

theorem typesOf_cons {t : String} {rest : List String} (h : StartsAnew rest) :
    typesOf (t :: rest) = (understood t).toList ++ typesOf rest := by
  cases rest with
  | nil => simp [typesOf]
  | cons u rest =>
    have hu : ValueType.isLocation u = false := h u rfl
    simp [typesOf, hu]

/-- **A type is read as its full form**, unless what follows belongs to it. -/
theorem typesOf_words_append {t : String} (ht : t ∈ typeNames) {rest : List String}
    (h : StartsAnew rest) :
    typesOf ((words t.toList).map String.ofList ++ rest) =
      ValueType.expand t :: typesOf rest := by
  rcases words_of_mem_typeNames ht with
    ⟨hwords, -, hunderstood⟩ | ⟨u, -, l, -, hwords, -, hlocation, hunderstood⟩
  · rw [hwords, List.singleton_append, typesOf_cons h, hunderstood]
    rfl
  · -- the place belongs to the type, so what follows it does not matter
    rw [hwords]
    simp [typesOf, hlocation, hunderstood]

/-- A name is dropped. -/
theorem typesOf_name_cons {n : String} (hn : IsReturnName n) {rest : List String}
    (h : StartsAnew rest) : typesOf (n :: rest) = typesOf rest := by
  have hunderstood : understood n = none := by simp [understood, hn.unknown]
  rw [typesOf_cons h, hunderstood]
  rfl

/-- The pieces of declared values, as texts. -/
def piecesOf (entries : List ReturnEntry) : List String :=
  (entries.flatMap ReturnEntry.pieces).map String.ofList

theorem piecesOf_cons (e : ReturnEntry) (entries : List ReturnEntry) :
    piecesOf (e :: entries) =
      (words e.type.toList).map String.ofList ++ (e.name.toList ++ piecesOf entries) := by
  simp [piecesOf, ReturnEntry.pieces]

theorem startsAnew_piecesOf {entries : List ReturnEntry} (h : ∀ e ∈ entries, e.WellFormed) :
    StartsAnew (piecesOf entries) := by
  intro u hu
  cases entries with
  | nil => simp [piecesOf] at hu
  | cons e entries =>
    obtain ⟨v, hv, hlocation⟩ :=
      isLocation_head_words (h e (by simp)).type (e.name.toList ++ piecesOf entries)
    rw [piecesOf_cons, hv] at hu
    obtain rfl := Option.some.inj hu
    exact hlocation

/-- **Declared values are read as their types**, one for each; their names are dropped. -/
theorem typesOf_piecesOf {entries : List ReturnEntry} (h : ∀ e ∈ entries, e.WellFormed) :
    typesOf (piecesOf entries) = entries.map fun e => ValueType.expand e.type := by
  induction entries with
  | nil => simp [piecesOf, typesOf]
  | cons e entries ih =>
    have he := h e (by simp)
    have htail : ∀ e ∈ entries, e.WellFormed := fun f hf => h f (List.mem_cons_of_mem _ hf)
    have hanew := startsAnew_piecesOf htail
    rw [piecesOf_cons, List.map_cons]
    cases hname : e.name with
    | none => rw [Option.toList_none, List.nil_append, typesOf_words_append he.type hanew, ih htail]
    | some n =>
      have hn := he.name n hname
      have hanew' : StartsAnew (n :: piecesOf entries) := by
        intro u hu
        obtain rfl := Option.some.inj hu
        exact hn.location
      rw [Option.toList_some, List.singleton_append, typesOf_words_append he.type hanew',
        typesOf_name_cons hn hanew, ih htail]

/-! ### The text of a clause -/

namespace ReturnEntry

variable {e : ReturnEntry}

theorem toList_text (e : ReturnEntry) :
    e.text.toList = e.type.toList ++ (e.name.toList.flatMap fun n => ' ' :: n.toList) := by
  unfold text
  cases e.name <;> simp

theorem WellFormed.tidy_text (h : e.WellFormed) : Tidy e.text.toList := by
  have htype := tidy_of_mem_typeNames h.type
  rw [toList_text]
  cases hname : e.name with
  | none => simpa using htype
  | some n =>
    have hn := Text.tidy_of_isWord (h.name n hname).word
    simpa using htype.append_space hn

theorem WellFormed.words_text (h : e.WellFormed) : words e.text.toList = e.pieces := by
  rw [toList_text, pieces]
  cases hname : e.name with
  | none => simp
  | some n =>
    have hn := Text.words_of_isWord (h.name n hname).word
    simp [Text.words_append_blank, Text.isBlank, hn]

/-- A declared value holds no comma and no parenthesis. -/
theorem WellFormed.plain_text (h : e.WellFormed) : Plain e.text.toList := by
  intro c hc
  rw [toList_text, List.mem_append] at hc
  rcases hc with hc | hc
  · exact plain_of_mem_typeNames h.type c hc
  · obtain ⟨n, hn, hc⟩ := List.mem_flatMap.mp hc
    rcases List.mem_cons.mp hc with rfl | hc
    · decide
    · exact (h.name n (Option.mem_toList.mp hn)).plain c hc

end ReturnEntry

/-- The pieces of some words: they are cut at commas, and what is empty is left out. -/
def commaPieces (ws : List (List Char)) : List (List Char) :=
  (ws.flatMap (List.splitOn ',')).filter (· ≠ [])

theorem commaPieces_append (ws vs : List (List Char)) :
    commaPieces (ws ++ vs) = commaPieces ws ++ commaPieces vs := by
  simp [commaPieces]

theorem commaPieces_singleton {w : List Char} (h : ',' ∉ w) (hne : w ≠ []) :
    commaPieces [w] = [w] := by
  simp [commaPieces, List.splitOn_eq_singleton h, hne]

theorem commaPieces_of_forall {ws : List (List Char)} (h : ∀ w ∈ ws, ',' ∉ w ∧ w ≠ []) :
    commaPieces ws = ws := by
  induction ws with
  | nil => rfl
  | cons w ws ih =>
    obtain ⟨hcomma, hne⟩ := h w (by simp)
    rw [← List.singleton_append, commaPieces_append, commaPieces_singleton hcomma hne,
      ih fun v hv => h v (List.mem_cons_of_mem _ hv)]

/-- A comma behind the last word is cut off. -/
theorem commaPieces_onLast {ws : List (List Char)} (h : ∀ w ∈ ws, ',' ∉ w ∧ w ≠ []) :
    commaPieces (onLast (· ++ [',']) ws) = ws := by
  induction ws with
  | nil => rfl
  | cons w ws ih =>
    obtain ⟨hcomma, hne⟩ := h w (by simp)
    cases ws with
    | nil =>
      simp [onLast, commaPieces, List.splitOn_append_cons_self_of_not_mem hcomma, hne]
    | cons v vs =>
      have ih := ih fun u hu => h u (List.mem_cons_of_mem _ hu)
      rw [onLast, ← List.singleton_append, commaPieces_append, commaPieces_singleton hcomma hne, ih]
      rfl

/-- The words of a list, cut at commas, are the words of its parts. -/
theorem commaPieces_words_listed {parts : List (List Char)} (h : ∀ p ∈ parts, Tidy p)
    (hcomma : ∀ p ∈ parts, ',' ∉ p) :
    commaPieces (words (listed parts)) = parts.flatMap words := by
  have hwords : ∀ {p : List Char}, ',' ∉ p → ∀ w ∈ words p, ',' ∉ w ∧ w ≠ [] := by
    intro p hp w hw
    exact ⟨fun hc => hp ((Text.infix_of_mem_words hw).subset hc),
      (Text.isWord_of_mem_words hw).ne_nil⟩
  induction parts with
  | nil => rfl
  | cons p ps ih =>
    have hp := hwords (hcomma p (by simp))
    cases ps with
    | nil => simpa using commaPieces_of_forall hp
    | cons q qs =>
      have ih := ih (fun r hr => h r (List.mem_cons_of_mem _ hr))
        fun r hr => hcomma r (List.mem_cons_of_mem _ hr)
      rw [Text.words_listed_cons_cons (h p (by simp)), commaPieces_append, commaPieces_onLast hp, ih]
      rfl

/-- The parentheses around a tidy text fall away. -/
theorem unparenthesized_words {cs : List Char} (h : Tidy cs) (hclose : ')' ∉ cs) :
    unparenthesized (words ('(' :: cs ++ [')'])) = words cs := by
  have hclosed : Tidy (cs ++ [')']) := h.append_word (by decide)
  have hopen := hclosed.words_word_append (w := ['(']) (by decide)
  rw [h.words_append_word (by decide)] at hopen
  have hwords : words ('(' :: cs ++ [')']) = onFirst ('(' :: ·) (onLast (· ++ [')']) (words cs)) :=
    hopen
  have hfirst : (fun w => (Text.after? '(' w).getD w) ∘ ('(' :: ·) = id := by
    funext w
    simp [Text.after?]
  rw [unparenthesized, hwords, Text.onFirst_onFirst, hfirst, Text.onFirst_eq_self (f := id) fun _ _ => rfl,
    Text.onLast_onLast]
  refine Text.onLast_eq_self fun w hw => ?_
  exact Text.before_append (fun hc => hclose ((Text.infix_of_mem_words hw).subset hc)) []

/-- **The pieces of a list between parentheses are the words of its members.** -/
theorem clausePieces_withList {parts : List (List Char)} (htidy : ∀ p ∈ parts, Tidy p)
    (hplain : ∀ p ∈ parts, Plain p) :
    clausePieces (words (withList [] parts)) = (parts.flatMap words).map String.ofList := by
  have hcomma : ∀ p ∈ parts, ',' ∉ p := fun p hp hc => (hplain p hp _ hc).1 rfl
  by_cases hne : parts = []
  · -- the parentheses alone leave one empty piece, which is dropped
    subst hne
    rfl
  · have hclose : ')' ∉ listed parts := by
      intro hc
      rcases Text.mem_listed hc with hc | hc | ⟨p, hp, hc⟩
      · exact absurd hc (by decide)
      · exact absurd hc (by decide)
      · exact (hplain p hp _ hc).2.2 rfl
    have hpieces := commaPieces_words_listed htidy hcomma
    rw [commaPieces] at hpieces
    have hclause : withList [] parts = '(' :: listed parts ++ [')'] := rfl
    rw [clausePieces, hclause, unparenthesized_words (Tidy.listed hne htidy) hclose, hpieces]

/-- The declared values between parentheses. -/
def clauseText (entries : List ReturnEntry) : List Char :=
  withList [] (entries.map (·.text.toList))

/-- The pieces of a clause are the words of its values. -/
theorem clausePieces_clauseText {entries : List ReturnEntry} (h : ∀ e ∈ entries, e.WellFormed) :
    clausePieces (words (clauseText entries)) = piecesOf entries := by
  have htidy : ∀ p ∈ entries.map (·.text.toList), Tidy p :=
    List.forall_mem_map.mpr fun e he => (h e he).tidy_text
  have hplain : ∀ p ∈ entries.map (·.text.toList), Plain p :=
    List.forall_mem_map.mpr fun e he => (h e he).plain_text
  rw [clauseText, clausePieces_withList htidy hplain, piecesOf, List.flatMap_map,
    List.flatMap_congr fun e he => (h e he).words_text]

end ExploitReplay.Signature
