import ExploitReplay.Proofs.Signature.Heading
import ExploitReplay.Signature.Reading
import Mathlib.Data.List.Infix

/-!
# Signatures that are read as they are written

Reading is loose, but whatever is written the usual way is read as it was meant: the name, the
parameters, the modifiers and the returned values of a declaration are found again in its text.

## Main definitions

* `Declaration`: a function declaration, with the way its returned values are written
* `Declaration.text d`: the declaration as it is written
* `Declaration.WellFormed d`: the name, the parameters, the modifiers and the returned values are
  such that the text can be read in one way only
* `Declaration.Readable d`: the parts of the declaration are found again in its text

## Main results

* `read_text`: what is read of a declaration
* `payable_mem_words_text`: a declaration is payable by its modifiers
* `parse_text`: a declaration is read as it is written
-/

namespace ExploitReplay.Signature

open Text (IsWord NoBlank Tidy listed onFirst onLast unwords withList words)

/-! ### Declarations -/

/-- How the returned values are written: behind the keyword and a space, glued to the keyword, or
not at all. -/
inductive ClauseStyle where
  | spaced
  | glued
  | omitted
deriving DecidableEq, Repr

/-- A function declaration, with the way its returned values are written. -/
structure Declaration where
  name : String
  parameters : List String
  modifiers : List String
  entries : List ReturnEntry
  style : ClauseStyle
deriving DecidableEq, Repr

/-- A modifier that is not taken for the keyword of the returned values. -/
structure IsModifier (m : String) : Prop where
  word : IsWord m.toList
  keyword : ¬returnsKeyword <:+: m.toList

instance : DecidablePred IsModifier := fun m =>
  decidable_of_iff (IsWord m.toList ∧ ¬returnsKeyword <:+: m.toList)
    ⟨fun h => ⟨h.1, h.2⟩, fun h => ⟨h.1, h.2⟩⟩

namespace Declaration

/-- A declaration that can be read in one way only. -/
structure WellFormed (d : Declaration) : Prop where
  name : NoBlank d.name.toList
  /-- The first parenthesis behind the keyword opens the parameter list. -/
  opener : '(' ∉ d.name.toList
  parameters : ∀ p ∈ d.parameters, Parameter p.toList
  modifiers : ∀ m ∈ d.modifiers, IsModifier m
  entries : ∀ e ∈ d.entries, e.WellFormed
  style : d.style = .omitted → d.entries = []

instance : DecidablePred WellFormed := fun d =>
  decidable_of_iff
    (NoBlank d.name.toList ∧ '(' ∉ d.name.toList ∧ (∀ p ∈ d.parameters, Parameter p.toList) ∧
      (∀ m ∈ d.modifiers, IsModifier m) ∧ (∀ e ∈ d.entries, e.WellFormed) ∧
      (d.style = .omitted → d.entries = []))
    ⟨fun ⟨h₁, h₂, h₃, h₄, h₅, h₆⟩ => ⟨h₁, h₂, h₃, h₄, h₅, h₆⟩,
      fun ⟨h₁, h₂, h₃, h₄, h₅, h₆⟩ => ⟨h₁, h₂, h₃, h₄, h₅, h₆⟩⟩

/-- The parts of the declaration are found again in its text: the list of its parameters ends at its
own parenthesis, and is cut at the commas between them. Their brackets need not match. -/
structure Readable (d : Declaration) : Prop where
  name : NoBlank d.name.toList
  opener : '(' ∉ d.name.toList
  tidy : ∀ p ∈ d.parameters, Tidy p.toList
  list : Balanced (listed (d.parameters.map String.toList))
  found : parametersOf (listed (d.parameters.map String.toList)) = d.parameters.map String.toList
  modifiers : ∀ m ∈ d.modifiers, IsModifier m
  entries : ∀ e ∈ d.entries, e.WellFormed
  style : d.style = .omitted → d.entries = []

theorem WellFormed.readable {d : Declaration} (h : d.WellFormed) : d.Readable := by
  have hparameters : ∀ p ∈ d.parameters.map String.toList, Parameter p :=
    List.forall_mem_map.mpr h.parameters
  exact
    { name := h.name
      opener := h.opener
      tidy := fun p hp => (h.parameters p hp).tidy
      list := closesFrom_of_closing (closing_listed hparameters [])
      found := parametersOf_listed hparameters
      modifiers := h.modifiers
      entries := h.entries
      style := h.style }

/-- The name with its parameter list. -/
def head (d : Declaration) : String :=
  d.name ++ "(" ++ ", ".intercalate d.parameters ++ ")"

/-- The list of the returned values. -/
def values (d : Declaration) : String :=
  "(" ++ ", ".intercalate (d.entries.map (·.text)) ++ ")"

/-- The parts of the clause of the returned values. -/
def clause (d : Declaration) : List String :=
  match d.style with
  | .spaced => ["returns", d.values]
  | .glued => ["returns" ++ d.values]
  | .omitted => []

/-- The declaration as it is written. -/
def text (d : Declaration) : String :=
  " ".intercalate (["function", d.head] ++ d.modifiers ++ d.clause)

/-! ### The characters of a declaration -/

theorem toList_head (d : Declaration) :
    d.head.toList = withList d.name.toList (d.parameters.map String.toList) := by
  simp [head, withList, listed]

theorem toList_values (d : Declaration) : d.values.toList = clauseText d.entries := by
  simp [values, clauseText, withList, listed, Function.comp_def]

/-- The characters of the clause, part by part. -/
theorem map_toList_clause (d : Declaration) :
    d.clause.map String.toList =
      match d.style with
      | .spaced => [returnsKeyword, clauseText d.entries]
      | .glued => [returnsKeyword ++ clauseText d.entries]
      | .omitted => [] := by
  unfold clause
  cases d.style with
  | spaced => rw [List.map_cons, List.map_singleton, toList_values]; rfl
  | glued => rw [List.map_singleton, String.toList_append, toList_values]; rfl
  | omitted => rfl

/-- The text without the word in front. -/
def fromHead (d : Declaration) : List Char :=
  unwords (d.head.toList :: (d.modifiers ++ d.clause).map String.toList)

theorem toList_text (d : Declaration) :
    d.text.toList = functionKeyword ++ ' ' :: d.fromHead := by
  rw [text, Text.toList_intercalate_space, List.append_assoc]
  exact Text.unwords_cons_cons _ _ _

/-! ### Its parts are tidy -/

variable {d : Declaration}

theorem isWord_returnsKeyword : IsWord returnsKeyword := by
  decide

theorem Readable.noBlank_opener (h : d.Readable) :
    NoBlank (d.name.toList ++ ['(']) :=
  h.name.append (by decide)

theorem Readable.tidy_head (h : d.Readable) : Tidy d.head.toList := by
  rw [toList_head]
  exact Tidy.withList h.name (List.forall_mem_map.mpr h.tidy)

theorem tidy_clauseText {entries : List ReturnEntry} (h : ∀ e ∈ entries, e.WellFormed) :
    Tidy (clauseText entries) :=
  Tidy.withList (by decide) (List.forall_mem_map.mpr fun e he => (h e he).tidy_text)

theorem Readable.tidy_clause (h : d.Readable) : ∀ p ∈ d.clause.map String.toList, Tidy p := by
  have hvalues := tidy_clauseText h.entries
  rw [map_toList_clause]
  cases d.style with
  | spaced => simpa using ⟨Text.tidy_of_isWord isWord_returnsKeyword, hvalues⟩
  | glued => simpa using hvalues.word_append isWord_returnsKeyword.noBlank
  | omitted => simp

theorem Readable.tidy_fromHead (h : d.Readable) : Tidy d.fromHead := by
  refine Tidy.unwords (by simp) fun p hp => ?_
  rw [List.map_append, List.mem_cons, List.mem_append] at hp
  rcases hp with rfl | hp | hp
  · exact h.tidy_head
  · obtain ⟨m, hm, rfl⟩ := List.mem_map.mp hp
    exact Text.tidy_of_isWord (h.modifiers m hm).word
  · exact h.tidy_clause p hp

/-! ### What is read of it -/

/-- The words of a declaration are the keyword and those behind it. -/
theorem words_text (d : Declaration) : words d.text.toList = functionKeyword :: words d.fromHead := by
  have hkeyword : words functionKeyword = [functionKeyword] := by decide
  rw [toList_text, Text.words_append_blank (by decide), hkeyword]
  rfl

/-- Behind the parameter list stand the words of the modifiers and of the clause. -/
theorem Readable.exists_tail (h : d.Readable) :
    ∃ tail, d.fromHead = (d.name.toList ++ ['(']) ++
        (listed (d.parameters.map String.toList) ++ ')' :: tail) ∧
      words tail =
        d.modifiers.map String.toList ++ (d.clause.map String.toList).flatMap words := by
  obtain ⟨tail, htext, hwords⟩ :=
    Text.exists_unwords_cons d.head.toList ((d.modifiers ++ d.clause).map String.toList)
  have hmodifiers : ∀ w ∈ d.modifiers.map String.toList, IsWord w :=
    List.forall_mem_map.mpr fun m hm => (h.modifiers m hm).word
  refine ⟨tail, ?_, ?_⟩
  · rw [fromHead, htext, toList_head]
    simp [withList]
  · rw [hwords, Text.words_unwords_eq_flatMap, List.map_append, List.flatMap_append,
      Text.flatMap_words hmodifiers]

/-- The clause is found behind the modifiers, and its values are read as their types. -/
theorem Readable.splitAtReturns_tail (h : d.Readable) :
    ∃ found, splitAtReturns (d.modifiers.map String.toList ++
        (d.clause.map String.toList).flatMap words) = (d.modifiers.map String.toList, found) ∧
      returnsOf found = d.entries.map fun e => ValueType.expand e.type := by
  have hmodifiers : ∀ m ∈ d.modifiers.map String.toList, ¬returnsKeyword <:+: m :=
    List.forall_mem_map.mpr fun m hm => (h.modifiers m hm).keyword
  have hvalues := tidy_clauseText h.entries
  have hreturns : returnsOf (some (words (clauseText d.entries))) =
      d.entries.map fun e => ValueType.expand e.type := by
    rw [returnsOf, Option.getD_some, clausePieces_clauseText h.entries, typesOf_piecesOf h.entries]
  rw [splitAtReturns_append hmodifiers, map_toList_clause]
  cases hstyle : d.style with
  | spaced =>
    refine ⟨some (words (clauseText d.entries)), ?_, hreturns⟩
    simp [Text.words_of_isWord isWord_returnsKeyword, splitAtReturns_keyword]
  | glued =>
    refine ⟨some (words (clauseText d.entries)), ?_, hreturns⟩
    obtain ⟨w, ws, hws⟩ := List.exists_cons_of_ne_nil hvalues.words_ne_nil
    have hmem : w ∈ words (clauseText d.entries) := by simp [hws]
    have hw : IsWord w := Text.isWord_of_mem_words hmem
    have hglued := hvalues.words_word_append isWord_returnsKeyword.noBlank
    rw [hws, onFirst] at hglued
    simp [hglued, hws, splitAtReturns_glued hw.ne_nil]
  | omitted =>
    -- no word holds the keyword, and there was no value to write
    refine ⟨none, by simp [splitAtReturns], ?_⟩
    simp [h.style hstyle, returnsOf, clausePieces, unparenthesized, onFirst, onLast, typesOf]

/-- **What is read of a declaration.** -/
theorem Readable.read_text (h : d.Readable) :
    read d.text = .ok
      { raw := d.text
        name := d.name
        parameters := d.parameters
        modifiers := d.modifiers
        returns := d.entries.map fun e => ValueType.expand e.type
        payable := payableKeyword ∈ words d.text.toList } := by
  have hbody := h.tidy_fromHead
  obtain ⟨tail, htext, htail⟩ := h.exists_tail
  obtain ⟨found, hsplit, hreturns⟩ := h.splitAtReturns_tail
  -- the first word behind the keyword holds the name and the parenthesis behind it
  obtain ⟨lead, rest, hwords⟩ : ∃ lead rest,
      words d.fromHead = (d.name.toList ++ ['('] ++ lead) :: rest :=
    ⟨_, _, by rw [htext]; exact Text.words_append (by simp) h.noBlank_opener _⟩
  rw [List.append_assoc, List.singleton_append] at hwords
  have hafter : Text.after? '(' d.fromHead =
      some (listed (d.parameters.map String.toList) ++ ')' :: tail) := by
    rw [htext, List.append_assoc]
    exact Text.after?_append h.opener _
  have hlist : parameterText (listed (d.parameters.map String.toList) ++ ')' :: tail) =
      (listed (d.parameters.map String.toList), tail) := by
    rw [parameterText, closing_balanced h.list, Option.getD_some]
  have hall : words? d.text = .ok (functionKeyword :: words d.fromHead) := by
    rw [words?, words_text, hwords]
  have hkeyword : fromName (functionKeyword :: words d.fromHead) = words d.fromHead := by
    rw [fromName, if_pos rfl]
  have hfirst : (words d.fromHead).headD [] = d.name.toList ++ '(' :: lead := by rw [hwords]; rfl
  have hread : read d.text =
      ofWords d.text (functionKeyword :: words d.fromHead) (words d.fromHead) := by
    rw [read, hall, Except.bind, hkeyword]
  rw [hread, ofWords, hfirst, if_pos (by simp), hbody.unwords_words, hafter, Option.getD_some, hlist]
  simp only [htail, hsplit, hreturns, h.found, Text.before_append h.opener,
    words_text]
  simp [Function.comp_def]

theorem WellFormed.read_text (h : d.WellFormed) :
    read d.text = .ok
      { raw := d.text
        name := d.name
        parameters := d.parameters
        modifiers := d.modifiers
        returns := d.entries.map fun e => ValueType.expand e.type
        payable := payableKeyword ∈ words d.text.toList } :=
  h.readable.read_text

/-! ### Payable declarations -/

theorem WellFormed.payable_not_mem_words_head (h : d.WellFormed)
    (hparameters : ∀ p ∈ d.parameters, payableKeyword ∉ words p.toList) :
    payableKeyword ∉ words d.head.toList := by
  rw [toList_head]
  intro hv
  have htidy : ∀ p ∈ d.parameters.map String.toList, Tidy p :=
    List.forall_mem_map.mpr fun p hp => (h.parameters p hp).tidy
  obtain ⟨p, hp, hv⟩ := Text.mem_words_withList h.name htidy (by decide)
    (by decide) (by decide) hv
  obtain ⟨parameter, hparameter, rfl⟩ := List.mem_map.mp hp
  exact hparameters parameter hparameter hv

theorem WellFormed.payable_not_mem_words_clause (h : d.WellFormed)
    (hentries : ∀ e ∈ d.entries, payableKeyword ∉ words e.text.toList) :
    payableKeyword ∉ (d.clause.map String.toList).flatMap words := by
  -- the keyword may be glued to the list, but then the first word holds a parenthesis
  have hlist : ∀ w : List Char, NoBlank w →
      payableKeyword ∉ words (w ++ clauseText d.entries) := by
    intro w hw hv
    have htidy : ∀ p ∈ d.entries.map (·.text.toList), Tidy p :=
      List.forall_mem_map.mpr fun e he => (h.entries e he).tidy_text
    rw [clauseText, Text.append_withList, List.append_nil] at hv
    obtain ⟨p, hp, hv⟩ := Text.mem_words_withList hw htidy (by decide) (by decide) (by decide) hv
    obtain ⟨e, he, rfl⟩ := List.mem_map.mp hp
    exact hentries e he hv
  have hne : payableKeyword ≠ returnsKeyword := by decide
  rw [map_toList_clause]
  cases d.style with
  | spaced => simpa [Text.words_of_isWord isWord_returnsKeyword, hne] using hlist [] (by decide)
  | glued => simpa using hlist returnsKeyword isWord_returnsKeyword.noBlank
  | omitted => simp

/-- **A declaration is payable by its modifiers**, unless a parameter or a returned value has that
word in it. -/
theorem WellFormed.payable_mem_words_text (h : d.WellFormed)
    (hparameters : ∀ p ∈ d.parameters, payableKeyword ∉ words p.toList)
    (hentries : ∀ e ∈ d.entries, payableKeyword ∉ words e.text.toList) :
    payableKeyword ∈ words d.text.toList ↔ "payable" ∈ d.modifiers := by
  have hmodifiers : ∀ w ∈ d.modifiers.map String.toList, IsWord w :=
    List.forall_mem_map.mpr fun m hm => (h.modifiers m hm).word
  have hmem : payableKeyword ∈ d.modifiers.map String.toList ↔ "payable" ∈ d.modifiers := by
    constructor
    · intro hp
      obtain ⟨m, hm, heq⟩ := List.mem_map.mp hp
      exact String.toList_inj.mp heq ▸ hm
    · intro hm
      exact List.mem_map.mpr ⟨_, hm, rfl⟩
  have hkeyword : payableKeyword ≠ functionKeyword := by decide
  rw [words_text, fromHead, Text.words_unwords_eq_flatMap, List.flatMap_cons, List.map_append,
    List.flatMap_append, Text.flatMap_words hmodifiers, ← hmem]
  simp [hkeyword, h.payable_not_mem_words_head hparameters,
    h.payable_not_mem_words_clause hentries]

end Declaration

/-- **A declaration is read as it is written**: its name, its parameters and its modifiers are found
again, and its returned values as their types in full form. It is payable iff that is one of its
modifiers, unless a parameter or a returned value has that word in it. -/
theorem parse_text {d : Declaration} (h : d.WellFormed) :
    ∃ s, parse (some d.text) = .ok s ∧ s.name = d.name ∧ s.parameters = d.parameters ∧
      s.modifiers = d.modifiers ∧
      s.returns = d.entries.map (fun e => ValueType.expand e.type) ∧
      ((∀ p ∈ d.parameters, payableKeyword ∉ words p.toList) →
        (∀ e ∈ d.entries, payableKeyword ∉ words e.text.toList) →
          (s.payable = true ↔ "payable" ∈ d.modifiers)) := by
  refine ⟨_, by rw [parse, Option.getD_some, h.read_text], rfl, rfl, rfl, rfl, ?_⟩
  intro hparameters hentries
  rw [decide_eq_true_iff]
  exact h.payable_mem_words_text hparameters hentries

/-- A declaration with a parameter that is a function itself and has its own returned values. -/
def swapDeclaration : Declaration where
  name := "swap"
  parameters := ["function(uint256, bool) external returns (bool) check", "uint256[2] amounts"]
  modifiers := ["external", "payable"]
  entries := [⟨"string calldata", some "note"⟩, ⟨"uint", none⟩]
  style := .glued

example : swapDeclaration.text =
    "function swap(function(uint256, bool) external returns (bool) check, uint256[2] amounts) " ++
      "external payable returns(string calldata note, uint)" := by
  decide +kernel

theorem parse_text_swapDeclaration :
    swapDeclaration.WellFormed ∧
      ∃ s, parse (some swapDeclaration.text) = .ok s ∧ s.name = "swap" ∧
        s.parameters = swapDeclaration.parameters ∧ s.modifiers = ["external", "payable"] ∧
        s.returns = ["string memory", "uint256"] ∧ s.payable = true := by
  have h : swapDeclaration.WellFormed := by decide +kernel
  obtain ⟨s, hs, hname, hps, hms, hreturns, hpayable⟩ := parse_text h
  refine ⟨h, s, hs, hname, hps, hms, hreturns.trans (by decide +kernel), ?_⟩
  exact (hpayable (by decide +kernel) (by decide +kernel)).mpr (by decide)

end ExploitReplay.Signature
