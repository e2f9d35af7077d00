import ExploitReplay.Proofs.Signature.Declaration
import ExploitReplay.Proofs.Signature.Division

/-!
# Writing signatures

What is read of a text can be written down again, in one way: the keyword, the name, the parameters
with a comma and a space between neighbours, the modifiers behind single spaces, and the types of
the returned values. If the parameter list of the text is closed, this is read as the same
signature, however the text is spaced, glued together or cut, and whatever was dropped.

## Main definitions

* `Signature.written s`: a signature as it is written down
* `Signature.declaration s`: the declaration that it is written as

## Main results

* `readable_declaration`: the parts of a signature are found again in what is written of it
* `parse_written`: what is written of a signature is read as that signature
-/

namespace ExploitReplay.Signature

open Text (NoBlank isBlank listed words)

/-- A signature as it is written down. -/
def written (s : Signature) : String :=
  "function " ++ s.name ++ "(" ++ ", ".intercalate s.parameters ++ ")" ++
    String.join (s.modifiers.map (" " ++ ·)) ++
    if s.returns = [] then "" else " returns (" ++ ", ".intercalate s.returns ++ ")"

/-- The declaration that a signature is written as: its returned values have no names. -/
def declaration (s : Signature) : Declaration where
  name := s.name
  parameters := s.parameters
  modifiers := s.modifiers
  entries := s.returns.map (⟨·, none⟩)
  style := if s.returns = [] then .omitted else .spaced

/-- Texts with single spaces between them: the first, and each other one behind a space. -/
theorem intercalate_space_cons (w : String) (ws : List String) :
    " ".intercalate (w :: ws) = w ++ String.join (ws.map (" " ++ ·)) := by
  induction ws generalizing w with
  | nil => simp
  | cons v vs ih =>
    rw [String.intercalate_cons_cons, ih, List.map_cons, String.join_cons, String.append_assoc,
      String.append_assoc]

/-- **A signature is written as its declaration.** -/
theorem text_declaration (s : Signature) : s.declaration.text = s.written := by
  have hentries : s.declaration.entries.map (·.text) = s.returns := by
    rw [declaration, List.map_map]
    exact List.map_id' s.returns
  have hhead : s.declaration.head = s.name ++ "(" ++ ", ".intercalate s.parameters ++ ")" := rfl
  have hclause : String.join (s.declaration.clause.map (" " ++ ·)) =
      if s.returns = [] then "" else " returns (" ++ ", ".intercalate s.returns ++ ")" := by
    rw [Declaration.clause, Declaration.values, hentries]
    by_cases hreturns : s.returns = []
    · have hstyle : s.declaration.style = .omitted := if_pos hreturns
      rw [hstyle, if_pos hreturns]
      rfl
    · have hstyle : s.declaration.style = .spaced := if_neg hreturns
      have hkeyword : " " ++ "returns" ++ (" " ++ "(") = " returns (" := by decide
      rw [hstyle, if_neg hreturns, ← hkeyword]
      simp only [List.map_cons, List.map_nil, String.join_cons, String.join_nil,
        String.append_assoc, String.append_empty]
  have hkeyword : "function" ++ " " = "function " := by decide
  calc s.declaration.text
      = "function" ++ String.join
          (([s.declaration.head] ++ s.modifiers ++ s.declaration.clause).map (" " ++ ·)) :=
        intercalate_space_cons _ _
    _ = "function" ++ (" " ++ s.declaration.head ++ String.join (s.modifiers.map (" " ++ ·)) ++
          String.join (s.declaration.clause.map (" " ++ ·))) := by
        rw [List.map_append, List.map_append, String.join_append, String.join_append]
        rfl
    _ = "function " ++ s.name ++ "(" ++ ", ".intercalate s.parameters ++ ")" ++
          String.join (s.modifiers.map (" " ++ ·)) ++
            if s.returns = [] then "" else " returns (" ++ ", ".intercalate s.returns ++ ")" := by
        rw [hhead, hclause, ← hkeyword]
        simp only [String.append_assoc]
    _ = s.written := rfl

/-! ### It is found again -/

/-- A type of the catalog is its own full form. -/
theorem expand_of_isKnown {t : String} (h : ValueType.isKnown t = true) :
    ValueType.expand t = t := by
  -- no shorthand is in the catalog itself
  have hshorthands : ∀ p ∈ ValueType.shorthands, ValueType.isKnown p.1 = false := by decide +kernel
  have hlookup : ValueType.shorthands.lookup t = none := by
    rw [List.lookup_eq_none_iff]
    intro p hp
    rw [bne_iff_ne]
    rintro rfl
    simp [hshorthands p hp] at h
  rw [ValueType.expand, hlookup, Option.getD_none]

theorem ReturnEntry.wellFormed_of_isKnown {t : String} (h : ValueType.isKnown t = true) :
    ReturnEntry.WellFormed ⟨t, none⟩ where
  type := List.mem_append_left _ (List.contains_iff_mem.mp h)
  name := nofun

/-- What stands in front of the clause of the returned values are modifiers. -/
theorem isModifier_of_mem_splitAtReturns {cs w : List Char} (h : w ∈ (splitAtReturns (words cs)).1) :
    IsModifier (String.ofList w) := by
  obtain ⟨hstarts, hkeyword⟩ := splitAtReturns_fst (words cs)
  refine ⟨?_, ?_⟩
  · rw [String.toList_ofList]
    exact Text.isWord_of_mem_words (hstarts.subset h)
  · rw [String.toList_ofList]
    exact hkeyword w h

theorem noBlank_nameWord (text : String) : NoBlank (nameWord text) := by
  rw [nameWord]
  cases hwords : fromName (words text.toList) with
  | nil => exact fun c hc => by simp at hc
  | cons w ws =>
    have hmem : w ∈ words text.toList := mem_of_mem_fromName (by rw [hwords]; simp)
    exact (Text.isWord_of_mem_words hmem).noBlank

/-- The characters that decide where a list ends. -/
def isParenthesis (c : Char) : Bool :=
  c = '(' ∨ c = ')'

theorem isParenthesis_of_isBlank {c : Char} (h : isBlank c = true) : isParenthesis c = false := by
  refine decide_eq_false fun hparen => ?_
  rcases hparen with rfl | rfl <;> exact absurd h (by decide)

/-- **The list stays closed** when its parameters are listed again: they have its parentheses, in
their order. -/
theorem balanced_listed_parametersOf {inside : List Char} (h : Balanced inside) :
    Balanced (listed (parametersOf inside)) := by
  have hopen : isParenthesis '(' = true := by decide
  have hclose : isParenthesis ')' = true := by decide
  rw [Balanced, ← ClosesFrom.filter_iff hopen hclose,
    filter_listed_parametersOf (by decide) fun _ => isParenthesis_of_isBlank,
    ClosesFrom.filter_iff hopen hclose]
  exact h

/-- **The parts of a signature are found again** in what is written of it, if its parameter list is
closed. -/
theorem readable_declaration {text : String} {s : Signature} (h : parse (some text) = .ok s)
    (hcloses : ListCloses text) : s.declaration.Readable := by
  obtain ⟨-, -, hs⟩ := parse_eq_ok_iff.mp h
  obtain ⟨front, list, tail, hdivides⟩ := hcloses
  obtain ⟨inside, hdivision, hbalanced, hspaced⟩ := hdivides.exists_division
  have hname : s.name.toList = Text.before '(' (nameWord text) := by
    rw [hs, divided, String.toList_ofList]
  have hparameters : s.declaration.parameters.map String.toList = parametersOf inside := by
    change s.parameters.map String.toList = parametersOf inside
    rw [hs, divided, hdivision]
    simp [Function.comp_def]
  have hmodifiers : s.declaration.modifiers =
      (splitAtReturns (words (division text).2)).1.map String.ofList := by
    change s.modifiers = _
    rw [hs, divided]
  refine
    { name := ?name
      opener := ?opener
      tidy := ?tidy
      list := ?list
      found := ?found
      modifiers := ?modifiers
      entries := List.forall_mem_map.mpr fun t ht =>
        ReturnEntry.wellFormed_of_isKnown (isKnown_of_mem_returns h ht)
      style := ?style }
  case name =>
    intro c hc
    rw [declaration, hname] at hc
    exact noBlank_nameWord text c ((List.takeWhile_prefix _).subset hc)
  case opener =>
    rw [declaration, hname]
    exact Text.not_mem_before _ _
  case tidy =>
    intro p hp
    exact tidy_of_mem_parametersOf hspaced (hparameters ▸ List.mem_map_of_mem hp)
  case list =>
    rw [hparameters]
    exact balanced_listed_parametersOf hbalanced
  case found =>
    rw [hparameters]
    exact parametersOf_listed_parametersOf hspaced
  case modifiers =>
    intro m hm
    rw [hmodifiers] at hm
    obtain ⟨w, hw, rfl⟩ := List.mem_map.mp hm
    exact isModifier_of_mem_splitAtReturns hw
  case style =>
    intro hstyle
    by_cases hreturns : s.returns = []
    · exact List.map_eq_nil_iff.mpr hreturns
    · have hspaced : s.declaration.style = .spaced := if_neg hreturns
      rw [hspaced] at hstyle
      nomatch hstyle

/-- **What is written of a signature is read as that signature**: the name, the parameters, the
modifiers and the types of the returned values are found again, if the parameter list is closed.
Written down once more, it is the same text. -/
theorem parse_written {text : String} {s : Signature} (h : parse (some text) = .ok s)
    (hcloses : ListCloses text) :
    ∃ s', parse (some s.written) = .ok s' ∧ s'.name = s.name ∧ s'.parameters = s.parameters ∧
      s'.modifiers = s.modifiers ∧ s'.returns = s.returns ∧ s'.written = s.written := by
  have hread := (readable_declaration h hcloses).read_text
  have hreturns : (s.declaration.entries.map fun e => ValueType.expand e.type) = s.returns := by
    rw [declaration, List.map_map]
    exact (List.map_congr_left fun t ht => expand_of_isKnown (isKnown_of_mem_returns h ht)).trans
      (List.map_id' s.returns)
  rw [text_declaration, hreturns] at hread
  have hparse : parse (some s.written) = .ok
      { s with raw := s.written, payable := payableKeyword ∈ words s.written.toList } := by
    rw [parse, Option.getD_some, hread]
    rfl
  exact ⟨_, hparse, rfl, rfl, rfl, rfl, rfl⟩

/-- The brackets of the list are not nested, a parameter is missing, a modifier touches the list,
and one of the returned values is of no type that is understood. -/
def unevenText : String :=
  "swap[](uint256[ a, (bool])\t b,, address  c )only(x) returns(uint96 x,string calldata  note)"

theorem parse_written_unevenText :
    ListCloses unevenText ∧ ∃ s, parse (some unevenText) = .ok s ∧
      s.written =
        "function swap[](uint256[ a, (bool]) b, address c) only(x) returns (string memory)" ∧
      ∃ s', parse (some s.written) = .ok s' ∧ s'.name = s.name ∧ s'.parameters = s.parameters ∧
        s'.modifiers = s.modifiers ∧ s'.returns = s.returns ∧ s'.written = s.written := by
  have hcloses : ListCloses unevenText := by
    refine ⟨"swap[]".toList, "uint256[ a, (bool])\t b,, address  c ".toList,
      "only(x) returns(uint96 x,string calldata  note)".toList, ?_, ?_, ?_⟩
    · decide +kernel
    · decide
    · have hclosing : closing 0 "uint256[ a, (bool])\t b,, address  c )".toList =
          some ("uint256[ a, (bool])\t b,, address  c ".toList, []) := by decide +kernel
      exact closesFrom_of_closing hclosing
  have hs : parse (some unevenText) = .ok (divided unevenText) :=
    parse_eq_ok_iff.mpr ⟨by decide +kernel, by decide +kernel, rfl⟩
  exact ⟨hcloses, _, hs, by decide +kernel, parse_written hs hcloses⟩

end ExploitReplay.Signature
