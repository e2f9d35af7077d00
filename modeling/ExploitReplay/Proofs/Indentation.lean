import ExploitReplay.Proofs.Document
import ExploitReplay.Proofs.LaidOut
import ExploitReplay.Proofs.Signature.Reading

/-!
# How a test is indented

A test is written with four spaces for every open brace, and all its braces are balanced, as long as
the texts it is made of hold neither braces nor line breaks and no signature starts with a blank.
The only braces inside a line are those of the import and around the options of a call.

## Main definitions

* `textsOf template funding steps`: the texts that a test is made of
* `CallStatement.Plain scope step signature`, `Document.Plain d`: a step and a document can be written

## Main results

* `CallStatement.Plain.isLaidOut_groupOf`: the lines of a step are laid out
* `Calls.isLaidOut`: so are those of all steps, as only texts without braces are declared
* `Document.Plain.isLaidOut_text`: a document is laid out if its parts can be written
* `plain_documentOf`: the parts of the document of a sequence can be written
* `compile_indented`: a test is balanced and indented
-/

namespace ExploitReplay

/-! ### The texts of a test -/

/-- The text of a literal. -/
def Argument.literal? : Argument → Option String
  | .literal text => some text
  | .captured _ => none

/-- The texts of a step that are written as they are given, apart from the names of captured
arguments, which must be declared. -/
def Step.texts (step : Step) : List String :=
  [step.call.caller, step.call.target, step.call.signature] ++ step.call.value.toList ++
    step.call.gasLimit.toList ++ step.inputs.filterMap Argument.literal? ++ step.outputs

/-- The texts of a template. -/
def Template.texts (t : Template) : List String :=
  [t.license, t.solidityVersion, t.testSymbol, t.testImport, t.contractName, t.setUpName,
    t.exploitName, t.usualFunds]

/-- The texts that a test is made of. -/
def textsOf (template : Template) (funding : Funding) (steps : List Step) : List String :=
  template.texts ++ funding.amount.toList ++ steps.flatMap Step.texts

/-! ### Variables -/

theorem IsLaidOut.variableLine {d : Nat} {b : Binding} (htype : Statement b.type)
    (hname : Inline b.name) (hvalue : Inline b.value) :
    IsLaidOut d (Solidity.variableLine (level d) b) := by
  have hspace : Fragment " " := Inline.fragment (by decide)
  have hsemicolon : Fragment ";" := Inline.fragment (by decide)
  have hassigned : Inline (if b.value = "" then "" else " = " ++ b.value) := by
    split
    · decide
    · exact .append (by decide) hvalue
  have hnamed := (htype.append hspace).append hname.fragment
  exact .line ((hnamed.append hassigned.fragment).append hsemicolon)

/-- A type of the catalog can stand on a line. -/
theorem statement_declared {type : String} (h : ValueType.isKnown type = true) :
    Statement (ValueType.declared type) := by
  -- the catalog is a short list of texts, so all of them can be looked at
  have hall : ∀ t ∈ ValueType.catalog, Inline (ValueType.declared t) ∧
      Text.startsLine (ValueType.declared t).toList = true := by
    decide +kernel
  obtain ⟨hinline, hstarts⟩ := hall type (by simpa [ValueType.isKnown] using h)
  exact hinline.statement hstarts

/-- A value is written by a declared name, or as it is. -/
theorem inline_reference {scope : Scope} (hscope : ∀ n ∈ scope.names, Inline n) {value : String}
    (hvalue : Inline value) : Inline (scope.reference value) := by
  rcases scope.reference_cases value with hname | hself
  · exact hscope _ hname
  · rwa [hself]

namespace CallStatement

theorem inline_slotsOf {signature : Signature} {outputs : List String}
    (h : ∀ o ∈ outputs, Inline o) : ∀ s ∈ slotsOf signature outputs, Inline s := by
  intro s hs
  unfold slotsOf at hs
  split at hs
  · cases hs
  · -- a slot has one of the names, without the blanks around it, or is blank
    rcases List.mem_append.mp hs with hs | hs
    · obtain ⟨o, ho, rfl⟩ := List.mem_map.mp hs
      exact (h o ho).trim
    · rw [List.eq_of_mem_replicate hs]
      decide

/-- A captured variable has a type of the catalog. -/
theorem type_of_mem_capturesOf {slots types : List String} {b : Binding}
    (h : b ∈ capturesOf slots types) : ∃ type ∈ types, b.type = ValueType.declared type := by
  obtain ⟨⟨name, type⟩, hp, hb⟩ := List.mem_filterMap.mp h
  dsimp only at hb
  split at hb
  · cases hb
  · obtain rfl := Option.some.inj hb
    exact ⟨type, (List.of_mem_zip hp).2, rfl⟩

theorem mem_captures_of_mem_declaredBefore {c : CallStatement} {b : Binding}
    (h : b ∈ c.declaredBefore) : b ∈ c.captures := by
  unfold declaredBefore at h
  split at h
  · cases h
  · cases h
  · exact h

/-! ### Calls -/

theorem inline_filled {t : Option String} (h : ∀ s ∈ t, Inline s) : ∀ s ∈ filled t, Inline s := by
  intro s hs
  exact h s (Option.mem_filter_iff.mp hs).1

theorem inline_sentValue {value : Option String} (h : ∀ s ∈ value, Inline s) (payable : Bool) :
    ∀ s ∈ sentValue value payable, Inline s := by
  unfold sentValue
  split
  · exact inline_filled h
  · simp

/-- The options of a call stand between braces of their own. -/
theorem fragment_optionsText {value gasLimit : Option String} (hvalue : ∀ s ∈ value, Inline s)
    (hgas : ∀ s ∈ gasLimit, Inline s) : Fragment (optionsText value gasLimit) := by
  have hoptions : Inline (", ".intercalate ((value.map ("value: " ++ ·)).toList ++
      (gasLimit.map ("gasLimit: " ++ ·)).toList)) := by
    refine Inline.intercalate (by decide) ?_
    intro s hs
    simp only [List.mem_append, Option.mem_toList, Option.map_eq_some_iff] at hs
    rcases hs with ⟨v, hv, rfl⟩ | ⟨g, hg, rfl⟩
    · exact .append (by decide) (hvalue v hv)
    · exact .append (by decide) (hgas g hg)
  simp only [optionsText]
  split
  · exact Inline.fragment (by decide)
  · exact hoptions.fragment.braced

/-- The slots between parentheses can stand on a line. -/
theorem statement_tuple {slots : List String} (h : ∀ s ∈ slots, Inline s) :
    Statement (tuple slots) := by
  have hopen : Statement "(" := Inline.statement (by decide) (by decide)
  have hclose : Fragment ")" := Inline.fragment (by decide)
  have hslots : Inline (", ".intercalate (slots.map fun s => if s = "" then discarded else s)) := by
    refine Inline.intercalate (by decide) ?_
    intro s hs
    obtain ⟨slot, hslot, rfl⟩ := List.mem_map.mp hs
    split
    · decide
    · exact h slot hslot
  exact (hopen.append hslots.fragment).append hclose

/-- The step can be written in the scope: its texts and the declared names hold neither braces nor
line breaks, its arguments are declared, and it has a signature. -/
structure Plain (scope : Scope) (step : Step) (signature : Signature) : Prop where
  names : ∀ n ∈ scope.names, Inline n
  texts : ∀ t ∈ step.texts, Inline t
  declared : ∀ n, Argument.captured n ∈ step.inputs → n ∈ scope.names
  parse : Signature.parse (some step.call.signature) = .ok signature

namespace Plain

variable {scope : Scope} {step : Step} {target : String} {signature : Signature}
  (h : Plain scope step signature)

include h

theorem outputs : ∀ o ∈ step.outputs, Inline o := by
  intro o ho
  exact h.texts o (by simp [Step.texts, ho])

/-- The text of an argument is given, or the name of a declared variable. -/
theorem inline_arguments : Inline (", ".intercalate (step.inputs.map Argument.text)) := by
  refine Inline.intercalate (by decide) ?_
  intro s hs
  obtain ⟨a, ha, rfl⟩ := List.mem_map.mp hs
  cases a with
  | literal text =>
    have hmem : text ∈ step.inputs.filterMap Argument.literal? :=
      List.mem_filterMap.mpr ⟨_, ha, rfl⟩
    exact h.texts text (by simp [Step.texts, hmem])
  | captured n => exact h.names n (h.declared n ha)

/-- A variable that keeps a returned value is declared on a line. -/
theorem of_mem_captures {b : Binding} (hb : b ∈ (settled scope step target signature).captures) :
    Statement b.type ∧ Inline b.name ∧ Inline b.value := by
  obtain ⟨hslot, -, hvalue⟩ := of_mem_capturesOf hb
  obtain ⟨type, hmem, htype⟩ := type_of_mem_capturesOf hb
  refine ⟨?_, inline_slotsOf h.outputs _ hslot, ?_⟩
  · rw [htype]
    exact statement_declared (Signature.isKnown_of_mem_returns h.parse hmem)
  · rw [hvalue]
    decide

/-- What a call is assigned to can stand on a line. -/
theorem statement_assigned {a : String}
    (ha : (settled scope step target signature).assigned = some a) : Statement a := by
  have hspace : Fragment " " := Inline.fragment (by decide)
  rw [assigned, assignment] at ha
  split at ha
  · cases ha
  · -- a single value is assigned to its declaration
    rename_i b _ hb _
    obtain rfl := Option.some.inj ha
    have hmem : b ∈ (settled scope step target signature).captures := by simp [hb]
    obtain ⟨htype, hname, -⟩ := h.of_mem_captures hmem
    exact (htype.append hspace).append hname.fragment
  · obtain rfl := Option.some.inj ha
    exact statement_tuple (inline_slotsOf h.outputs)

/-- The called function with its options and arguments can be written inside a line. -/
theorem fragment_message : Fragment (groupOf scope step target signature).message := by
  -- the name is a part of the signature, which is not written here itself
  have hsignature : Inline step.call.signature := h.texts _ (by simp [Step.texts])
  have hname : Inline signature.name :=
    hsignature.of_subset (Signature.name_subset_of_parse h.parse)
  have hoptions : Fragment
      (executionOptions step.call.value step.call.gasLimit signature.payable) := by
    refine fragment_optionsText (inline_sentValue ?_ signature.payable) (inline_filled ?_)
    · intro v hv
      exact h.texts v (by simp [Step.texts, Option.mem_toList.mpr hv])
    · intro g hg
      exact h.texts g (by simp [Step.texts, Option.mem_toList.mpr hg])
  have hopen : Fragment "(" := Inline.fragment (by decide)
  have hclose : Fragment ")" := Inline.fragment (by decide)
  have hcalled := (hname.fragment.append hoptions).append hopen
  exact (hcalled.append h.inline_arguments.fragment).append hclose

/-- The call of a step can stand on a line. -/
theorem statement_callText (htarget : Statement target) :
    Statement (groupOf scope step target signature).callText := by
  have hequals : Fragment " = " := Inline.fragment (by decide)
  have hdot : Fragment "." := Inline.fragment (by decide)
  have hsemicolon : Fragment ";" := Inline.fragment (by decide)
  -- the line starts with what the call is assigned to, or with the contract
  have hassigned : Statement (((settled scope step target signature).assigned.map
      (· ++ " = ")).getD "" ++ target) := by
    cases ha : (settled scope step target signature).assigned with
    | none => simpa using htarget
    | some a => exact ((h.statement_assigned ha).append hequals).append htarget.toIsFragment
  have hmessage : Fragment (groupOf scope step target signature).message := h.fragment_message
  exact ((hassigned.append hdot).append hmessage).append hsemicolon

/-- The account that is chosen before a call is written inside a line. -/
theorem inline_prank {r : String} (hr : (groupOf scope step target signature).prank = some r) :
    Inline r := by
  simp only [groupOf, settled] at hr
  split at hr
  · cases hr
  · obtain rfl := Option.some.inj hr
    exact inline_reference h.names (h.texts _ (by simp [Step.texts]))

/-- **The lines of a step are laid out**: its declarations, the choice of the caller, and the
call. -/
theorem isLaidOut_groupOf (htarget : Statement target) (d : Nat) :
    IsLaidOut d ((groupOf scope step target signature).text (level d)) := by
  have hopen : Statement "vm.prank(" := Inline.statement (by decide) (by decide)
  have hclose : Fragment ");" := Inline.fragment (by decide)
  refine IsLaidOut.intercalate (.inl rfl) (by simp [CallGroup.lines]) ?_
  intro line hline
  rw [CallGroup.lines, List.mem_append, List.mem_append] at hline
  rcases hline with (hdeclaration | hprank) | hcall
  · obtain ⟨b, hb, rfl⟩ := List.mem_map.mp hdeclaration
    obtain ⟨htype, hname, hvalue⟩ :=
      h.of_mem_captures (mem_captures_of_mem_declaredBefore hb)
    exact .variableLine htype hname hvalue
  · obtain ⟨r, hr, rfl⟩ := List.mem_map.mp hprank
    have hreference := h.inline_prank (Option.mem_toList.mp hr)
    exact .line ((hopen.append hreference.fragment).append hclose)
  · rw [List.mem_singleton.mp hcall]
    exact .line (h.statement_callText htarget)

end Plain

end CallStatement

/-! ### Keywords and names -/

section Keywords

variable {keyword name rest : String}

/-- A keyword with a name behind it can stand on a line. -/
theorem statement_named (hkeyword : Inline keyword)
    (hstarts : Text.startsLine keyword.toList = true) (hname : Inline name) :
    Statement (keyword ++ name) :=
  (hkeyword.statement hstarts).append hname.fragment

theorem statement_head (hkeyword : Inline keyword)
    (hstarts : Text.startsLine keyword.toList = true) (hname : Inline name) (hrest : Inline rest) :
    Statement (keyword ++ name ++ rest) :=
  (statement_named hkeyword hstarts hname).append hrest.fragment

end Keywords

/-- The interface of a contract can stand on a line. -/
theorem statement_interfaceName (n : Nat) : Statement (Solidity.interfaceName n) :=
  statement_named (by decide) (by decide) (Inline.number n)

/-- The variable of a contract can stand on a line. -/
theorem statement_contractName (n : Nat) : Statement (Solidity.contractName n) :=
  statement_named (by decide) (by decide) (Inline.number n)

/-! ### The calls of a sequence -/

/-- **The lines of all steps are laid out**, as only texts without braces are declared. -/
theorem Calls.isLaidOut {all steps : List Step} {scope left : Scope} {cs : List CallStatement}
    (h : Calls (AddressBook.ofSteps all) scope steps cs left) (hsub : ∀ step ∈ steps, step ∈ all)
    (htexts : ∀ step ∈ steps, ∀ t ∈ step.texts, Inline t) (hscope : ∀ n ∈ scope.names, Inline n)
    (d : Nat) : ∀ c ∈ cs, IsLaidOut d (c.render (level d)) := by
  -- on the run; a step declares names that it keeps, which are among its texts
  induction h with
  | nil => simp
  | @cons scope left step steps c cs head tail ih =>
    rw [callOf_ofSteps (hsub step (by simp))] at head
    have hstep := htexts step (by simp)
    have hkept : ∀ n ∈ (c.declareIn scope).names, Inline n := by
      intro n hn
      rw [CallStatement.declareIn, Scope.mem_names_defineAll, names_captures_of_ofStep head] at hn
      rcases hn with hn | hn
      · exact hscope n hn
      · obtain ⟨o, ho, rfl⟩ := List.mem_map.mp (List.mem_filter.mp hn).1
        exact (hstep o (by simp [Step.texts, ho])).trim
    have hrest := ih (fun s hs => hsub s (List.mem_cons_of_mem _ hs))
      (fun s hs => htexts s (List.mem_cons_of_mem _ hs)) hkept
    obtain ⟨hacceptable, signature, hparse, rfl⟩ := CallStatement.ofStep_eq_ok_iff.mp head
    have hplain : CallStatement.Plain scope step signature :=
      ⟨hscope, hstep, hacceptable.arguments, hparse⟩
    intro c' hc'
    rcases List.mem_cons.mp hc' with rfl | hc'
    · rw [CallStatement.render_settled]
      exact hplain.isLaidOut_groupOf (statement_contractName _) d
    · exact hrest c' hc'

/-! ### Documents -/

/-- An interface is laid out if its signatures can stand on lines. -/
theorem InterfaceDecl.isLaidOut {e : InterfaceDecl} (hname : Inline e.name)
    (hsignatures : ∀ s ∈ e.signatures, Statement s) (d : Nat) : IsLaidOut d (e.text (level d)) := by
  have hsemicolon : Fragment ";" := Inline.fragment (by decide)
  refine .enclosed (statement_named (by decide) (by decide) hname) (.inl rfl) ?_
  intro line hline
  obtain ⟨s, hs, rfl⟩ := List.mem_map.mp hline
  exact .line ((hsignatures s hs).append hsemicolon)

/-- The variable of a contract is laid out. -/
theorem ContractDecl.isLaidOut {c : ContractDecl} (hinterface : Statement c.interface)
    (hname : Inline c.name) (haddress : Inline c.address) (d : Nat) :
    IsLaidOut d (c.text (level d)) := by
  have hspace : Fragment " " := Inline.fragment (by decide)
  have hequals : Fragment " = " := Inline.fragment (by decide)
  have hopen : Fragment "(" := Inline.fragment (by decide)
  have hclose : Fragment ");" := Inline.fragment (by decide)
  have hvariable := ((hinterface.append hspace).append hname.fragment).append hequals
  exact .line ((((hvariable.append hinterface.toIsFragment).append hopen).append
    haddress.fragment).append hclose)

namespace Document

/-- The parts of the document can be written: its texts hold neither braces nor line breaks, what
stands at the start of a line can stand there, and its groups are laid out. -/
structure Plain (d : Document) : Prop where
  template : ∀ t ∈ d.template.texts, Inline t
  interfaces : ∀ e ∈ d.interfaces, Inline e.name ∧ ∀ s ∈ e.signatures, Statement s
  contracts : ∀ c ∈ d.contracts, Statement c.interface ∧ Inline c.name ∧ Inline c.address
  accounts : ∀ b ∈ d.accounts, Statement b.type ∧ Inline b.name ∧ Inline b.value
  deals : ∀ p ∈ d.deals, Inline p.1 ∧ Inline p.2
  groups : ∀ g ∈ d.groups, ∀ n, IsLaidOut n (g.text (level n))

namespace Plain

variable {d : Document} (h : d.Plain)

include h

theorem isLaidOut_header : IsLaidOut 0 d.header := by
  have hlicense := h.template d.template.license (by simp [Template.texts])
  have hversion := h.template d.template.solidityVersion (by simp [Template.texts])
  refine .intercalate (.inl rfl) (by simp) ?_
  intro line hline
  rcases List.mem_pair.mp hline with rfl | rfl
  · exact .top (statement_named (by decide) (by decide) hlicense)
  · exact .top (statement_head (by decide) (by decide) hversion (by decide))

/-- The import stands on a line, with its symbol between braces. -/
theorem isLaidOut_importLine :
    IsLaidOut 0 (Solidity.importLine d.template.testSymbol d.template.testImport) := by
  have hsymbol := h.template d.template.testSymbol (by simp [Template.texts])
  have hpath := h.template d.template.testImport (by simp [Template.texts])
  have hinside : Inline (" " ++ d.template.testSymbol ++ " ") :=
    (Inline.append (by decide) hsymbol).append (by decide)
  have himport : Statement "import " := Inline.statement (by decide) (by decide)
  have hfrom : Fragment " from \"" := Inline.fragment (by decide)
  have hend : Fragment "\";" := Inline.fragment (by decide)
  have hline := (((himport.append hinside.fragment.braced).append hfrom).append
    hpath.fragment).append hend
  -- the braces of the import are those of an enclosed text
  have htext : Solidity.importLine d.template.testSymbol d.template.testImport =
      "import " ++ ("\x7b" ++ (" " ++ d.template.testSymbol ++ " ") ++ "\x7d") ++ " from \"" ++
        d.template.testImport ++ "\";" := by
    refine String.toList_injective ?_
    simp [Solidity.importLine]
  rw [htext]
  exact .top hline

theorem isLaidOut_setUp (n : Nat) : IsLaidOut n (d.setUp (level n)) := by
  have hname := h.template d.template.setUpName (by simp [Template.texts])
  have hclose : Fragment ");" := Inline.fragment (by decide)
  refine .enclosed (statement_head (by decide) (by decide) hname (by decide)) (.inl rfl) ?_
  intro line hline
  obtain ⟨⟨reference, amount⟩, hp, rfl⟩ := List.mem_map.mp hline
  obtain ⟨hreference, hamount⟩ := h.deals _ hp
  have hdeal : Statement ("vm.deal(" ++ reference ++ ", ") :=
    statement_head (by decide) (by decide) hreference (by decide)
  exact .line ((hdeal.append hamount.fragment).append hclose)

theorem isLaidOut_exploit (n : Nat) : IsLaidOut n (d.exploit (level n)) := by
  have hname := h.template d.template.exploitName (by simp [Template.texts])
  refine .enclosed (statement_head (by decide) (by decide) hname (by decide)) (.inr rfl) ?_
  intro text htext
  obtain ⟨g, hg, rfl⟩ := List.mem_map.mp htext
  exact h.groups g hg (n + 1)

/-- **The contract is laid out**, with the sections that it has. -/
theorem isLaidOut_body (n : Nat) : IsLaidOut n (d.body (level n)) := by
  have hname := h.template d.template.contractName (by simp [Template.texts])
  refine .enclosed (statement_head (by decide) (by decide) hname (by decide)) (.inr rfl) ?_
  intro piece hpiece
  rw [List.mem_append, List.mem_append] at hpiece
  -- without a contract or without an account there is no piece for them
  rcases hpiece with (hcontracts | haccounts) | hfunctions
  · refine IsLaidOut.grouped ?_ _ hcontracts
    intro line hline
    obtain ⟨c, hc, rfl⟩ := List.mem_map.mp hline
    obtain ⟨hinterface, hname, haddress⟩ := h.contracts c hc
    exact c.isLaidOut hinterface hname haddress (n + 1)
  · refine IsLaidOut.grouped ?_ _ haccounts
    intro line hline
    obtain ⟨b, hb, rfl⟩ := List.mem_map.mp hline
    obtain ⟨htype, hname, hvalue⟩ := h.accounts b hb
    exact .variableLine htype hname hvalue
  · rcases List.mem_pair.mp hfunctions with rfl | rfl
    · exact h.isLaidOut_setUp (n + 1)
    · exact h.isLaidOut_exploit (n + 1)

/-- **A document is laid out**, up to its last line break. -/
theorem isLaidOut_text : ∃ text, d.text {} = text ++ "\n" ∧ IsLaidOut 0 text := by
  refine ⟨_, rfl, .intercalate (.inr rfl) (by simp) ?_⟩
  intro piece hpiece
  rw [List.mem_append, List.mem_append] at hpiece
  rcases hpiece with (hhead | hinterface) | hbody
  · rcases List.mem_pair.mp hhead with rfl | rfl
    · exact h.isLaidOut_header
    · exact h.isLaidOut_importLine
  · obtain ⟨e, he, rfl⟩ := List.mem_map.mp hinterface
    obtain ⟨hname, hsignatures⟩ := h.interfaces e he
    exact e.isLaidOut hname hsignatures 0
  · rw [List.mem_singleton.mp hbody]
    exact h.isLaidOut_body 0

end Plain

/-- A document ends with the closing brace of its contract and one line break. -/
theorem suffix_text (i : Indent) (d : Document) : ['\x7d', '\n'] <:+ (d.text i).toList := by
  have hbrace : ['\x7d'] <:+ (i.line "\x7d").toList := by
    rw [Indent.line, String.toList_append]
    exact List.suffix_append _ _
  have hbody : ['\x7d'] <:+ (d.body i).toList := hbrace.trans (suffix_intercalate _ _ _)
  obtain ⟨front, hfront⟩ := hbody.trans (suffix_intercalate Solidity.blankLine
    ([d.header, Solidity.importLine d.template.testSymbol d.template.testImport] ++
      d.interfaces.map (·.text i)) (d.body i))
  refine ⟨front, ?_⟩
  rw [text, String.toList_append, ← hfront, List.append_assoc]
  rfl

end Document

/-! ### The document of a sequence -/

section OfSequence

variable {template : Template} {funding : Funding} {steps : List Step}

theorem texts_of_textsOf (htexts : ∀ t ∈ textsOf template funding steps, Inline t) :
    (∀ t ∈ template.texts, Inline t) ∧ (∀ t ∈ funding.amount, Inline t) ∧
      ∀ step ∈ steps, ∀ t ∈ step.texts, Inline t := by
  refine ⟨fun t ht => htexts t ?_, fun t ht => htexts t ?_, fun step hstep t ht => htexts t ?_⟩
  · simp [textsOf, ht]
  · simp [textsOf, Option.mem_toList.mpr ht]
  · rw [textsOf, List.mem_append, List.mem_flatMap]
    exact .inr ⟨step, hstep, ht⟩

/-- The amount that accounts are funded with. -/
theorem inline_resolve (htexts : ∀ t ∈ textsOf template funding steps, Inline t) :
    ∀ t ∈ funding.resolve template.usualFunds, Inline t := by
  obtain ⟨htemplate, hamount, -⟩ := texts_of_textsOf htexts
  intro t ht
  unfold Funding.resolve at ht
  split at ht
  · exact hamount t ht
  · split at ht
    · obtain rfl := Option.some.inj ht
      exact htemplate _ (by simp [Template.texts])
    · cases ht

/-- A listed address is one that a step calls, or that calls. -/
theorem inline_addresses (htexts : ∀ step ∈ steps, ∀ t ∈ step.texts, Inline t) :
    (∀ a ∈ targets steps, Inline a) ∧ ∀ a ∈ callers steps, Inline a := by
  constructor
  · intro a ha
    rw [targets, List.mem_eraseDups] at ha
    obtain ⟨step, hstep, rfl⟩ := List.mem_map.mp ha
    exact htexts step hstep _ (by simp [Step.texts])
  · intro a ha
    rw [callers, List.mem_eraseDups, List.mem_filter] at ha
    obtain ⟨step, hstep, rfl⟩ := List.mem_map.mp ha.1
    exact htexts step hstep _ (by simp [Step.texts])

/-- The signatures of a sequence that has a test can stand on lines. -/
theorem statement_signature {scope left : Scope} {cs : List CallStatement}
    (hcalls : Calls (AddressBook.ofSteps steps) scope steps cs left)
    (htexts : ∀ step ∈ steps, ∀ t ∈ step.texts, Inline t)
    (hstarts : ∀ step ∈ steps, ∀ c ∈ step.call.signature.toList.head?, Text.isBlank c = false)
    {step : Step} (hstep : step ∈ steps) :
    Statement step.call.signature := by
  have hinline := htexts step hstep step.call.signature (by simp [Step.texts])
  obtain ⟨k, hk⟩ := List.mem_iff_getElem?.mp hstep
  obtain ⟨-, -, signature, -, hparse, -⟩ := hcalls.settled_at hk
  refine hinline.statement ?_
  -- a signature that was read has a first character, which is no brace
  cases hcs : step.call.signature.toList with
  | nil => exact absurd (String.toList_eq_nil_iff.mp hcs) (Signature.ne_empty_of_parse hparse)
  | cons c cs =>
    have hblank := hstarts step hstep c (by simp [hcs])
    have hbrace : c ≠ '\x7d' := by
      rintro rfl
      exact hinline.2.2 (by simp [hcs])
    simp [Text.startsLine, hblank, hbrace]

/-- Before the first call only generated names are declared. -/
theorem inline_names_readyScope (steps : List Step) :
    ∀ name ∈ (readyScope steps {}).names, Inline name := by
  intro name hname
  rcases mem_names_readyScope.mp hname with hnone | hgenerated
  · simp [Scope.names] at hnone
  · rcases List.mem_append.mp hgenerated with hcontract | haccount
    · obtain ⟨n, -, rfl⟩ := List.mem_map.mp hcontract
      exact Inline.contractName n
    · obtain ⟨n, -, rfl⟩ := List.mem_map.mp haccount
      exact Inline.accountName n

theorem inline_dealsOf {scope : Scope} (hscope : ∀ n ∈ scope.names, Inline n)
    {accounts : List (String × Nat)} (haccounts : ∀ p ∈ accounts, Inline p.1)
    {funds : Option String} (hfunds : ∀ t ∈ funds, Inline t) :
    ∀ p ∈ TestContract.dealsOf scope accounts funds, Inline p.1 ∧ Inline p.2 := by
  intro p hp
  unfold TestContract.dealsOf at hp
  split at hp
  · rename_i amount hamount
    obtain ⟨account, haccount, rfl⟩ := List.mem_map.mp hp
    exact ⟨inline_reference hscope (haccounts account haccount),
      CallStatement.inline_filled hfunds amount hamount⟩
  · cases hp

/-- **The document of a sequence can be written.** -/
theorem plain_documentOf {left : Scope} {cs : List CallStatement} {groups : List CallGroup}
    (hcalls : Calls (AddressBook.ofSteps steps) (readyScope steps {}) steps cs left)
    (hgroups : ∀ i, cs.map (·.render i) = groups.map (·.text i))
    (htexts : ∀ t ∈ textsOf template funding steps, Inline t)
    (hstarts : ∀ step ∈ steps, ∀ c ∈ step.call.signature.toList.head?, Text.isBlank c = false) :
    (documentOf template funding steps groups).Plain := by
  obtain ⟨htemplate, -, hsteps⟩ := texts_of_textsOf htexts
  obtain ⟨htargets, hcallers⟩ := inline_addresses hsteps
  have hready := inline_names_readyScope steps
  refine ⟨htemplate, ?_, ?_, ?_, ?_, ?_⟩
  · intro e he
    obtain ⟨⟨address, n⟩, -, rfl⟩ := List.mem_map.mp he
    refine ⟨Inline.interfaceName n, ?_⟩
    intro s hs
    change s ∈ signaturesOn steps address at hs
    rw [signaturesOn, List.mem_eraseDups] at hs
    obtain ⟨step, hstep, rfl⟩ := List.mem_map.mp hs
    exact statement_signature hcalls hsteps hstarts (List.mem_filter.mp hstep).1
  · intro c hc
    obtain ⟨⟨address, n⟩, hp, rfl⟩ := List.mem_map.mp hc
    exact ⟨statement_interfaceName n, Inline.contractName n,
      htargets _ (List.fst_mem_of_mem_zipIdx hp)⟩
  · intro b hb
    obtain ⟨⟨address, n⟩, hp, rfl⟩ := List.mem_map.mp hb
    have htype : Statement "address" := Inline.statement (by decide) (by decide)
    exact ⟨htype, Inline.accountName n, hcallers _ (List.fst_mem_of_mem_zipIdx hp)⟩
  · exact inline_dealsOf hready (fun p hp => hcallers _ (List.fst_mem_of_mem_zipIdx hp))
      (inline_resolve htexts)
  · -- the groups have the texts of the statements, and these are laid out
    intro g hg n
    have hmem : g.text (level n) ∈ cs.map (·.render (level n)) := by
      rw [hgroups]
      exact List.mem_map.mpr ⟨g, hg, rfl⟩
    obtain ⟨c, hc, hrender⟩ := List.mem_map.mp hmem
    rw [← hrender]
    exact hcalls.isLaidOut (fun _ => id) hsteps hready n c hc

end OfSequence

/-! ### The text of a sequence -/

/-- **A test is balanced and indented.** If the texts of a sequence that has a test hold neither
braces nor line breaks, and no signature starts with a blank, then its test never closes a brace that
is not open, and closes all of them; it ends with a brace and one line break; and every line that is
not empty starts with four spaces for each brace that is open before it, for one brace less if the
line starts with a closing brace, and then with a character that is no blank. -/
theorem compile_indented {template : Template} {funding : Funding} {steps : List Step}
    {source : String} (h : (compile template funding steps {}).result = .ok source)
    (htexts : ∀ t ∈ textsOf template funding steps, Inline t)
    (hstarts : ∀ step ∈ steps, ∀ c ∈ step.call.signature.toList.head?, Text.isBlank c = false) :
    (∀ p, p <+: source.toList → 0 ≤ Text.openBraces p) ∧ Text.openBraces source.toList = 0 ∧
      ['\x7d', '\n'] <:+ source.toList ∧
      ∀ before line after, source.toList.splitOn '\n' = before ++ line :: after → line ≠ [] →
        Text.IsIndented (Text.openBraces (Text.unlines before)) line := by
  obtain ⟨cs, left, hcalls, -, rfl⟩ := exists_planned h
  obtain ⟨groups, -, hgroups, -⟩ := hcalls.exists_groups fun _ => id
  have hplain := plain_documentOf hcalls hgroups htexts hstarts
  have hends := Document.suffix_text {} (documentOf template funding steps groups)
  obtain ⟨text, htext, hlaid⟩ := hplain.isLaidOut_text
  rw [htext] at hends
  rw [render_planned template funding steps groups {} hgroups, htext]
  exact ⟨hlaid.balanced.nonneg, hlaid.balanced.total, hends, fun _ _ _ => hlaid.isIndented⟩

/-- Accounts, options of a call, values that are kept alone and with others, and an amount. -/
def optionsAndCaptures : List Step :=
  [{ call := ⟨"0xA", "0xF", "function f(uint256) external payable returns (uint256, address)",
      some "1 ether", some "90000"⟩,
     inputs := [.literal "7"], outputs := [" amount ", "owner"] },
   { call := ⟨"", "0xE", "g() external returns (bool)", none, none⟩, outputs := ["ok"] },
   { call := ⟨"0xB", "0xF", "function h(uint256) external", none, none⟩,
     inputs := [.captured "amount"] }]

theorem compile_indented_optionsAndCaptures :
    ∃ source, (compile {} { amount := some "1 ether" } optionsAndCaptures {}).result = .ok source ∧
      Text.openBraces source.toList = 0 ∧
      ['\x7d', '\n'] <:+ source.toList ∧
      ∀ before line after, source.toList.splitOn '\n' = before ++ line :: after → line ≠ [] →
        Text.IsIndented (Text.openBraces (Text.unlines before)) line := by
  obtain ⟨source, h⟩ := exists_ok_of_isOk
    (show (compile {} { amount := some "1 ether" } optionsAndCaptures {}).result.isOk = true by
      decide +kernel)
  have hstarts : ∀ step ∈ optionsAndCaptures, ∀ c ∈ step.call.signature.toList.head?,
      Text.isBlank c = false := by
    simp [optionsAndCaptures, Text.isBlank]
  obtain ⟨-, htotal, hends, hindented⟩ := compile_indented h (by decide +kernel) hstarts
  exact ⟨source, h, htotal, hends, hindented⟩

end ExploitReplay
