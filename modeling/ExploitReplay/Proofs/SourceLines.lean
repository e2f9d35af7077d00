import ExploitReplay.Proofs.Document

/-!
# The lines of a test

The text of a document is a list of lines, each of one kind: what a line says and which variable it
declares depend on its kind only. A variable is declared on a line of its own, or by the call whose
value it keeps; no other line declares anything.

## Main definitions

* `SourceLine`: a line of a test
* `SourceLine.declared? l`: the variable that a line declares, with its type
* `SourceLine.unlines ls`: lines below one another
* `Document.lines i d`: the lines of a document
* `Document.declarations i d`: the variables that they declare

## Main results

* `Document.text_eq_unlines`: the text of a document is that of its lines
* `Document.declarations_eq`: its variables are those of the contracts, the accounts and the groups
-/

namespace ExploitReplay

/-- A line of a test. -/
inductive SourceLine where
  | empty
  | license (id : String)
  | pragma (version : String)
  | importing (symbol path : String)
  | opening (i : Indent) (head : String)
  | closing (i : Indent)
  | signature (i : Indent) (text : String)
  | contract (i : Indent) (d : ContractDecl)
  | declaration (i : Indent) (b : Binding)
  | deal (i : Indent) (reference amount : String)
  | prank (i : Indent) (reference : String)
  | call (i : Indent) (g : CallGroup)
deriving DecidableEq, Repr

/-- The variable that is declared by the call that is assigned to it. -/
def Assignment.declared? : Assignment → Option (String × String)
  | .declared b => some (b.type, b.name)
  | _ => none

namespace SourceLine

/-- What a line says. -/
def text : SourceLine → String
  | .empty => ""
  | .license id => Solidity.licenseLine id
  | .pragma version => Solidity.pragmaLine version
  | .importing symbol path => Solidity.importLine symbol path
  | .opening i head => i.line (head ++ " \x7b")
  | .closing i => i.line "\x7d"
  | .signature i text => i.line (text ++ ";")
  | .contract i d => d.text i
  | .declaration i b => Solidity.variableLine i b
  | .deal i reference amount => Solidity.dealLine i reference amount
  | .prank i reference => Solidity.prankLine i reference
  | .call i g => i.line g.callText

/-- The variable that a line declares, with its type. -/
def declared? : SourceLine → Option (String × String)
  | .contract _ d => some (d.interface, d.name)
  | .declaration _ b => some (b.type, b.name)
  | .call _ g => g.assignment.declared?
  | _ => none

/-- Lines below one another. -/
def unlines (ls : List SourceLine) : String :=
  Solidity.lineBreak.intercalate (ls.map text)

/-- Pieces with an empty line between neighbours. -/
def apart (pieces : List (List SourceLine)) : List SourceLine :=
  [SourceLine.empty].intercalate pieces

/-- The lines between a head and the closing brace. -/
def block (i : Indent) (head : String) (inner : List SourceLine) : List SourceLine :=
  .opening i head :: (inner ++ [.closing i])

/-- A piece of lines, and no piece if there is none. -/
def piece (ls : List SourceLine) : List (List SourceLine) :=
  if ls = [] then [] else [ls]

/-! ### Their texts -/

theorem unlines_append {as bs : List SourceLine} (has : as ≠ []) (hbs : bs ≠ []) :
    unlines (as ++ bs) = unlines as ++ Solidity.lineBreak ++ unlines bs := by
  rw [unlines, List.map_append]
  exact String.intercalate_append_of_ne_nil (by simpa using has) (by simpa using hbs)

/-- Pieces that are not empty are separated by empty lines. -/
theorem unlines_apart {pieces : List (List SourceLine)} (h : ∀ p ∈ pieces, p ≠ []) :
    unlines (apart pieces) = Solidity.blankLine.intercalate (pieces.map unlines) := by
  induction pieces with
  | nil => rfl
  | cons p pieces ih =>
    have ih := ih fun q hq => h q (List.mem_cons_of_mem _ hq)
    cases pieces with
    | nil => simp [apart]
    | cons q pieces =>
      have hrest : apart (q :: pieces) ≠ [] := by
        have hq := h q (by simp)
        cases pieces <;> simp [apart, hq]
      have hbreaks : Solidity.lineBreak ++ unlines [.empty] ++ Solidity.lineBreak =
          Solidity.blankLine := by decide +kernel
      rw [apart, List.intercalate_cons_cons, ← apart, List.append_assoc,
        unlines_append (h p (by simp)) (by simp), unlines_append (by simp) hrest, ih]
      simp only [List.map_cons, String.intercalate_cons_cons, String.append_assoc, ← hbreaks]

/-- The lines of a block are those of its pieces. -/
theorem unlines_block (i : Indent) (head sep : String) {inner : List SourceLine}
    {pieces : List String} (hnone : inner = [] ↔ pieces = [])
    (h : unlines inner = sep.intercalate pieces) :
    unlines (block i head inner) = Solidity.enclosed i head sep pieces := by
  by_cases hinner : inner = []
  · rw [Solidity.enclosed, if_pos (hnone.mp hinner), hinner]
    rfl
  · have hhead : unlines [.opening i head] = i.line (head ++ " \x7b") := by simp [unlines, text]
    have hfoot : unlines [.closing i] = i.line "\x7d" := by simp [unlines, text]
    have hblock : block i head inner = [.opening i head] ++ (inner ++ [.closing i]) := rfl
    rw [Solidity.enclosed, if_neg (mt hnone.mpr hinner), hblock, unlines_append (by simp) (by simp),
      unlines_append hinner (by simp), h, hhead, hfoot]
    simp [String.append_assoc]

/-- A block of lines. -/
theorem unlines_block_lines (i : Indent) (head : String) (inner : List SourceLine) :
    unlines (block i head inner) =
      Solidity.enclosed i head Solidity.lineBreak (inner.map text) :=
  unlines_block i head _ List.map_eq_nil_iff.symm rfl

/-- A block of pieces. -/
theorem unlines_block_apart (i : Indent) (head : String) {pieces : List (List SourceLine)}
    (h : ∀ p ∈ pieces, p ≠ []) :
    unlines (block i head (apart pieces)) =
      Solidity.enclosed i head Solidity.blankLine (pieces.map unlines) := by
  refine unlines_block i head _ ?_ (unlines_apart h)
  cases pieces with
  | nil => simp [apart]
  | cons p pieces =>
    have hp := h p (by simp)
    cases pieces <;> simp [apart, hp]

theorem ne_nil_of_mem_piece {ls p : List SourceLine} (h : p ∈ piece ls) : p ≠ [] := by
  unfold piece at h
  split at h
  · cases h
  · rwa [List.mem_singleton.mp h]

theorem map_unlines_piece (ls : List SourceLine) :
    (piece ls).map unlines = Solidity.grouped (ls.map text) := by
  by_cases h : ls = [] <;> simp [piece, Solidity.grouped, unlines, h]

/-! ### Their variables -/

section Each

variable {α : Type} {f : α → SourceLine}

/-- Lines that declare a variable each. -/
theorem filterMap_declared?_of_some {v : α → String × String}
    (h : ∀ x, declared? (f x) = some (v x)) (xs : List α) :
    (xs.map f).filterMap declared? = xs.map v := by
  simp [List.filterMap_map, h]

/-- Lines that declare nothing. -/
theorem filterMap_declared?_of_none (h : ∀ x, declared? (f x) = none) (xs : List α) :
    (xs.map f).filterMap declared? = [] := by
  simp [List.filterMap_map, h]

end Each

/-- Empty lines declare nothing. -/
theorem filterMap_declared?_apart (pieces : List (List SourceLine)) :
    (apart pieces).filterMap declared? = pieces.flatMap (·.filterMap declared?) := by
  induction pieces with
  | nil => rfl
  | cons p pieces ih =>
    cases pieces with
    | nil => simp [apart]
    | cons q pieces =>
      rw [apart, List.intercalate_cons_cons, ← apart, List.filterMap_append, List.filterMap_append,
        ih]
      simp [declared?]

/-- The lines around a block declare nothing. -/
theorem filterMap_declared?_block (i : Indent) (head : String) (inner : List SourceLine) :
    (block i head inner).filterMap declared? = inner.filterMap declared? := by
  rw [block, List.filterMap_cons_none rfl, List.filterMap_append]
  exact List.append_nil _

theorem flatMap_piece (ls : List SourceLine) :
    (piece ls).flatMap (·.filterMap declared?) = ls.filterMap declared? := by
  by_cases h : ls = [] <;> simp [piece, h]

end SourceLine

open SourceLine (unlines apart block piece declared?)

/-! ### The lines of a document -/

/-- The lines of an interface. -/
def InterfaceDecl.sourceLines (i : Indent) (e : InterfaceDecl) : List SourceLine :=
  block i ("interface " ++ e.name) (e.signatures.map (.signature i.deeper))

/-- The lines of a group. -/
def CallGroup.sourceLines (i : Indent) (g : CallGroup) : List SourceLine :=
  g.declared.map (.declaration i) ++ g.prank.toList.map (.prank i) ++ [.call i g]

/-- The variables that a group declares. -/
def CallGroup.declarations (g : CallGroup) : List (String × String) :=
  g.declared.map (fun b => (b.type, b.name)) ++ g.assignment.declared?.toList

namespace Document

/-- The lines of the function that funds the accounts. -/
def setUpLines (i : Indent) (d : Document) : List SourceLine :=
  block i ("function " ++ d.template.setUpName ++ "() public")
    (d.deals.map fun (reference, amount) => .deal i.deeper reference amount)

/-- The lines of the function that makes the calls. -/
def exploitLines (i : Indent) (d : Document) : List SourceLine :=
  block i ("function " ++ d.template.exploitName ++ "() public")
    (apart (d.groups.map (·.sourceLines i.deeper)))

/-- The lines of the contract. -/
def bodyLines (i : Indent) (d : Document) : List SourceLine :=
  block i ("contract " ++ d.template.contractName ++ " is Test")
    (apart (piece (d.contracts.map (.contract i.deeper)) ++
      piece (d.accounts.map (.declaration i.deeper)) ++
      [d.setUpLines i.deeper, d.exploitLines i.deeper]))

/-- The lines of a document. -/
def lines (i : Indent) (d : Document) : List SourceLine :=
  apart ([[.license d.template.license, .pragma d.template.solidityVersion],
      [.importing d.template.testSymbol d.template.testImport]] ++
    d.interfaces.map (·.sourceLines i) ++ [d.bodyLines i])

/-- The variables that the lines of a document declare, with their types. -/
def declarations (i : Indent) (d : Document) : List (String × String) :=
  (d.lines i).filterMap declared?

end Document

/-! ### The text of a document -/

theorem InterfaceDecl.unlines_sourceLines (i : Indent) (e : InterfaceDecl) :
    unlines (e.sourceLines i) = e.text i := by
  rw [sourceLines, SourceLine.unlines_block_lines, List.map_map]
  rfl

theorem CallGroup.map_text_sourceLines (i : Indent) (g : CallGroup) :
    (g.sourceLines i).map SourceLine.text = g.lines i := by
  rw [sourceLines, List.map_append, List.map_append, List.map_map, List.map_map]
  rfl

theorem CallGroup.unlines_sourceLines (i : Indent) (g : CallGroup) :
    unlines (g.sourceLines i) = g.text i := by
  rw [unlines, map_text_sourceLines, text]

namespace Document

variable (i : Indent) (d : Document)

theorem unlines_setUpLines : unlines (d.setUpLines i) = d.setUp i := by
  rw [setUpLines, SourceLine.unlines_block_lines, List.map_map]
  rfl

theorem unlines_exploitLines : unlines (d.exploitLines i) = d.exploit i := by
  have hgroups : ∀ p ∈ d.groups.map (·.sourceLines i.deeper), p ≠ [] :=
    List.forall_mem_map.mpr fun g _ => by simp [CallGroup.sourceLines]
  rw [exploitLines, SourceLine.unlines_block_apart _ _ hgroups, List.map_map, exploit]
  exact congrArg _ (List.map_congr_left fun g _ => g.unlines_sourceLines i.deeper)

theorem unlines_bodyLines : unlines (d.bodyLines i) = d.body i := by
  have hpieces : ∀ p ∈ piece (d.contracts.map (.contract i.deeper)) ++
      piece (d.accounts.map (.declaration i.deeper)) ++
      [d.setUpLines i.deeper, d.exploitLines i.deeper], p ≠ [] := by
    intro p hp
    rw [List.mem_append, List.mem_append] at hp
    rcases hp with (hp | hp) | hp
    · exact SourceLine.ne_nil_of_mem_piece hp
    · exact SourceLine.ne_nil_of_mem_piece hp
    · rcases List.mem_pair.mp hp with rfl | rfl <;> exact List.cons_ne_nil _ _
  rw [bodyLines, SourceLine.unlines_block_apart _ _ hpieces, List.map_append, List.map_append,
    SourceLine.map_unlines_piece, SourceLine.map_unlines_piece, List.map_map, List.map_map,
    List.map_cons, List.map_singleton, unlines_setUpLines, unlines_exploitLines]
  rfl

/-- **The text of a document is that of its lines.** -/
theorem text_eq_unlines : d.text i = unlines (d.lines i) ++ "\n" := by
  have hpieces : ∀ p ∈ [[SourceLine.license d.template.license,
        SourceLine.pragma d.template.solidityVersion],
        [.importing d.template.testSymbol d.template.testImport]] ++
      d.interfaces.map (·.sourceLines i) ++ [d.bodyLines i], p ≠ [] := by
    intro p hp
    rw [List.mem_append, List.mem_append] at hp
    rcases hp with (hp | hp) | hp
    · rcases List.mem_pair.mp hp with rfl | rfl <;> exact List.cons_ne_nil _ _
    · obtain ⟨e, -, rfl⟩ := List.mem_map.mp hp
      exact List.cons_ne_nil _ _
    · rw [List.mem_singleton.mp hp]
      exact List.cons_ne_nil _ _
  have himport : unlines [.importing d.template.testSymbol d.template.testImport] =
      Solidity.importLine d.template.testSymbol d.template.testImport := String.intercalate_singleton
  have hinterfaces : (d.interfaces.map (·.sourceLines i)).map unlines =
      d.interfaces.map (·.text i) := by
    rw [List.map_map]
    exact List.map_congr_left fun e _ => e.unlines_sourceLines i
  rw [lines, SourceLine.unlines_apart hpieces, List.map_append, List.map_append, hinterfaces,
    List.map_cons, List.map_singleton, List.map_singleton, himport, unlines_bodyLines]
  rfl

/-! ### The variables of a document -/

theorem filterMap_sourceLines_interface (e : InterfaceDecl) :
    (e.sourceLines i).filterMap declared? = [] := by
  rw [InterfaceDecl.sourceLines, SourceLine.filterMap_declared?_block,
    SourceLine.filterMap_declared?_of_none fun _ => rfl]

theorem filterMap_sourceLines_group (g : CallGroup) :
    (g.sourceLines i).filterMap declared? = g.declarations := by
  have hcall : [SourceLine.call i g].filterMap declared? = g.assignment.declared?.toList := by
    cases hassigned : g.assignment <;> simp [declared?, hassigned, Assignment.declared?]
  rw [CallGroup.sourceLines, List.filterMap_append, List.filterMap_append,
    SourceLine.filterMap_declared?_of_some (v := fun b => (b.type, b.name)) fun _ => rfl,
    SourceLine.filterMap_declared?_of_none fun _ => rfl, hcall, List.append_nil]
  rfl

theorem filterMap_setUpLines : (d.setUpLines i).filterMap declared? = [] := by
  rw [setUpLines, SourceLine.filterMap_declared?_block,
    SourceLine.filterMap_declared?_of_none fun _ => rfl]

theorem filterMap_exploitLines :
    (d.exploitLines i).filterMap declared? = d.groups.flatMap CallGroup.declarations := by
  rw [exploitLines, SourceLine.filterMap_declared?_block, SourceLine.filterMap_declared?_apart,
    List.flatMap_map]
  exact List.flatMap_congr fun g _ => filterMap_sourceLines_group _ g

theorem filterMap_bodyLines :
    (d.bodyLines i).filterMap declared? = d.contracts.map (fun c => (c.interface, c.name)) ++
      d.accounts.map (fun b => (b.type, b.name)) ++ d.groups.flatMap CallGroup.declarations := by
  rw [bodyLines, SourceLine.filterMap_declared?_block, SourceLine.filterMap_declared?_apart,
    List.flatMap_append, List.flatMap_append, SourceLine.flatMap_piece, SourceLine.flatMap_piece,
    SourceLine.filterMap_declared?_of_some (v := fun c => (c.interface, c.name)) fun _ => rfl,
    SourceLine.filterMap_declared?_of_some (v := fun b => (b.type, b.name)) fun _ => rfl]
  simp [filterMap_setUpLines, filterMap_exploitLines]

/-- **The variables of a document** are those of the contracts, the accounts and the groups. -/
theorem declarations_eq :
    d.declarations i = d.contracts.map (fun c => (c.interface, c.name)) ++
      d.accounts.map (fun b => (b.type, b.name)) ++ d.groups.flatMap CallGroup.declarations := by
  have hheads : (d.interfaces.map (·.sourceLines i)).flatMap (·.filterMap declared?) = [] := by
    rw [List.flatMap_map]
    exact List.flatMap_eq_nil_iff.mpr fun e _ => filterMap_sourceLines_interface i e
  rw [declarations, lines, SourceLine.filterMap_declared?_apart, List.flatMap_append,
    List.flatMap_append, hheads, List.flatMap_singleton, filterMap_bodyLines]
  rfl

end Document

end ExploitReplay
