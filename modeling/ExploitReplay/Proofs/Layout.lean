import ExploitReplay.Solidity.CallStatement

/-!
# Pieces that are not empty

The pieces of a test are joined with the empty ones left out. No piece that is written for a step, a
contract or an account is ever empty, so nothing is left out but the groups without a member.

## Main definitions

* `Solidity.grouped lines`: the group of some lines, and no piece if there is none
* `Solidity.enclosed i head sep pieces`: a head and pieces between braces

## Main results

* `joined_of_forall_ne`: pieces that are not empty are all written
* `block_joined`: a block of such pieces
* `functionBlock_joined`, `contractBlock_joined`: a function and a contract of such pieces
-/

namespace ExploitReplay

namespace Solidity

/-- **Pieces that are not empty are all written.** -/
theorem joined_of_forall_ne (sep : String) {items : List String} (h : ∀ s ∈ items, s ≠ "") :
    joined sep items = sep.intercalate items := by
  have hfilter : items.filter (· ≠ "") = items :=
    List.filter_eq_self.mpr fun s hs => by simpa using h s hs
  rw [joined, hfilter]

theorem intercalate_ne_empty (sep : String) {s : String} {items : List String} (h : s ≠ "") :
    sep.intercalate (s :: items) ≠ "" := by
  cases items with
  | nil => simpa using h
  | cons t ts => simp [h]

theorem append_ne_empty {s : String} (h : s ≠ "") (t : String) : s ++ t ≠ "" := by
  simp [h]

/-! ### Lines and blocks -/

theorem line_ne_empty (i : Indent) {s : String} (h : s ≠ "") : i.line s ≠ "" := by
  simp [Indent.line, h]

/-- The group of some lines, and no piece if there is none. -/
def grouped (lines : List String) : List String :=
  if lines = [] then [] else [lineBreak.intercalate lines]

theorem grouped_ne_empty {lines : List String} (h : ∀ s ∈ lines, s ≠ "") :
    ∀ s ∈ grouped lines, s ≠ "" := by
  cases lines with
  | nil => simp [grouped]
  | cons l ls =>
    intro s hs
    obtain rfl : s = lineBreak.intercalate (l :: ls) := by simpa [grouped] using hs
    exact intercalate_ne_empty _ (h l (by simp))

/-- A head and pieces between braces; without a piece there is nothing between the head and the
closing brace. -/
def enclosed (i : Indent) (head sep : String) (pieces : List String) : String :=
  lineBreak.intercalate
    ([i.line (head ++ " \x7b")] ++ (if pieces = [] then [] else [sep.intercalate pieces]) ++
      [i.line "\x7d"])

theorem enclosed_ne_empty (i : Indent) (head sep : String) (pieces : List String) :
    enclosed i head sep pieces ≠ "" :=
  intercalate_ne_empty _ (line_ne_empty i (by simp))

/-- **A block of pieces that are not empty** is its head, all the pieces, and the closing brace. -/
theorem block_joined (i : Indent) (head sep : String) {pieces : List String}
    (h : ∀ s ∈ pieces, s ≠ "") :
    block i head (joined sep pieces) = enclosed i head sep pieces := by
  have hhead : i.line (head ++ " \x7b") ≠ "" := line_ne_empty i (by simp)
  have hfoot : i.line "\x7d" ≠ "" := line_ne_empty i (by simp)
  cases pieces with
  | nil => simp [block, group, enclosed, joined, hhead, hfoot]
  | cons p ps =>
    have hbody : sep.intercalate (p :: ps) ≠ "" := intercalate_ne_empty sep (h p (by simp))
    rw [joined_of_forall_ne sep h, block, group, joined_of_forall_ne]
    · simp [enclosed]
    · simp [hhead, hfoot, hbody]

/-- A group without a line is left out, any other is written. -/
theorem filter_group_cons {lines : List String} (h : ∀ s ∈ lines, s ≠ "") (pieces : List String) :
    (group lines :: pieces).filter (· ≠ "") = (grouped lines ++ pieces).filter (· ≠ "") := by
  cases lines with
  | nil => simp [group, grouped]
  | cons l ls =>
    rw [group, joined_of_forall_ne _ h]
    simp [grouped]

theorem joined_group_group (sep : String) {lines lines' : List String} (h : ∀ s ∈ lines, s ≠ "")
    (h' : ∀ s ∈ lines', s ≠ "") (pieces : List String) :
    joined sep (group lines :: group lines' :: pieces) =
      joined sep (grouped lines ++ grouped lines' ++ pieces) := by
  rw [joined, filter_group_cons h, List.filter_append, filter_group_cons h', ← List.filter_append,
    ← List.append_assoc, ← joined]

/-! ### The lines of a test -/

theorem headLines_ne_empty (license version : String) :
    ∀ s ∈ [licenseLine license, pragmaLine version], s ≠ "" := by
  have hlicense : licenseLine license ≠ "" := append_ne_empty (by decide) license
  have hpragma : pragmaLine version ≠ "" :=
    append_ne_empty (append_ne_empty (by decide) version) ";"
  simp [hlicense, hpragma]

theorem importLine_ne_empty (symbol path : String) : importLine symbol path ≠ "" := by
  simp [importLine]

theorem variableLine_ne_empty (i : Indent) (b : Binding) : variableLine i b ≠ "" :=
  line_ne_empty i (by simp)

theorem prankLine_ne_empty (i : Indent) (reference : String) : prankLine i reference ≠ "" :=
  line_ne_empty i (by simp)

theorem dealLine_ne_empty (i : Indent) (reference amount : String) :
    dealLine i reference amount ≠ "" :=
  line_ne_empty i (by simp)

/-- The interface of a called contract, with a line for every signature. -/
theorem interfaceBlock_eq (i : Indent) (n : Int) (signatures : List String) :
    interfaceBlock i n signatures =
      enclosed i ("interface " ++ interfaceName n) lineBreak
        (signatures.map fun s => i.deeper.line (s ++ ";")) := by
  refine block_joined i _ lineBreak ?_
  simp only [List.mem_map, forall_exists_index, and_imp, forall_apply_eq_imp_iff₂]
  exact fun s _ => line_ne_empty _ (by simp)

/-- A function of a test, with all the pieces of its body. -/
theorem functionBlock_joined (i : Indent) (name sep : String) {pieces : List String}
    (h : ∀ s ∈ pieces, s ≠ "") :
    functionBlock i name usualModifiers (joined sep pieces) =
      enclosed i ("function " ++ name ++ "() public") sep pieces := by
  have hhead : "() " ++ " ".intercalate usualModifiers = "() public" := by decide +kernel
  rw [functionBlock, block_joined _ _ _ h, String.append_assoc, hhead]

/-- A test contract, with all the pieces of its body. -/
theorem contractBlock_joined (i : Indent) (name sep : String) {pieces : List String}
    (h : ∀ s ∈ pieces, s ≠ "") :
    contractBlock i name (some usualBase) (joined sep pieces) =
      enclosed i ("contract " ++ name ++ " is Test") sep pieces := by
  rw [contractBlock, block_joined _ _ _ h, if_neg (by decide +kernel), String.append_assoc]
  rfl

end Solidity

end ExploitReplay
