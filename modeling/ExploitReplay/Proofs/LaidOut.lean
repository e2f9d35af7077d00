import ExploitReplay.Proofs.Layout
import ExploitReplay.Proofs.Text.Braces

/-!
# Laid out texts

The lines and the blocks that a test is written with, as texts that are balanced and indented by four
spaces for each open brace. A statement is laid out on a line of its own; laid out pieces are laid
out one below the other, and one level further in between the braces of a block.

## Main definitions

* `Inline s`: a text without braces and line breaks
* `Fragment s`, `Statement s`: a text that can be written inside a line, and at its start
* `IsLaidOut d s`: a text of laid out lines, where `d` braces are open before it

## Main results

* `IsLaidOut.line`: a statement on a line of its own
* `IsLaidOut.intercalate`, `IsLaidOut.enclosed`: pieces with separators, and a block of pieces
-/

namespace ExploitReplay

open Text (IsInline IsFragment IsStatement LaidOut startsLine indentation unlines)

/-! ### Texts without braces and line breaks -/

/-- There are neither braces nor line breaks in the text. -/
def Inline (s : String) : Prop :=
  IsInline s.toList

instance : DecidablePred Inline := fun s =>
  inferInstanceAs (Decidable (IsInline s.toList))

namespace Inline

variable {s t : String}

theorem append (hs : Inline s) (ht : Inline t) : Inline (s ++ t) := by
  rw [Inline, String.toList_append]
  exact IsInline.append hs ht

theorem of_subset (ht : Inline t) (h : s.toList ⊆ t.toList) : Inline s :=
  IsInline.of_subset ht h

theorem intercalate {sep : String} (hsep : Inline sep) {items : List String}
    (h : ∀ s ∈ items, Inline s) : Inline (sep.intercalate items) := by
  induction items with
  | nil =>
    rw [String.intercalate_nil]
    decide
  | cons s items ih =>
    have hs := h s (by simp)
    have ih := ih fun t ht => h t (List.mem_cons_of_mem _ ht)
    cases items with
    | nil => simpa using hs
    | cons t items =>
      rw [String.intercalate_cons_cons]
      exact (hs.append hsep).append ih

/-- The decimal text of a number. -/
theorem number (n : Nat) : Inline (toString (n : Int)) := by
  have hdigits : ∀ c ∈ (toString (n : Int)).toList, c.isDigit = true := by
    have htext : (toString (n : Int)).toList = Nat.toDigits 10 n := by
      change (Nat.repr n).toList = _
      simp
    rw [htext]
    exact fun c hc => Nat.isDigit_of_mem_toDigits (by decide) (by decide) hc
  exact ⟨fun h => absurd (hdigits _ h) (by decide), fun h => absurd (hdigits _ h) (by decide),
    fun h => absurd (hdigits _ h) (by decide)⟩

theorem interfaceName (n : Nat) : Inline (Solidity.interfaceName n) :=
  append (by decide) (number n)

theorem contractName (n : Nat) : Inline (Solidity.contractName n) :=
  append (by decide) (number n)

theorem accountName (n : Nat) : Inline (Solidity.accountName n) :=
  append (by decide) (number n)

/-- Without the blanks at its two ends, a text has no more characters. -/
theorem trim (h : Inline s) : Inline (Text.trim s) := by
  refine h.of_subset ?_
  intro c hc
  simp only [Text.trim, Text.trimBlanks, String.toList_ofList, List.mem_reverse] at hc
  have hc := (List.dropWhile_sublist _).subset hc
  exact (List.dropWhile_sublist _).subset (List.mem_reverse.mp hc)

end Inline

/-- A text that can be written inside a line. -/
def Fragment (s : String) : Prop :=
  IsFragment s.toList

theorem Inline.fragment {s : String} (h : Inline s) : Fragment s :=
  IsInline.isFragment h

namespace Fragment

variable {s t : String}

theorem append (hs : Fragment s) (ht : Fragment t) : Fragment (s ++ t) := by
  rw [Fragment, String.toList_append]
  exact IsFragment.append hs ht

/-- A text between braces. -/
theorem braced (h : Fragment s) : Fragment ("\x7b" ++ s ++ "\x7d") := by
  rw [Fragment, String.toList_append, String.toList_append]
  exact IsFragment.enclose h

end Fragment

/-- A text that can stand on a line. -/
def Statement (s : String) : Prop :=
  IsStatement s.toList

theorem Inline.statement {s : String} (h : Inline s) (hstarts : startsLine s.toList = true) :
    Statement s where
  toIsFragment := h.fragment
  starts := hstarts

theorem Statement.append {s t : String} (hs : Statement s) (ht : Fragment t) :
    Statement (s ++ t) := by
  rw [Statement, String.toList_append]
  exact IsStatement.append hs ht

/-! ### Laid out texts -/

/-- The text is made of laid out lines, where `d` braces are open before it. -/
def IsLaidOut (d : Nat) (s : String) : Prop :=
  ∃ lines, s.toList ++ ['\n'] = unlines lines ∧ LaidOut d lines

/-- The indentation by four spaces for each of `d` levels. -/
def level (d : Nat) : Indent where
  depth := d

theorem toList_text_level (d : Nat) : (level d).text.toList = indentation d := by
  change (String.join (List.replicate d "    ")).toList = _
  rw [String.toList_join, indentation]
  induction d with
  | zero => rfl
  | succ d ih =>
    rw [List.replicate_succ, List.flatMap_cons, ih, Nat.mul_succ, Nat.add_comm,
      ← List.replicate_append_replicate]
    rfl

namespace IsLaidOut

variable {d : Nat} {s t : String}

/-- **A statement on a line of its own.** -/
theorem line (h : Statement s) : IsLaidOut d ((level d).line s) := by
  refine ⟨_, ?_, LaidOut.statement h⟩
  rw [Indent.line, String.toList_append, toList_text_level, Text.unlines_singleton]

/-- Outside all braces, a line is a statement. -/
theorem top (h : Statement s) : IsLaidOut 0 s := by
  have hline := line (d := 0) h
  have htext : (level 0).text = "" := rfl
  rwa [Indent.line, htext, String.empty_append] at hline

/-- Laid out texts stand below one another. -/
theorem below (hs : IsLaidOut d s) (ht : IsLaidOut d t) :
    IsLaidOut d (s ++ Solidity.lineBreak ++ t) := by
  obtain ⟨as, has, hlaid⟩ := hs
  obtain ⟨bs, hbs, hlaid'⟩ := ht
  refine ⟨as ++ bs, ?_, hlaid.append hlaid'⟩
  rw [Text.unlines_append, ← has, ← hbs, String.toList_append, String.toList_append,
    List.append_assoc]
  rfl

/-- Laid out texts stand below one another with an empty line between them. -/
theorem apart (hs : IsLaidOut d s) (ht : IsLaidOut d t) :
    IsLaidOut d (s ++ Solidity.blankLine ++ t) := by
  -- an empty line is laid out at every depth, as it has nothing to indent
  have hempty : IsLaidOut d "" := ⟨[[]], rfl, .empty⟩
  have hbreaks : Solidity.blankLine = Solidity.lineBreak ++ "" ++ Solidity.lineBreak := by
    decide +kernel
  rw [hbreaks, ← String.append_assoc, ← String.append_assoc]
  exact (hs.below hempty).below ht

end IsLaidOut

/-- What stands between the pieces of a text: a line break, or an empty line as well. -/
def Separates (sep : String) : Prop :=
  sep = Solidity.lineBreak ∨ sep = Solidity.blankLine

/-- **Pieces that are laid out** are laid out with separators between them. -/
theorem IsLaidOut.intercalate {d : Nat} {sep : String} (hsep : Separates sep) {pieces : List String}
    (hne : pieces ≠ []) (h : ∀ p ∈ pieces, IsLaidOut d p) : IsLaidOut d (sep.intercalate pieces) := by
  induction pieces with
  | nil => exact absurd rfl hne
  | cons p pieces ih =>
    have hp := h p (by simp)
    cases pieces with
    | nil => simpa using hp
    | cons q pieces =>
      have hrest := ih (by simp) fun r hr => h r (List.mem_cons_of_mem _ hr)
      rw [String.intercalate_cons_cons]
      rcases hsep with rfl | rfl
      · exact hp.below hrest
      · exact hp.apart hrest

/-- A text ends with its last piece. -/
theorem suffix_intercalate (sep : String) (pieces : List String) (p : String) :
    p.toList <:+ (sep.intercalate (pieces ++ [p])).toList := by
  induction pieces with
  | nil => simp
  | cons q pieces ih =>
    obtain ⟨r, rs, hcons⟩ := List.exists_cons_of_ne_nil (show pieces ++ [p] ≠ [] by simp)
    rw [List.cons_append, hcons, String.intercalate_cons_cons, ← hcons, String.toList_append]
    exact ih.trans (List.suffix_append _ _)

/-- The group of laid out lines is laid out. -/
theorem IsLaidOut.grouped {d : Nat} {lines : List String} (h : ∀ s ∈ lines, IsLaidOut d s) :
    ∀ s ∈ Solidity.grouped lines, IsLaidOut d s := by
  intro s hs
  unfold Solidity.grouped at hs
  split at hs
  · cases hs
  · rename_i hne
    rw [List.mem_singleton.mp hs]
    exact .intercalate (.inl rfl) hne h

/-- **A block** of pieces that are laid out one level further in. -/
theorem IsLaidOut.enclosed {d : Nat} {head sep : String} (hhead : Statement head)
    (hsep : Separates sep) {pieces : List String} (h : ∀ p ∈ pieces, IsLaidOut (d + 1) p) :
    IsLaidOut d (Solidity.enclosed (level d) head sep pieces) := by
  have hopen : ((level d).line (head ++ " \x7b")).toList =
      indentation d ++ (head.toList ++ [' ', '\x7b']) := by
    rw [Indent.line, String.toList_append, String.toList_append, toList_text_level]
    rfl
  have hclose : ((level d).line "\x7d").toList = indentation d ++ ['\x7d'] := by
    rw [Indent.line, String.toList_append, toList_text_level]
    rfl
  have hbreak : Solidity.lineBreak.toList = ['\n'] := rfl
  -- without a piece, the closing brace stands right below the head
  by_cases hpieces : pieces = []
  · refine ⟨_, ?_, LaidOut.block hhead .nil⟩
    rw [Text.unlines_append, Text.unlines_append, Text.unlines_singleton, Text.unlines_singleton]
    simp [Solidity.enclosed, hpieces, hopen, hclose, hbreak, Text.unlines]
  · obtain ⟨lines, hlines, hlaid⟩ := IsLaidOut.intercalate hsep hpieces h
    refine ⟨_, ?_, LaidOut.block hhead hlaid⟩
    rw [Text.unlines_append, Text.unlines_append, Text.unlines_singleton, Text.unlines_singleton,
      ← hlines]
    simp [Solidity.enclosed, hpieces, hopen, hclose, hbreak, String.toList_intercalate]

/-! ### What is laid out -/

namespace IsLaidOut

variable {s : String}

theorem balanced {d : Nat} (h : IsLaidOut d s) : Text.Balanced (s ++ "\n").toList := by
  obtain ⟨lines, hs, hlaid⟩ := h
  rw [String.toList_append]
  change Text.Balanced (s.toList ++ ['\n'])
  rw [hs]
  exact hlaid.balanced

/-- **The lines of a laid out text are indented** for the braces that are open before them. -/
theorem isIndented (h : IsLaidOut 0 s) {before after : List (List Char)} {line : List Char}
    (hlines : (s ++ "\n").toList.splitOn '\n' = before ++ line :: after) (hline : line ≠ []) :
    Text.IsIndented (Text.openBraces (unlines before)) line := by
  obtain ⟨lines, hs, hlaid⟩ := h
  rw [String.toList_append] at hlines
  change (s.toList ++ ['\n']).splitOn '\n' = _ at hlines
  rw [hs, Text.splitOn_unlines hlaid.noBreak] at hlines
  -- the line is not the empty one behind the last line break
  rcases List.eq_nil_or_concat after with rfl | ⟨after, last, rfl⟩
  · obtain ⟨-, hlast⟩ := List.append_inj' hlines rfl
    exact absurd (List.singleton_inj.mp hlast).symm hline
  · rw [List.concat_eq_append, ← List.cons_append, ← List.append_assoc] at hlines
    obtain ⟨rfl, -⟩ := List.append_inj' hlines rfl
    have hindented := hlaid.isIndented hline
    rwa [Text.openBraces_unlines, ← Int.zero_add (Text.openBraces before.flatten)]

end IsLaidOut

end ExploitReplay
