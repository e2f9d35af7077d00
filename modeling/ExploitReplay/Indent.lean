/-!
# Indentation

The generated text is indented by its nesting depth.

## Main definitions

* `Indent`: the depth and the text of one level
* `Indent.text i`: what a line starts with
* `Indent.deeper i n`, `Indent.shallower i n`: a depth `n` levels away
-/

namespace ExploitReplay

/-- A nesting depth, with the text that stands for one level of it. -/
structure Indent where
  /-- The depth; it can be moved below zero, where lines start as at zero. -/
  depth : Int := 0
  /-- The text of one level. -/
  layer : String := "    "
deriving DecidableEq, Repr

namespace Indent

/-- An indentation to start from, which is never below zero. -/
def startingAt (depth : Int) (layer : String) : Indent :=
  ⟨max depth 0, layer⟩

/-- What a line starts with. -/
def text (i : Indent) : String :=
  String.join (List.replicate i.depth.toNat i.layer)

/-- The indentation `n` levels further in. -/
def deeper (i : Indent) (n : Int := 1) : Indent :=
  { i with depth := i.depth + n }

/-- The indentation `n` levels further out, and no further than zero. -/
def shallower (i : Indent) (n : Int := 1) : Indent :=
  { i with depth := max (i.depth - n) 0 }

/-- A line at this depth. -/
def line (i : Indent) (s : String) : String :=
  i.text ++ s

@[simp] theorem depth_deeper (i : Indent) (n : Int) : (i.deeper n).depth = i.depth + n := rfl

@[simp] theorem layer_deeper (i : Indent) (n : Int) : (i.deeper n).layer = i.layer := rfl

theorem depth_shallower_nonneg (i : Indent) (n : Int) : 0 ≤ (i.shallower n).depth := by
  simp only [shallower]
  omega

/-- Below zero, lines start as at zero. -/
theorem text_of_depth_nonpos {i : Indent} (h : i.depth ≤ 0) : i.text = "" := by
  simp [text, Int.toNat_of_nonpos h]

end Indent

end ExploitReplay
