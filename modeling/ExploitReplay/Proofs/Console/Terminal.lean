import ExploitReplay.Console.Message
import Mathlib.Data.List.TakeWhile

/-!
# A terminal is a console

A literal text is one part of a message, whatever comes behind it. A tag behind it is found there: it
opens or closes, and nothing of it is shown. So a terminal does with the messages of a command what is
known of every console.

## Main results

* `Markup.piecesFrom_literal_tag`: the parts of a literal text with a tag behind it
* `Terminal.print_eq`: what is shown of a message that has a plain text of one line
* `Terminal.documented_console`: what is known of a console holds of a terminal
-/

namespace ExploitReplay

namespace Markup

variable {cs inside before after : List Char} {c : Char}

/-! ### Tags behind literal texts -/

theorem tag?_of_ne (h : c ≠ '[') (cs : List Char) : tag? (c :: cs) = none := by
  unfold tag?
  split
  · rename_i heq
    exact absurd (List.cons.inj heq).1 h
  · rfl

theorem tag?_bracket (h : startsTag c = false) (cs : List Char) :
    tag? ('[' :: c :: cs) = none := by
  simp [tag?, h]

/-- Nothing in a literal text starts a tag, whatever follows it. -/
theorem IsLiteral.of_cons (h : IsLiteral (c :: cs)) (rest : List Char) :
    c ≠ '\\' ∧ tag? (c :: (cs ++ rest)) = none ∧ IsLiteral cs := by
  cases h with
  | ordinary head tail =>
    have hc : c ≠ '\\' ∧ c ≠ '[' := by
      constructor
      · rintro rfl
        exact absurd head (by decide)
      · rintro rfl
        exact absurd head (by decide)
    exact ⟨hc.1, tag?_of_ne hc.2 _, tail⟩
  | bracket head tail => exact ⟨by decide, tag?_bracket head _, tail⟩
  | colon head tail => exact ⟨by decide, tag?_of_ne (by decide) _, tail⟩

/-- **A literal text is a beginning**, whatever follows it. -/
theorem piecesFrom_literal (h : IsLiteral cs) (before rest : List Char) :
    piecesFrom 0 before (cs ++ rest) = piecesFrom 0 (before ++ cs) rest := by
  induction cs generalizing before with
  | nil => simp
  | cons c cs ih =>
    obtain ⟨hslash, htag, htail⟩ := h.of_cons rest
    have hnone : ((c :: (cs ++ rest)).takeWhile (· == '\\')).length = 0 := by simp [hslash]
    rw [List.cons_append, piecesFrom, hnone, List.drop_zero, htag]
    dsimp only
    rw [ih htail, List.append_assoc]
    rfl

theorem piecesFrom_skip (skipped before rest : List Char) :
    piecesFrom skipped.length before (skipped ++ rest) = piecesFrom 0 before rest := by
  induction skipped with
  | nil => rfl
  | cons c cs ih => rw [List.cons_append, List.length_cons, piecesFrom, ih]

theorem tag?_append (hc : startsTag c = true) (h : ∀ d ∈ inside, d ≠ '[' ∧ d ≠ ']')
    (rest : List Char) : tag? ('[' :: c :: (inside ++ ']' :: rest)) = some (c :: inside) := by
  have hinside : (inside ++ ']' :: rest).takeWhile (fun d => d != '[' && d != ']') = inside := by
    rw [List.takeWhile_append_of_pos fun d hd => by simpa using h d hd]
    simp
  simp only [tag?, hinside]
  simp [hc]

/-- **The parts of a literal text with a tag behind it**: the text and the tag. -/
theorem piecesFrom_literal_tag (hcs : IsLiteral cs) (hc : startsTag c = true)
    (h : ∀ d ∈ inside, d ≠ '[' ∧ d ≠ ']') (rest : List Char) :
    piecesFrom 0 [] (cs ++ '[' :: c :: (inside ++ ']' :: rest)) =
      literals cs ++ .tag (c :: inside) :: piecesFrom 0 [] rest := by
  have hskip := piecesFrom_skip (c :: (inside ++ [']'])) [] rest
  rw [List.length_cons, List.length_append, List.length_singleton, List.cons_append,
    List.append_assoc, List.singleton_append] at hskip
  rw [piecesFrom_literal hcs, List.nil_append, piecesFrom]
  simp only [List.takeWhile_cons, show ('[' == '\\') = false from rfl, Bool.false_eq_true, if_false,
    List.length_nil, List.drop_zero, tag?_append hc h]
  rw [Nat.zero_add, List.length_cons, hskip]
  simp [tagPieces, literals]

/-! ### The names of tags -/

/-- A small letter has no meaning of its own in a tag. -/
theorem isLower_cases (h : c.isLower = true) : startsTag c = true ∧
    (c ≠ '/' ∧ c ≠ '[' ∧ c ≠ ']' ∧ c ≠ '=') ∧ Text.isBlank c = false ∧ c.toLower = c := by
  obtain ⟨hlow, hhigh⟩ := Bool.and_eq_true_iff.mp h
  have hleast : 97 ≤ c.toNat := of_decide_eq_true hlow
  have hmost : c.toNat ≤ 122 := of_decide_eq_true hhigh
  obtain ⟨n, rfl⟩ : ∃ n : Fin 26, c = Char.ofNat (97 + n) := exists_eq_ofNat hleast (by omega)
  clear h hlow hhigh hleast hmost
  revert n
  decide

namespace IsTagName

variable {name : String}

/-- A name can start a tag, and nothing in it ends one. -/
theorem exists_cons (h : IsTagName name) : ∃ c cs, name.toList = c :: cs ∧
    startsTag c = true ∧ c ≠ '/' ∧ ∀ d ∈ c :: cs, d ≠ '[' ∧ d ≠ ']' := by
  have hmem : ∀ c ∈ name.toList, startsTag c = true ∧ c ≠ '/' ∧ c ≠ '[' ∧ c ≠ ']' := by
    intro c hc
    obtain ⟨hstart, ⟨hslash, hopen, hclose, -⟩, -⟩ := isLower_cases (h.2 c hc)
    exact ⟨hstart, hslash, hopen, hclose⟩
  obtain ⟨c, cs, hname⟩ := List.exists_cons_of_ne_nil
    (show name.toList ≠ [] from fun hnil => h.1 (String.toList_eq_nil_iff.mp hnil))
  rw [hname] at hmem
  have hfirst := hmem c List.mem_cons_self
  exact ⟨c, cs, hname, hfirst.1, hfirst.2.1, fun d hd => (hmem d hd).2.2⟩

/-- The name of a tag is what is written in it. -/
theorem tagName_eq (h : IsTagName name) : tagName name.toList = name.toList := by
  have hblank : ∀ cs : List Char, (∀ c ∈ cs, Text.isBlank c = false) →
      cs.dropWhile Text.isBlank = cs := by
    intro cs hcs
    cases cs with
    | nil => rfl
    | cons c cs => simp [hcs c (by simp)]
  have hletter : ∀ c ∈ name.toList, c ≠ '=' ∧ Text.isBlank c = false ∧ c.toLower = c := by
    intro c hc
    obtain ⟨-, ⟨-, -, -, heq⟩, hboth⟩ := isLower_cases (h.2 c hc)
    exact ⟨heq, hboth⟩
  have hbefore : Text.before '=' name.toList = name.toList := by
    rw [Text.before, List.takeWhile_eq_self_iff]
    intro c hc
    simpa using (hletter c hc).1
  have hfront := hblank name.toList fun c hc => (hletter c hc).2.1
  have hback := hblank name.toList.reverse fun c hc => (hletter c (by simpa using hc)).2.1
  rw [tagName, hbefore, Text.trimBlanks, hfront, hback, List.reverse_reverse]
  exact (List.map_congr_left fun c hc => (hletter c hc).2.2).trans (List.map_id _)

end IsTagName

theorem isTagName_colour (colour : Colour) : IsTagName colour.tag := by
  cases colour with
  | red => decide
  | green => decide
  | yellow => decide

/-! ### The plain text of a message -/

variable {picture? : List Char → Option (List Char)} {opened : List (List Char)} {ps : List Piece}

/-- A tag with a name opens. -/
theorem followTag_name {name : String} (h : IsTagName name) (opened : List (List Char)) :
    followTag opened name.toList = .ok (name.toList :: opened) := by
  have hname := h.tagName_eq
  obtain ⟨c, cs, hcons, -, hslash, -⟩ := h.exists_cons
  rw [hcons] at hname ⊢
  unfold followTag
  split
  · rename_i heq
    exact absurd (List.cons.inj heq).1 hslash
  · rw [hname]

/-- A tag with a slash in front of a name closes the last one of that name. -/
theorem followTag_slash {name : String} (h : IsTagName name) (opened : List (List Char)) :
    followTag opened ('/' :: name.toList) =
      if opened.contains name.toList then .ok (opened.erase name.toList)
      else .error (unmatched ('/' :: name.toList)) := by
  obtain ⟨c, cs, hcons, -⟩ := h.exists_cons
  have hne : name.toList ≠ [] := by simp [hcons]
  simp only [followTag, h.tagName_eq, if_neg hne]

theorem renderPieces_tag (inside : List Char) :
    renderPieces picture? opened (.tag inside :: ps) =
      (followTag opened inside).bind fun opened => renderPieces picture? opened ps := rfl

/-- Literal words are drawn as they are, and lose no backslash. -/
theorem draw_unescape_literal (picture? : List Char → Option (List Char)) (h : IsLiteral cs) :
    draw picture? (unescape cs) = cs := by
  have hslash : unescape cs = cs := by
    clear picture?
    induction cs with
    | nil => rfl
    | cons c cs ih =>
      obtain ⟨hc, -, htail⟩ := h.of_cons []
      rw [unescape, ih htail]
      intro rest heq
      exact absurd heq hc
  rw [hslash]
  clear hslash
  have hstep : ∀ {c : Char} {cs : List Char}, pictureName? (c :: cs) = none →
      draw picture? (c :: cs) = c :: draw picture? cs := by
    intro c cs hname
    simp [draw, drawFrom, hname]
  induction h with
  | nil => rfl
  | @ordinary c cs head _ ih =>
    have hname : pictureName? (c :: cs) = none := by
      unfold pictureName?
      split
      · rename_i heq
        obtain rfl := (List.cons.inj heq).1
        exact absurd head (by decide)
      · rfl
    rw [hstep hname, ih]
  | bracket _ _ ih => rw [hstep (by simp [pictureName?]), ih]
  | @colon c cs head _ ih =>
    -- a blank ends the word behind the colon
    have hc : c ≠ ':' := by
      rintro rfl
      exact absurd head (by decide)
    rw [hstep (by simp [pictureName?, head, hc]), ih]

/-- Literal words are shown as they are, in front of the rest. -/
theorem renderPieces_literals (h : IsLiteral cs) :
    renderPieces picture? opened (literals cs ++ ps) =
      (renderPieces picture? opened ps).map (cs ++ ·) := by
  unfold literals
  split
  · subst_vars
    cases hrest : renderPieces picture? opened ps <;> simp [hrest, Except.map]
  · rw [List.singleton_append, renderPieces, draw_unescape_literal picture? h]

end Markup

/-! ### Messages in a colour -/

namespace Markup

variable {picture? : List Char → Option (List Char)} {before name after text : String}

/-- The parts of a literal text with a named tag behind it. -/
theorem piecesFrom_literal_name {cs : List Char} (hcs : IsLiteral cs) (h : IsTagName name)
    (rest : List Char) : piecesFrom 0 [] (cs ++ '[' :: (name.toList ++ ']' :: rest)) =
      literals cs ++ .tag name.toList :: piecesFrom 0 [] rest := by
  obtain ⟨c, inside, hcons, hstart, -, hinside⟩ := h.exists_cons
  rw [hcons]
  exact piecesFrom_literal_tag hcs hstart
    (fun d hd => hinside d (List.mem_cons_of_mem _ hd)) rest

/-- The parts of a literal text with a closing tag behind it. -/
theorem piecesFrom_literal_slash {cs : List Char} (hcs : IsLiteral cs) (h : IsTagName name)
    (rest : List Char) : piecesFrom 0 [] (cs ++ '[' :: '/' :: (name.toList ++ ']' :: rest)) =
      literals cs ++ .tag ('/' :: name.toList) :: piecesFrom 0 [] rest := by
  obtain ⟨c, inside, hcons, -, -, hinside⟩ := h.exists_cons
  rw [← hcons] at hinside
  exact piecesFrom_literal_tag hcs (by decide) hinside rest

/-- A message in a colour is read from behind the tag of the colour. -/
theorem render_paint (colour : Colour) (text : String) :
    render picture? (colour.paint text).toList =
      renderPieces picture? [colour.tag.toList]
        (piecesFrom 0 [] (text.toList ++ '[' :: '/' :: (colour.tag.toList ++ [']']))) := by
  have hlist : (colour.paint text).toList = [] ++ '[' :: (colour.tag.toList ++ ']' ::
      (text.toList ++ '[' :: '/' :: (colour.tag.toList ++ [']']))) := by
    simp [Colour.paint]
  rw [render, pieces, hlist, piecesFrom_literal_name .nil (isTagName_colour colour)]
  simp [literals, renderPieces_tag, followTag_name (isTagName_colour colour), Except.bind]

/-- The end of a message in a colour is a literal text, if no other tag is open. -/
theorem renderPieces_end (colour : Colour) {cs : List Char} (h : IsLiteral cs)
    {opened : List (List Char)} (hopened : colour.tag.toList ∈ opened) :
    renderPieces picture? opened
      (piecesFrom 0 [] (cs ++ '[' :: '/' :: (colour.tag.toList ++ [']']))) = .ok cs := by
  rw [piecesFrom_literal_slash h (isTagName_colour colour), renderPieces_literals h,
    renderPieces_tag, followTag_slash (isTagName_colour colour), if_pos (by simpa using hopened)]
  simp [piecesFrom, literals, renderPieces, Except.bind, Except.map]

/-- **The plain text of a literal text in a colour** is the text. -/
theorem render_paint_literal (colour : Colour) (h : IsLiteral text.toList) :
    render picture? (colour.paint text).toList = .ok text.toList := by
  rw [render_paint, renderPieces_end colour h (List.mem_singleton.mpr rfl)]

/-- **A tag that opens is left out.** -/
theorem render_paint_opening (colour : Colour) (hbefore : IsLiteral before.toList)
    (hname : IsTagName name) (hafter : IsLiteral after.toList) :
    render picture? (colour.paint (before ++ "[" ++ name ++ "]" ++ after)).toList =
      .ok (before ++ after).toList := by
  rw [render_paint]
  have hlist : (before ++ "[" ++ name ++ "]" ++ after).toList ++
      '[' :: '/' :: (colour.tag.toList ++ [']']) = before.toList ++ '[' :: (name.toList ++ ']' ::
        (after.toList ++ '[' :: '/' :: (colour.tag.toList ++ [']']))) := by
    simp
  rw [hlist, piecesFrom_literal_name hbefore hname, renderPieces_literals hbefore,
    renderPieces_tag, followTag_name hname]
  simp only [Except.bind]
  rw [renderPieces_end colour hafter (by simp)]
  simp [Except.map]

/-- **A tag that closes another one than the colour is a fault.** -/
theorem render_paint_closing (colour : Colour) (hbefore : IsLiteral before.toList)
    (hname : IsTagName name) (hne : name ≠ colour.tag) :
    render picture? (colour.paint (before ++ "[/" ++ name ++ "]" ++ after)).toList =
      .error (unmatched ('/' :: name.toList)) := by
  rw [render_paint]
  have hlist : (before ++ "[/" ++ name ++ "]" ++ after).toList ++
      '[' :: '/' :: (colour.tag.toList ++ [']']) = before.toList ++ '[' :: '/' ::
        (name.toList ++ ']' :: (after.toList ++ '[' :: '/' :: (colour.tag.toList ++ [']']))) := by
    simp
  have hother : [colour.tag.toList].contains name.toList = false := by
    simpa [String.toList_inj] using hne
  rw [hlist, piecesFrom_literal_slash hbefore hname, renderPieces_literals hbefore,
    renderPieces_tag, followTag_slash hname, hother]
  rfl

end Markup

namespace Terminal

open Markup (IsLiteral movesCursor)

variable {t : Terminal} {text : String} {markup : String}

/-- **What is shown of a message whose plain text is literal**: the lines of the text. -/
theorem print_eq (h : IsLiteral text.toList)
    (hplain : Markup.render t.picture? markup.toList = .ok text.toList) :
    t.console.print markup =
      .ok (String.ofList (['\n'].intercalate (t.lines text.toList)) ++ "\n") := by
  have hcontrol : text.toList.filter (fun c => !movesCursor c) = text.toList :=
    List.filter_eq_self.mpr fun c hc => by simp [(h.of_mem hc).2.2.2]
  have hline : '\n' ∉ text.toList := fun hc => (h.of_mem hc).2.2.1 rfl
  change t.message markup = _
  simp [message, plain, hplain, Except.map, hcontrol, List.splitOn_eq_singleton hline]

/-- A literal text that fits is one line. -/
theorem lines_eq_self (h : IsLiteral text.toList) (hfits : t.console.Fits text) :
    t.lines text.toList = [text.toList] := by
  have htab : '\t' ∉ text.toList := fun hc => (h.of_mem hc).2.1 rfl
  have hsame : Line.expandTabs text.toList = text.toList := by
    rw [Line.expandTabs, List.splitOn_eq_singleton htab, Line.expandFrom]
  have hboth : text.toList.length ≤ t.width ∧ Text.columnsOf text.toList ≤ t.width := hfits
  rw [lines, hsame]
  exact if_pos hboth

theorem print_of_fits (h : IsLiteral text.toList) (hfits : t.console.Fits text)
    (hplain : Markup.render t.picture? markup.toList = .ok text.toList) :
    t.console.print markup = .ok (text ++ "\n") := by
  rw [print_eq h hplain, lines_eq_self h hfits]
  simp

/-- **What is known of a console holds of a terminal.** -/
theorem documented_console (t : Terminal) : t.console.Documented where
  ended := by
    intro message shown hshown
    cases hplain : t.plain message.toList with
    | error fault => simp [console, Terminal.message, hplain, Except.map] at hshown
    | ok cs =>
      simp only [console, Terminal.message, hplain, Except.map, Except.ok.injEq] at hshown
      exact ⟨_, hshown.symm⟩
  shown colour text h := ⟨_, print_eq h (Markup.render_paint_literal colour h)⟩
  plain colour text h hfits := print_of_fits h hfits (Markup.render_paint_literal colour h)
  opening colour before name after hbefore hname hafter hfits := by
    have hliteral : IsLiteral (before ++ after).toList := by
      rw [String.toList_append]
      exact hbefore.append hafter
    exact print_of_fits hliteral hfits (Markup.render_paint_opening colour hbefore hname hafter)
  closing colour before name after hbefore hname hne hafter := by
    have hrender : Markup.render t.picture?
        (colour.paint (before ++ "[/" ++ name ++ "]" ++ after)).toList =
          .error (Markup.unmatched ('/' :: name.toList)) :=
      Markup.render_paint_closing colour hbefore hname hne
    have hmessage : t.console.print (colour.paint (before ++ "[/" ++ name ++ "]" ++ after)) =
        .error (Markup.unmatched ('/' :: name.toList)) := by
      change t.message _ = _
      rw [message, plain, hrender]
      rfl
    exact ⟨_, hmessage⟩

end Terminal

end ExploitReplay
