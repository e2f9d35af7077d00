import ExploitReplay.Proofs.SentValues
import ExploitReplay.Proofs.Signature.Division

/-!
# Payable functions

A function takes a value if one of the words of its signature says so. The modifiers are read from
what stands behind the parameter list, so one that touches the closing parenthesis is a modifier
without being a word. This is the only way in which the modifier can be there and the function take
no value.

## Main definitions

* `Signature.TouchesPayable text s`: the modifier touches the parameter list, and is no word

## Main results

* `Signature.mem_words_of_mem_modifiers`: a modifier that does not touch the list is a word
* `payable_iff_not_touchesPayable`: when a function with the modifier takes a value
-/

namespace ExploitReplay

open Text (isBlank leadAndWords words)

namespace Signature

/-- The first modifier, and only this one, says that a value may be sent along, and it touches the
parenthesis that closes the parameter list; so it is no word of the text. -/
structure TouchesPayable (text : String) (s : Signature) : Prop where
  noWord : payableKeyword ∉ words text.toList
  touches : ∃ front inside rest, DividesAt text front inside (payableKeyword ++ rest) ∧
    ∀ c ∈ rest.head?, isBlank c = true
  once : ∃ others, s.modifiers = "payable" :: others ∧ "payable" ∉ others

/-- **A word behind the list is a word of the text, or touches the list.** -/
theorem DividesAt.mem_words {text : String} {front inside tail w : List Char}
    (h : DividesAt text front inside tail) (hw : w ∈ (leadAndWords tail).2) :
    w ∈ words text.toList := by
  have htext : text.toList = (front ++ '(' :: (inside ++ [')'])) ++ tail := by
    simp [h.text_eq]
  rw [htext]
  exact Text.mem_words_of_mem_later (Text.mem_later_append hw)

theorem payable_mem_map_ofList {ms : List (List Char)} :
    "payable" ∈ ms.map String.ofList ↔ payableKeyword ∈ ms := by
  constructor
  · intro h
    obtain ⟨m, hm, heq⟩ := List.mem_map.mp h
    obtain rfl : m = payableKeyword := String.toList_ofList.symm.trans (congrArg String.toList heq)
    exact hm
  · intro h
    exact List.mem_map.mpr ⟨_, h, rfl⟩

/-- **A modifier that is no word touches the list.** -/
theorem touchesPayable_of_not_mem {text : String} (hmem : "payable" ∈ (divided text).modifiers)
    (hword : payableKeyword ∉ words text.toList) : TouchesPayable text (divided text) := by
  have hmodifiers : payableKeyword ∈ (splitAtReturns (words (division text).2)).1 :=
    payable_mem_map_ofList.mp hmem
  obtain ⟨front, inside, tail, hdivides⟩ : ListCloses text := by
    refine (listCloses_or_division text).resolve_right fun hnil => ?_
    rw [hnil] at hmodifiers
    simp [splitAtReturns] at hmodifiers
  obtain ⟨_, hdivision, -, -⟩ := hdivides.exists_division
  have hwords : words (division text).2 = words tail := by
    rw [hdivision, Text.words_singleSpaced]
  have hlater : payableKeyword ∉ (leadAndWords tail).2 := fun h => hword (hdivides.mem_words h)
  -- so the modifier is the run that the tail starts with
  have hlead : (leadAndWords tail).1 = payableKeyword := by
    rw [hwords] at hmodifiers
    have hmem := (splitAtReturns_fst (words tail)).1.subset hmodifiers
    exact ((Text.mem_consWord hmem).resolve_right hlater).symm
  have htail : words tail = payableKeyword :: (leadAndWords tail).2 := by
    rw [words, hlead]
    rfl
  refine ⟨hword, ?_, ?_⟩
  · obtain ⟨rest, hrest, hblank⟩ := Text.exists_append_lead tail
    rw [hlead] at hrest
    exact ⟨front, inside, rest, hrest ▸ hdivides, hblank⟩
  · have hkeyword : ∀ m ∈ [payableKeyword], ¬returnsKeyword <:+: m := by decide
    have hsplit := splitAtReturns_append hkeyword (leadAndWords tail).2
    refine ⟨(splitAtReturns (leadAndWords tail).2).1.map String.ofList, ?_, ?_⟩
    · rw [divided, hwords, htail, ← List.singleton_append, hsplit]
      rfl
    · rw [payable_mem_map_ofList]
      exact fun h => hlater ((splitAtReturns_fst _).1.subset h)

end Signature

open CallStatement (braced optionsOf)

/-- **When a function with the modifier takes a value.** If one of the modifiers of a signature says
that a value may be sent along, then the signature is read so, unless the modifier touches the
parenthesis that closes the parameter list and the word stands nowhere else in the text. A value
that is given for a call of the function is an option of the call then, and there is no warning; in the
other case the value is not sent, and there is a warning. -/
theorem payable_iff_not_touchesPayable {text : String} {s : Signature}
    (h : Signature.parse (some text) = .ok s) (hmodifier : "payable" ∈ s.modifiers) :
    (s.payable = true ↔ ¬s.TouchesPayable text) ∧
      ∀ (scope : Scope) (step : Step) (target : String) (c : CallStatement),
        step.call.signature = text → CallStatement.ofStep scope step target = .ok c →
        c.invocation = target ++ "." ++ s.name ++ braced (optionsOf step.call s.payable) ++ "(" ++
          ", ".intercalate (step.inputs.map Argument.text) ++ ");" ∧
        ∀ v, step.call.value = some v → v ≠ "" →
          (¬s.TouchesPayable text →
            "value: " ++ v ∈ optionsOf step.call s.payable ∧ c.warnings = []) ∧
          (s.TouchesPayable text →
            "value: " ++ v ∉ optionsOf step.call s.payable ∧ c.warnings = [.ignoredValue v]) := by
  have hiff : s.payable = true ↔ ¬s.TouchesPayable text := by
    obtain ⟨-, -, rfl⟩ := Signature.parse_eq_ok_iff.mp h
    have hpayable : (Signature.divided text).payable = true ↔
        Signature.payableKeyword ∈ words text.toList := List.contains_iff_mem
    rw [hpayable]
    refine ⟨fun hword htouches => htouches.noWord hword, fun hnot => ?_⟩
    by_contra hword
    exact hnot (Signature.touchesPayable_of_not_mem hmodifier hword)
  refine ⟨hiff, fun scope step target c hsignature hc => ?_⟩
  obtain ⟨-, signature, hparse, rfl⟩ := CallStatement.ofStep_eq_ok_iff.mp hc
  rw [hsignature] at hparse
  obtain rfl := Except.ok.inj (h.symm.trans hparse)
  refine ⟨rfl, fun v hvalue hv => ?_⟩
  have hwarnings : (CallStatement.settled scope step target s).warnings =
      if s.payable then [] else [.ignoredValue v] := by
    rw [CallStatement.warnings, CallStatement.settled, CallStatement.unsentValue, hvalue,
      CallStatement.filled_of_ne_empty hv]
    cases s.payable <;> rfl
  rw [CallStatement.mem_optionsOf_iff hvalue hv, hwarnings]
  refine ⟨fun hnot => ?_, fun htouches => ?_⟩
  · rw [hiff.mpr hnot]
    exact ⟨rfl, rfl⟩
  · have hpayable : s.payable = false := by simpa using mt hiff.mp (not_not_intro htouches)
    rw [hpayable]
    exact ⟨Bool.false_ne_true, rfl⟩

/-- The modifier touches the parameter list, and stands behind it once more. -/
def payStep : Step where
  call :=
    ⟨"0xA", "0xF", "function pay(address to)payable payable returns(bool)", some "1 ether", none⟩
  inputs := [.literal "0xB"]

theorem payable_iff_not_touchesPayable_payStep :
    ∃ s, Signature.parse (some payStep.call.signature) = .ok s ∧
      s.modifiers = ["payable", "payable"] ∧ ¬s.TouchesPayable payStep.call.signature ∧
      s.payable = true ∧ ∃ c, CallStatement.ofStep {} payStep "contract1" = .ok c ∧
        "value: 1 ether" ∈ optionsOf payStep.call s.payable ∧ c.warnings = [] := by
  obtain ⟨s, hs⟩ := exists_ok_of_isOk
    (show (Signature.parse (some payStep.call.signature)).isOk = true by decide +kernel)
  obtain ⟨c, hc⟩ := exists_ok_of_isOk
    (show (CallStatement.ofStep {} payStep "contract1").isOk = true by decide +kernel)
  have hmodifiers : s.modifiers = ["payable", "payable"] := by
    have hmap : (Signature.parse (some payStep.call.signature)).map (·.modifiers) =
        .ok ["payable", "payable"] := by decide +kernel
    rw [hs] at hmap
    exact Except.ok.inj hmap
  have hnot : ¬s.TouchesPayable payStep.call.signature := fun htouches =>
    absurd htouches.noWord (by decide +kernel)
  obtain ⟨hiff, hcall⟩ := payable_iff_not_touchesPayable hs (by rw [hmodifiers]; simp)
  obtain ⟨-, hvalue⟩ := hcall {} payStep "contract1" c rfl hc
  obtain ⟨hsent, hwarnings⟩ := (hvalue "1 ether" rfl (by decide)).1 hnot
  exact ⟨s, hs, hmodifiers, hnot, hiff.mpr hnot, c, hc, hsent, hwarnings⟩

/-- A modifier that touches the parameter list is not noticed, and the value is lost. -/
theorem payable_touching_list :
    (Signature.parse (some "function pay()payable external")).map
        (fun s => (s.modifiers, s.payable)) = .ok (["payable", "external"], false) ∧
      (CallStatement.ofStep {}
        { call := ⟨"", "0xF", "function pay()payable external", some "1 ether", none⟩ }
        "contract1").map (fun c => (c.invocation, c.warnings)) =
          .ok ("contract1.pay();", [.ignoredValue "1 ether"]) := by
  refine ⟨?_, ?_⟩ <;> decide +kernel

end ExploitReplay
