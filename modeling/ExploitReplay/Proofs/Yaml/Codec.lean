import ExploitReplay.Proofs.Members
import ExploitReplay.Proofs.Yaml.Writer
import ExploitReplay.Yaml.Codec

/-!
# What is known of the codec for YAML

A pair is put into a mapping in the place of the one with its key, so that the keys of a mapping
differ. What is written are visible characters and line feeds.

## Main definitions

* `Yaml.KeysDiffer`: no two pairs of a mapping have the same key

## Main results

* `Yaml.keysDiffer_of_read`: the pairs of a mapping in a text have different keys
* `Yaml.documented_codec`: what is known of a codec for preferences holds of the one for YAML
-/

namespace ExploitReplay

open Exploit (map_eq_ok_iff bind_eq_ok_iff)

/-! ### The keys of a mapping -/

namespace Yaml

variable {pairs : List (Yaml × Yaml)} {key value : Yaml}

/-- No two pairs have the same key. -/
def KeysDiffer (pairs : List (Yaml × Yaml)) : Prop :=
  (pairs.map Prod.fst).Pairwise fun a b => sameKey a b = false

/-- A pair replaces the one of its key, or comes last if there is none. -/
theorem put_cases (pairs : List (Yaml × Yaml)) (key value : Yaml) :
    (put pairs key value).map Prod.fst = pairs.map Prod.fst ∨
      (∀ k ∈ pairs.map Prod.fst, sameKey k key = false) ∧
        put pairs key value = pairs ++ [(key, value)] := by
  -- on the pairs: the first one with the key is the one that is replaced
  induction pairs with
  | nil => exact .inr ⟨by simp, rfl⟩
  | cons pair rest ih =>
    obtain ⟨k, v⟩ := pair
    by_cases hsame : sameKey k key = true
    · left
      simp [put, hsame]
    · rcases ih with hkeys | ⟨hnew, hlast⟩
      · left
        simp [put, hsame, hkeys]
      · right
        refine ⟨?_, by simp [put, hsame, hlast]⟩
        intro k' hk'
        rcases List.mem_cons.mp hk' with rfl | hk'
        · simpa using hsame
        · exact hnew k' hk'

theorem KeysDiffer.put (h : KeysDiffer pairs) (key value : Yaml) :
    KeysDiffer (put pairs key value) := by
  unfold KeysDiffer at h ⊢
  rcases put_cases pairs key value with hkeys | ⟨hnew, hlast⟩
  · rw [hkeys]
    exact h
  · rw [hlast, List.map_append, List.pairwise_append]
    refine ⟨h, by simp, ?_⟩
    -- the new pair is the last one, and no key before it is its own
    intro a ha b hb
    obtain rfl : b = key := by simpa using hb
    exact hnew a ha

theorem keysDiffer_settled (pairs : List (Yaml × Yaml)) : KeysDiffer (settled pairs) := by
  -- on the pairs, for every mapping that they are put into
  have hfold : ∀ start, KeysDiffer start →
      KeysDiffer (pairs.foldl (fun ps pair => Yaml.put ps pair.1 pair.2) start) := by
    induction pairs with
    | nil => exact fun start h => h
    | cons pair rest ih => exact fun start h => ih _ (h.put pair.1 pair.2)
  exact hfold [] List.Pairwise.nil

/-- No scalar is a mapping. -/
theorem scalarReading_ne_mapping (tag : Tag) (s : String) :
    scalarReading tag s ≠ .ok (.mapping pairs) := by
  intro h
  unfold scalarReading at h
  cases hvalue : scalarValue tag s with
  | error fault => simp [hvalue, Except.mapError] at h
  | ok v =>
    simp only [hvalue, Except.mapError, Except.ok.injEq] at h
    subst h
    cases tag with
    | bool => cases htruth : truth? s.toList <;> simp [scalarValue, htruth] at hvalue
    | float =>
      obtain ⟨x, -, hx⟩ := map_eq_ok_iff.mp hvalue
      unfold floatValue at hx
      split at hx <;> cases hx
    | binary =>
      cases hbytes : Binary.ofChars? s.toList <;> simp [scalarValue, hbytes] at hvalue
    | _ => simp [scalarValue, map_eq_ok_iff] at hvalue

theorem inside_eq_ok_iff {α : Type} {r : Reading α} {x : α} : inside r = .ok x ↔ r = .ok x := by
  cases r <;> simp [inside, Except.mapError]

theorem filled_eq_ok {good : Bool} {merged own : Reading (List (Yaml × Yaml))}
    (h : filled good merged own = .ok pairs) : ∃ all, pairs = settled all := by
  unfold filled at h
  split at h
  · obtain ⟨all, -, hall⟩ := map_eq_ok_iff.mp h
    exact ⟨all, hall.symm⟩
  · simp [fail] at h

/-- The pairs of the mapping that a node stands for have different keys. -/
theorem keysDiffer_of_valueOf {n : Node} (h : valueOf n = .ok (.mapping pairs)) :
    KeysDiffer pairs := by
  cases n with
  | again isMapping => simp [valueOf] at h
  | scalar tag s =>
    unfold valueOf at h
    split at h
    · simp [inside_eq_ok_iff, fail] at h
    · exact absurd h (scalarReading_ne_mapping tag s)
  | sequence tag items =>
    unfold valueOf at h
    split at h
    · simp [inside_eq_ok_iff, map_eq_ok_iff] at h
    · simp [inside_eq_ok_iff, map_eq_ok_iff] at h
    · split at h <;> simp [inside_eq_ok_iff, fail] at h
  | mapping tag items =>
    unfold valueOf at h
    split at h
    · -- only here the value is a mapping, and its pairs are settled
      obtain ⟨ps, hps, heq⟩ := map_eq_ok_iff.mp (inside_eq_ok_iff.mp h)
      obtain rfl : ps = pairs := by simpa using heq
      obtain ⟨all, rfl⟩ := filled_eq_ok hps
      exact keysDiffer_settled all
    · simp [inside_eq_ok_iff, map_eq_ok_iff] at h
    · split at h
      · simp [inside_eq_ok_iff, fail] at h
      · split at h
        · exact absurd h (scalarReading_ne_mapping _ _)
        · simp [fail] at h

/-- **The pairs of a mapping in a text have different keys.** -/
theorem keysDiffer_of_read {text : String} (h : read text = .ok (.mapping pairs)) :
    KeysDiffer pairs := by
  obtain ⟨ts, -, hts⟩ := bind_eq_ok_iff.mp h
  obtain ⟨found, -, hfound⟩ := bind_eq_ok_iff.mp hts
  cases found with
  | none => simp at hfound
  | some n =>
    simp only [Option.map_some, Option.getD_some, ofNode] at hfound
    cases hvalue : valueOf n with
    | error m => simp [hvalue, Except.mapError] at hfound
    | ok v =>
      simp only [hvalue, Except.mapError, Except.ok.injEq] at hfound
      exact keysDiffer_of_valueOf (hfound ▸ hvalue)

/-! ### The codec -/

theorem document_eq_mapping {v : Yaml} {keys : List (Preferences.Key × Preferences.Value)}
    (h : v.document = .mapping keys) : ∃ pairs, v = .mapping pairs ∧
      keys = pairs.map fun pair => (pair.1.asKey, pair.2.asValue) := by
  cases v with
  | mapping pairs => exact ⟨pairs, rfl, (Preferences.Document.mapping.inj h).symm⟩
  | _ => cases h

theorem asKey_eq_text {name : String} (h : key.asKey = .text name) : key = .text name := by
  cases key with
  | text s => rw [Preferences.Key.text.inj h]
  | _ => cases h

/-- Pairs with different keys have different texts as their keys. -/
theorem KeysDiffer.document (h : KeysDiffer pairs) :
    Preferences.KeysDiffer (pairs.map fun pair => (pair.1.asKey, pair.2.asValue)) := by
  refine List.Pairwise.map _ ?_ (List.pairwise_map.mp h)
  intro a b hdiffer name ha hb
  rw [asKey_eq_text ha, asKey_eq_text hb] at hdiffer
  simp [sameKey] at hdiffer

theorem placed_perm (pair : String × String) (pairs : List (String × String)) :
    (placed pair pairs).Perm (pair :: pairs) := by
  induction pairs with
  | nil => exact .refl _
  | cons other rest ih =>
    unfold placed
    split
    · exact (ih.cons other).trans (.swap pair other rest)
    · exact .refl _

/-- All pairs are written, whatever their order is. -/
theorem sorted_perm (pairs : List (String × String)) : (sorted pairs).Perm pairs := by
  induction pairs with
  | nil => exact .refl _
  | cons pair rest ih => exact (placed_perm pair (sorted rest)).trans (ih.cons pair)

/-- **What is known of a codec holds of the one for YAML.** -/
theorem documented_codec : codec.Documented where
  keysDiffer text keys h := by
    unfold codec at h
    dsimp only at h
    split at h
    · rename_i v hread
      obtain ⟨pairs, rfl, rfl⟩ := document_eq_mapping (Except.ok.inj h)
      exact (keysDiffer_of_read hread).document
    · cases h
    · cases h
  noReturn pairs := by
    intro hmem
    rcases inWriting_mappingText (sorted pairs) '\r' hmem with hvisible | hbreak
    · exact absurd hvisible (by decide)
    · exact absurd hbreak (by decide)

end Yaml

end ExploitReplay
