import ExploitReplay.CommandLine.Standard
import ExploitReplay.Preferences.Store
import ExploitReplay.Proofs.Disk
import ExploitReplay.Proofs.Yaml.Codec

/-!
# What a file of preferences asks for

A file that holds a mapping gives every setting the text of its value. Null asks for nothing, and
neither does a key that names no part of a record. A key that is no text, and one of the names that
every record has of its own and that takes no text, end the reading; so does a value of a part that
has no text.

## Main definitions

* `Preferences.Refuses pair cause`: a pair that ends the reading, and why
* `Preferences.AskedBy pairs p`: the preferences that a mapping asks for

## Main results

* `setPairs_of_refuses`: the reading ends at the first pair that is refused
* `askedBy_of_setPairs`: without one, every setting has the text of its value
* `Store.opened_mapping`: how the reading of a file with a mapping ends
-/

namespace ExploitReplay

namespace Preferences

variable {p q : Preferences} {pairs : List (Key × Value)} {pair : Key × Value} {key : Key}
  {value : Value} {cause : BadPair} {name text : String}

/-! ### The keys of a mapping -/

/-- The key of the first pair is not met again, if it is a text. -/
theorem KeysDiffer.not_mem {v w : Value} (h : KeysDiffer ((.text name, v) :: pairs)) :
    (.text name, w) ∉ pairs := by
  intro hw
  exact (List.pairwise_cons.mp h).1 _ hw name rfl rfl

/-! ### One pair -/

/-- A pair that ends the reading of a document, and why. -/
inductive Refuses : Key × Value → BadPair → Prop
  | notText {value : Value} : Refuses (.other, value) .notText
  | unwritable {name : String} (part : isPart name = true) :
      Refuses (.text name, .given none) (.unwritable name)
  | noText {name text : String} (part : name = "__class__" ∨ name = "__dict__") :
      Refuses (.text name, .given (some text)) (.noText name)
  | fixed {text : String} : Refuses (.text "__weakref__", .given (some text)) (.fixed "__weakref__")

/-- A name that takes no text names a part, but no setting. -/
theorem ofKey?_of_reserved (h : reserved? name = some cause) :
    isPart name = true ∧ Setting.ofKey? name = none ∧
      (((name = "__class__" ∨ name = "__dict__") ∧ cause = .noText name) ∨
        name = "__weakref__" ∧ cause = .fixed name) := by
  unfold reserved? at h
  split at h
  · rename_i hname
    have hcases : name = "__class__" ∨ name = "__dict__" := by simpa using hname
    obtain rfl := Option.some.inj h
    refine ⟨?_, ?_, .inl ⟨hcases, rfl⟩⟩ <;> rcases hcases with rfl | rfl <;> decide
  · split at h
    · rename_i hname
      obtain rfl := Option.some.inj h
      subst hname
      exact ⟨by decide, by decide, .inr ⟨rfl, rfl⟩⟩
    · cases h

/-- **A pair that is refused is an error.** -/
theorem setPair_of_refuses (p : Preferences) (h : Refuses (key, value) cause) :
    p.setPair key value = .error cause := by
  cases h with
  | notText => rfl
  | unwritable part => simp [setPair, part]
  | @noText name _ part =>
    have hreserved : reserved? name = some (.noText name) := by
      rcases part with rfl | rfl <;> rfl
    obtain ⟨hpart, hkey, -⟩ := ofKey?_of_reserved hreserved
    simp [setPair, hpart, hkey, hreserved]
  | fixed =>
    have hreserved : reserved? "__weakref__" = some (.fixed "__weakref__") := rfl
    obtain ⟨hpart, hkey, -⟩ := ofKey?_of_reserved hreserved
    simp [setPair, hpart, hkey, hreserved]

/-- Between texts only the name of a part that takes no text is refused. -/
theorem not_refuses_text (h : reserved? name = none) :
    ¬Refuses (.text name, .given (some text)) cause := by
  intro hrefused
  cases hrefused with
  | noText part => rcases part with rfl | rfl <;> cases h
  | fixed => cases h

/-- **A pair is refused, sets the setting of its key, or does nothing.** -/
theorem setPair_cases (p : Preferences) (key : Key) (value : Value) :
    (∃ cause, Refuses (key, value) cause) ∨
      (∃ (s : Setting) (text : String), key = .text s.key ∧ value = .given (some text) ∧
        p.setPair key value = .ok (p.set s text)) ∨
      ((∀ s : Setting, key = .text s.key → value = .null) ∧ p.setPair key value = .ok p) := by
  cases key with
  | other => exact .inl ⟨_, .notText⟩
  | text name =>
    cases value with
    | null => exact .inr (.inr ⟨fun _ _ => rfl, rfl⟩)
    | given text =>
      by_cases hpart : isPart name = true
      · cases text with
        | none => exact .inl ⟨_, .unwritable hpart⟩
        | some text =>
          -- a part is a setting, or one that takes no text, or one that nobody asks for
          cases hkey : Setting.ofKey? name with
          | some s =>
            have hname := Setting.key_eq_of_ofKey? hkey
            exact .inr (.inl ⟨s, text, by rw [hname], rfl, by simp [setPair, hpart, hkey]⟩)
          | none =>
            cases hreserved : reserved? name with
            | some cause =>
              obtain ⟨-, -, ⟨hname, -⟩ | ⟨rfl, -⟩⟩ := ofKey?_of_reserved hreserved
              · exact .inl ⟨_, .noText hname⟩
              · exact .inl ⟨_, .fixed⟩
            | none =>
              refine .inr (.inr ⟨?_, by simp [setPair, hpart, hkey, hreserved]⟩)
              rintro s hs
              rw [Key.text.inj hs, Setting.ofKey?_key] at hkey
              cases hkey
      · refine .inr (.inr ⟨?_, by simp [setPair, hpart]⟩)
        -- the name of a setting would be the name of a part
        rintro s hs
        rw [Key.text.inj hs] at hpart
        simp [isPart] at hpart

/-! ### All pairs -/

/-- **The reading ends at the first pair that is refused.** -/
theorem setPairs_of_refuses (p : Preferences) {before after : List (Key × Value)}
    (hbefore : ∀ other ∈ before, ∀ c, ¬Refuses other c) (h : Refuses pair cause) :
    p.setPairs (before ++ pair :: after) = .error cause := by
  -- on the pairs before it, for all preferences: each of them leaves some to go on from
  induction before generalizing p with
  | nil =>
    simp only [List.nil_append, setPairs, setPair_of_refuses p h]
    rfl
  | cons other rest ih =>
    have hrest : ∀ o ∈ rest, ∀ c, ¬Refuses o c := fun o ho => hbefore o (List.mem_cons_of_mem _ ho)
    rcases setPair_cases p other.1 other.2 with ⟨c, hc⟩ | ⟨s, text, -, -, hset⟩ | ⟨-, hset⟩
    · exact absurd hc (hbefore other (by simp) c)
    · simp only [List.cons_append, setPairs, hset]
      exact ih _ hrest
    · simp only [List.cons_append, setPairs, hset]
      exact ih _ hrest

/-- The preferences that a mapping asks for: the text of every value that is not null, and the usual
texts for all other settings. -/
structure AskedBy (usual : Preferences) (pairs : List (Key × Value)) (p : Preferences) : Prop where
  given : ∀ (s : Setting) (text : Option String), (.text s.key, .given text) ∈ pairs →
    text = some (p.get s)
  others : ∀ s : Setting, (∀ value, (.text s.key, value) ∈ pairs → value = .null) →
    p.get s = usual.get s

/-- A pair that sets a setting comes before others with different keys. -/
theorem AskedBy.cons_set {s : Setting}
    (hkeys : KeysDiffer ((.text s.key, .given (some text)) :: pairs))
    (h : AskedBy (p.set s text) pairs q) : AskedBy p ((.text s.key, .given (some text)) :: pairs) q
    := by
  refine ⟨?_, ?_⟩
  · intro t given hgiven
    rcases List.mem_cons.mp hgiven with heq | hrest
    · obtain ⟨hkey, hvalue⟩ := Prod.mk.inj heq
      obtain rfl := Setting.key_injective (Key.text.inj hkey)
      rw [h.others t fun w hw => absurd hw hkeys.not_mem, get_set_self, Value.given.inj hvalue]
    · exact h.given t given hrest
  · intro t hnull
    have hne : t ≠ s := by
      rintro rfl
      cases hnull _ List.mem_cons_self
    rw [h.others t fun w hw => hnull w (List.mem_cons_of_mem _ hw), get_set_of_ne p hne]

/-- A pair that does nothing may come before others. -/
theorem AskedBy.cons_idle (hidle : ∀ s : Setting, key = .text s.key → value = .null)
    (h : AskedBy p pairs q) : AskedBy p ((key, value) :: pairs) q := by
  refine ⟨?_, ?_⟩
  · intro t given hgiven
    rcases List.mem_cons.mp hgiven with heq | hrest
    · obtain ⟨hkey, hvalue⟩ := Prod.mk.inj heq
      cases hvalue.trans (hidle t hkey.symm)
    · exact h.given t given hrest
  · intro t hnull
    exact h.others t fun w hw => hnull w (List.mem_cons_of_mem _ hw)

/-- **Without a pair that is refused, every setting has the text of its value.** -/
theorem askedBy_of_setPairs (p : Preferences) (hkeys : KeysDiffer pairs)
    (h : ∀ pair ∈ pairs, ∀ c, ¬Refuses pair c) :
    ∃ q, p.setPairs pairs = .ok q ∧ AskedBy p pairs q := by
  -- on the pairs, for all preferences: what a pair has set is usual to those behind it
  induction pairs generalizing p with
  | nil => exact ⟨p, rfl, by simp, fun _ _ => rfl⟩
  | cons pair rest ih =>
    obtain ⟨key, value⟩ := pair
    have hkeysRest : KeysDiffer rest := (List.pairwise_cons.mp hkeys).2
    have hrest : ∀ o ∈ rest, ∀ c, ¬Refuses o c := fun o ho => h o (List.mem_cons_of_mem _ ho)
    rcases setPair_cases p key value with ⟨c, hc⟩ | ⟨s, text, rfl, rfl, hset⟩ | ⟨hidle, hset⟩
    · exact absurd hc (h _ (by simp) c)
    · obtain ⟨q, hq, hasked⟩ := ih (p.set s text) hkeysRest hrest
      refine ⟨q, ?_, hasked.cons_set hkeys⟩
      rw [setPairs, hset]
      exact hq
    · obtain ⟨q, hq, hasked⟩ := ih p hkeysRest hrest
      refine ⟨q, ?_, hasked.cons_idle hidle⟩
      rw [setPairs, hset]
      exact hq

/-! ### Files -/

/-- The settings stay listed unless a pair gives a value to the list of them. -/
theorem leavesListed_mapping_iff : leavesListed (.mapping pairs) = true ↔
    ∀ value, (.text listName, value) ∈ pairs → value = .null := by
  have hhides : ∀ pair, hidesSettings pair = true ↔
      ∃ value, pair = (.text listName, value) ∧ value ≠ .null := by
    rintro ⟨key, value⟩
    cases key with
    | text name => cases value <;> simp [hidesSettings]
    | other => simp [hidesSettings]
  rw [leavesListed, Bool.not_eq_true', List.any_eq_false]
  constructor
  · intro hnone value hpair
    by_contra hgiven
    exact hnone _ hpair ((hhides _).mpr ⟨value, rfl, hgiven⟩)
  · intro hnull pair hpair hhidden
    obtain ⟨value, rfl, hgiven⟩ := (hhides pair).mp hhidden
    exact hgiven (hnull value hpair)

namespace Store

variable {codec : Codec} {d made : Disk} {location file : Path} {bytes : ByteArray}

theorem opened_of_contentAt (codec : Codec) (hfile : location.expandHome? d.home = some file)
    (hmade : d.makeDirectories file.parent = (made, .ok ()))
    (hcontent : made.contentAt file = .ok bytes) (htext : Decoding.utf8? bytes = some text) :
    opened codec d location =
      (made, (ofText codec text).map fun l => (⟨file, l.preferences, l.isListed⟩, l.unread)) := by
  unfold opened
  simp only [hfile, hmade]
  unfold load
  simp only [Disk.look_of_contentAt hcontent, hcontent, htext]

/-- **How the reading of a file with a mapping ends.** Without a pair that is refused there is a
store: every setting has the text of its value, or the usual one if its key is not there or its value
is null, and no other pair matters to any setting. The settings can be listed unless a pair gives a
value to the list of settings. With a pair that is refused there is no store, because of the first
one. -/
theorem opened_mapping (hcodec : codec.Documented)
    (hfile : location.expandHome? d.home = some file)
    (hmade : d.makeDirectories file.parent = (made, .ok ()))
    (hcontent : made.contentAt file = .ok bytes) (htext : Decoding.utf8? bytes = some text)
    (hread : codec.read text = .ok (.mapping pairs)) :
    ((∀ pair ∈ pairs, ∀ cause, ¬Refuses pair cause) →
      ∃ store, opened codec d location = (made, .ok (store, none)) ∧ store.file = file ∧
        AskedBy {} pairs store.preferences ∧
        ((∀ value, (.text listName, value) ∈ pairs → value = .null) →
          store.listed = some store.preferences.pairs) ∧
        ∀ value, (.text listName, value) ∈ pairs → value ≠ .null → store.listed = none) ∧
    ∀ before pair after cause, pairs = before ++ pair :: after →
      (∀ other ∈ before, ∀ c, ¬Refuses other c) → Refuses pair cause →
      opened codec d location = (made, .error (.badPair cause)) := by
  have hopened := opened_of_contentAt codec hfile hmade hcontent htext
  refine ⟨?_, ?_⟩
  · intro hgood
    obtain ⟨p, hp, hasked⟩ := askedBy_of_setPairs {} (hcodec.keysDiffer _ _ hread) hgood
    have hof : ofText codec text =
        .ok { preferences := p, isListed := leavesListed (.mapping pairs) } := by
      simp only [ofText, hread, ofDocument, hp]
    rw [hopened, hof]
    refine ⟨⟨file, p, leavesListed (.mapping pairs)⟩, rfl, rfl, hasked, ?_, ?_⟩
    · intro hnull
      simp [listed, leavesListed_mapping_iff.mpr hnull]
    · intro value hpair hgiven
      have hhidden : ¬leavesListed (.mapping pairs) = true := fun hlisted =>
        hgiven (leavesListed_mapping_iff.mp hlisted value hpair)
      simp [listed, hhidden]
  · rintro before pair after cause rfl hbefore hrefused
    have hof : ofText codec text = .error (.badPair cause) := by
      simp only [ofText, hread, ofDocument, setPairs_of_refuses {} hbefore hrefused]
    rw [hopened, hof]
    rfl

/-- A disk with one file of preferences. -/
def diskWith (text : String) : Disk :=
  { entries := [(["c.yaml"], .file text.toUTF8)] }

/-- A key that is no setting is passed over, but the name of every record's class is not. -/
theorem opened_mapping_ownName :
    (∃ store, opened Yaml.codec (diskWith "license: MIT\ncolour: blue\n") ⟨0, ["c.yaml"]⟩ =
        (diskWith "license: MIT\ncolour: blue\n", .ok (store, none)) ∧
      store.listed = some (({} : Preferences).set .license "MIT").pairs) ∧
    opened Yaml.codec (diskWith "license: MIT\n__class__: blue\n") ⟨0, ["c.yaml"]⟩ =
      (diskWith "license: MIT\n__class__: blue\n", .error (.badPair (.noText "__class__"))) := by
  have hfile : ∀ home, Path.expandHome? ⟨0, ["c.yaml"]⟩ home = some ⟨0, ["c.yaml"]⟩ :=
    fun _ => rfl
  have hmade : ∀ text, (diskWith text).makeDirectories (Path.parent ⟨0, ["c.yaml"]⟩) =
      (diskWith text, .ok ()) := fun _ => Disk.makeDirectories_of_isDirectory rfl
  have hplain : Yaml.codec.read "license: MIT\ncolour: blue\n" = .ok (.mapping
      [(.text "license", .given (some "MIT")), (.text "colour", .given (some "blue"))]) := by
    decide +kernel
  have hclass : Yaml.codec.read "license: MIT\n__class__: blue\n" = .ok (.mapping
      [(.text "license", .given (some "MIT")), (.text "__class__", .given (some "blue"))]) := by
    decide +kernel
  obtain ⟨hgood, -⟩ := opened_mapping Yaml.documented_codec (hfile _) (hmade _) rfl
    (Decoding.utf8?_toUTF8 (by decide)) hplain
  obtain ⟨-, hrefused⟩ := opened_mapping Yaml.documented_codec (hfile _) (hmade _) rfl
    (Decoding.utf8?_toUTF8 (by decide)) hclass
  refine ⟨?_, ?_⟩
  · obtain ⟨store, hopened, -, hasked, hlisted, -⟩ := hgood (by
      intro pair hpair cause
      rcases List.mem_cons.mp hpair with rfl | hpair
      · exact not_refuses_text rfl
      · obtain rfl := List.mem_singleton.mp hpair
        exact not_refuses_text rfl)
    refine ⟨store, hopened, ?_⟩
    have hpreferences : store.preferences = ({} : Preferences).set .license "MIT" := by
      apply ext_get
      intro s
      by_cases hs : s = .license
      · subst hs
        have hlicense := hasked.given .license (some "MIT") (by simp [Setting.key])
        exact (Option.some.inj hlicense).symm
      · have hkey : s.key ≠ "license" ∧ s.key ≠ "colour" := by
          cases s <;> first | exact absurd rfl hs | decide
        rw [get_set_of_ne _ hs, hasked.others s]
        simp [hkey]
    rw [hlisted (by simp [listName]), hpreferences]
  · exact hrefused [(.text "license", .given (some "MIT"))] (.text "__class__", .given (some "blue"))
      [] _ rfl
      (fun other hother c => by
        obtain rfl := List.mem_singleton.mp hother
        exact not_refuses_text rfl)
      (.noText (.inl rfl))

end Store

end Preferences

end ExploitReplay
