import ExploitReplay.Proofs.Console.Terminal
import ExploitReplay.Proofs.Preferences.Reading
import ExploitReplay.Proofs.Reporting

/-!
# Preferences that are changed and saved

Settings are changed from left to right, and saved only if all of them are known: an unknown one
leaves the disk as it is, whatever comes before it. The file that is saved asks for the changed
preferences, if a mapping between texts is read as it has been written. A file that finds too little
room is cut short, and this is reported. The settings cannot be saved if they cannot be listed: their
file is emptied, and the command has no exit code.

## Main definitions

* `Preferences.changedBy changes p`, `Store.changedBy changes store`: the preferences with other
  texts for some settings
* `Preferences.Known changes`: all changes are changes of settings
* `Preferences.Codec.ReadsBack codec pairs`: a mapping is read as it has been written

## Main results

* `get_changedBy`: the last change of a setting is the one that counts
* `Store.opened_writeAt`: a saved file asks for what has been saved
* `Action.on_settings_changes`: how a change of settings ends
-/

namespace ExploitReplay

namespace Preferences

/-! ### Changes -/

/-- The preferences with other texts for some settings, from left to right. -/
def changedBy (changes : List (String × String)) (p : Preferences) : Preferences :=
  changes.foldl (fun q (key, text) => ((Setting.ofKey? key).map (q.set · text)).getD q) p

/-- All changes are changes of settings. -/
def Known (changes : List (String × String)) : Prop :=
  ∀ change ∈ changes, ∃ s : Setting, s.key = change.1

/-- The texts of settings after changes, the last of which counts. -/
def updated (changes pairs : List (String × String)) : List (String × String) :=
  pairs.map fun (key, text) => (key, (changes.reverse.lookup key).getD text)

variable {changes rest : List (String × String)} {key text : String}

theorem Known.of_cons (h : Known ((key, text) :: rest)) :
    (∃ s : Setting, s.key = key) ∧ Known rest :=
  ⟨h (key, text) (by simp), fun change hchange => h change (List.mem_cons_of_mem _ hchange)⟩

/-- **The last change of a setting is the one that counts.** -/
theorem get_changedBy (h : Known changes) (p : Preferences) (s : Setting) :
    (p.changedBy changes).get s = (changes.reverse.lookup s.key).getD (p.get s) := by
  -- on the changes, for all preferences: the first one counts only without a later one
  induction changes generalizing p with
  | nil => rfl
  | cons change rest ih =>
    obtain ⟨key, text⟩ := change
    obtain ⟨⟨t, rfl⟩, hrest⟩ := h.of_cons
    have hstep : p.changedBy ((t.key, text) :: rest) = (p.set t text).changedBy rest := by
      simp [changedBy]
    rw [hstep, ih hrest, List.reverse_cons, List.lookup_append]
    cases hlater : rest.reverse.lookup s.key with
    | some last => simp
    | none =>
      by_cases hs : s = t
      · subst hs
        simp
      · have hkey : s.key ≠ t.key := fun hkey => hs (Setting.key_injective hkey)
        have hbeq : (s.key == t.key) = false := by simpa using hkey
        simp [get_set_of_ne p hs, List.lookup_cons, hbeq]

theorem pairs_changedBy (h : Known changes) (p : Preferences) :
    (p.changedBy changes).pairs = updated changes p.pairs := by
  unfold pairs updated
  rw [List.map_map]
  refine List.map_congr_left fun s _ => ?_
  simp [get_changedBy h p s]

/-! ### Saved files -/

/-- What is read from the writing of a mapping between texts is that mapping again. -/
def Codec.ReadsBack (codec : Codec) (pairs : List (String × String)) : Prop :=
  ∃ read, codec.read (codec.write pairs) = .ok (.mapping read) ∧
    read.Perm (pairs.map fun pair => (.text pair.1, .given (some pair.2)))

theorem mem_pairs {p : Preferences} : (key, text) ∈ p.pairs ↔
    ∃ s : Setting, s.key = key ∧ p.get s = text := by
  simp [pairs, Setting.mem_all]

variable {codec : Codec}

/-- **A file that is read as it has been written asks for its preferences.** -/
theorem ofText_fileText {p : Preferences} (hcodec : codec.Documented)
    (h : codec.ReadsBack p.pairs) :
    Store.ofText codec (p.fileText codec) = .ok { preferences := p } := by
  obtain ⟨pairs, hread, hpairs⟩ := h
  -- all keys are those of settings, so that no pair is refused and none hides the settings
  have hmem : ∀ pair ∈ pairs, ∃ s : Setting, pair = (.text s.key, .given (some (p.get s))) := by
    intro pair hpair
    obtain ⟨⟨key, text⟩, htexts, rfl⟩ := List.mem_map.mp (hpairs.mem_iff.mp hpair)
    obtain ⟨s, rfl, rfl⟩ := mem_pairs.mp htexts
    exact ⟨s, rfl⟩
  have hgood : ∀ pair ∈ pairs, ∀ cause, ¬Refuses pair cause := by
    intro pair hpair cause
    obtain ⟨s, rfl⟩ := hmem pair hpair
    exact not_refuses_text (reserved?_key s)
  obtain ⟨q, hq, hasked⟩ := askedBy_of_setPairs {} (hcodec.keysDiffer _ _ hread) hgood
  obtain rfl : q = p := by
    refine ext_get fun s => (Option.some.inj (hasked.given s (some (p.get s)) ?_)).symm
    exact hpairs.mem_iff.mpr (List.mem_map_of_mem (mem_pairs.mpr ⟨s, rfl, rfl⟩))
  have hlisted : leavesListed (.mapping pairs) = true := by
    refine leavesListed_mapping_iff.mpr ?_
    intro value hpair
    obtain ⟨s, hs⟩ := hmem _ hpair
    have hname : s.key = listName := (Key.text.inj (Prod.mk.inj hs).1).symm
    cases s <;> exact absurd hname (by decide)
  rw [Store.ofText, fileText, hread]
  simp only [ofDocument, hq, hlisted]

namespace Store

/-- The store with other texts for some settings, from left to right. -/
def changedBy (changes : List (String × String)) (store : Store) : Store :=
  { store with preferences := store.preferences.changedBy changes }

variable {d made left : Disk} {location : Path} {store : Store} {why : Option Unread}
  {p : Preferences}

theorem listed_eq_some_iff {old : List (String × String)} :
    store.listed = some old ↔ store.isListed = true ∧ old = store.preferences.pairs := by
  unfold listed
  by_cases h : store.isListed = true
  · simp [h, eq_comm]
  · simp [h]

theorem listed_eq_none_iff : store.listed = none ↔ store.isListed = false := by
  simp [listed]

theorem opened_eq_ok (h : opened codec d location = (made, .ok (store, why))) :
    location.expandHome? d.home = some store.file ∧
      d.makeDirectories store.file.parent = (made, .ok ()) := by
  unfold opened at h
  cases hfile : location.expandHome? d.home with
  | none => simp [hfile] at h
  | some file =>
    rcases hmade : d.makeDirectories file.parent with ⟨between, cause | _⟩
    · simp [hfile, hmade] at h
    · simp only [hfile, hmade, Prod.mk.injEq] at h
      obtain ⟨rfl, hload⟩ := h
      obtain ⟨loaded, -, hstore⟩ := Exploit.map_eq_ok_iff.mp hload
      obtain ⟨rfl, -⟩ := Prod.mk.inj hstore
      exact ⟨rfl, hmade⟩

/-- **A saved file asks for what has been saved.** -/
theorem opened_writeAt (hcodec : codec.Documented)
    (h : opened codec d location = (made, .ok (store, why)))
    (hwrite : made.writeAt store.file (p.fileText codec).toUTF8 = (left, .ok ()))
    (hreadable : made.Readable store.file) (hyaml : codec.ReadsBack p.pairs) :
    opened codec left location = (left, .ok (⟨store.file, p, true⟩, none)) := by
  obtain ⟨hfile, hmade⟩ := opened_eq_ok h
  have hhome : left.home = d.home := by
    rw [Disk.home_writeAt hwrite, Disk.home_makeDirectories hmade]
  -- the directory of the file is there, and the file is what has been written
  have hthere := Disk.isDirectory_writeAt hwrite (Disk.isDirectory_makeDirectories hmade)
  rw [opened_of_contentAt codec (hhome ▸ hfile) (Disk.makeDirectories_of_isDirectory hthere)
    (Disk.contentAt_writeAt hwrite hreadable) (Decoding.utf8?_toUTF8 (hcodec.noReturn _)),
    ofText_fileText hcodec hyaml]
  rfl

end Store

end Preferences

namespace Action

open Preferences (Store Known changedBy updated fileText pairs_changedBy)
open Markup (IsLiteral IsTagName)

variable {d : Disk} {desk : Desk} {location : Path} {store : Store} {why : Option Store.Unread}
  {request : SettingsRequest}
  {changes done rest : List (String × String)} {key text : String}

/-! ### Changing settings one after the other -/

theorem on_changeSetting (store : Store) (key text : String) (desk : Desk) :
    (changeSetting store key text).on desk =
      match store.change key text with
      | some changed => (.ok (some changed), desk)
      | none =>
        match desk.console.print (Report.unknownSetting key).markup with
        | .ok line => (.ok none, { desk with printed := desk.printed ++ line })
        | .error cause => (.error (.unshown cause), desk) := by
  unfold changeSetting
  cases store.change key text with
  | some changed => rfl
  | none =>
    rw [on_report_bind]
    cases desk.console.print (Report.unknownSetting key).markup <;> rfl

/-- Known settings are changed, and nothing is said. -/
theorem on_changeSettings_of_known (h : Known changes) (store : Store) (desk : Desk) :
    (changeSettings store changes).on desk =
      (.ok (some (store.changedBy changes)), desk) := by
  induction changes generalizing store with
  | nil => rfl
  | cons change rest ih =>
    obtain ⟨key, text⟩ := change
    obtain ⟨⟨s, rfl⟩, hrest⟩ := h.of_cons
    have hchange : store.change s.key text =
        some { store with preferences := store.preferences.set s text } := by
      simp [Store.change]
    rw [changeSettings, on_bind, on_changeSetting, hchange]
    dsimp only
    rw [ih hrest]
    simp [Store.changedBy, changedBy]

/-- An unknown setting ends the changes. -/
theorem on_changeSettings_of_unknown (hdone : Known done) (hkey : ∀ s : Setting, s.key ≠ key)
    (store : Store) (desk : Desk) :
    (changeSettings store (done ++ (key, text) :: rest)).on desk =
      match desk.console.print (Report.unknownSetting key).markup with
      | .ok line => (.ok none, { desk with printed := desk.printed ++ line })
      | .error cause => (.error (.unshown cause), desk) := by
  -- on the changes before it, for every store: they are made there, and nothing is said
  induction done generalizing store with
  | nil =>
    have hchange : store.change key text = none := Store.change_eq_none_iff.mpr hkey
    rw [List.nil_append, changeSettings, on_bind, on_changeSetting, hchange]
    dsimp only
    cases desk.console.print (Report.unknownSetting key).markup <;> rfl
  | cons change done ih =>
    obtain ⟨name, value⟩ := change
    obtain ⟨⟨s, rfl⟩, hlater⟩ := hdone.of_cons
    have hchange : store.change s.key value =
        some { store with preferences := store.preferences.set s value } := by
      simp [Store.change]
    rw [List.cons_append, changeSettings, on_bind, on_changeSetting, hchange]
    exact ih hlater _

/-- The first setting that is unknown. -/
theorem exists_first_unknown (h : ¬Known changes) : ∃ done key text rest,
    changes = done ++ (key, text) :: rest ∧ Known done ∧ ∀ s : Setting, s.key ≠ key := by
  induction changes with
  | nil => exact absurd (fun change hchange => by cases hchange) h
  | cons change changes ih =>
    obtain ⟨key, text⟩ := change
    by_cases hkey : ∃ s : Setting, s.key = key
    · have hlater : ¬Known changes := by
        intro hknown
        apply h
        intro change hchange
        rcases List.mem_cons.mp hchange with rfl | hchange
        · exact hkey
        · exact hknown change hchange
      obtain ⟨done, name, value, rest, rfl, hdone, hname⟩ := ih hlater
      refine ⟨(key, text) :: done, name, value, rest, rfl, ?_, hname⟩
      intro change hchange
      rcases List.mem_cons.mp hchange with rfl | hchange
      · exact hkey
      · exact hdone change hchange
    · refine ⟨[], key, text, changes, rfl, ?_, fun s hs => hkey ⟨s, hs⟩⟩
      intro change hchange
      cases hchange

/-! ### Saving them -/

/-- How a command ends that saves preferences: those that have been written are reported if they can
be listed, and those that could not be written are reported too, unless no file has such a name. -/
theorem on_saveStore (store : Store) (desk : Desk) :
    (do saveStore store; return success : Action ExitCode).on desk =
      match store.saved desk.codec desk.disk with
      | (left, .ok ()) =>
        match store.listed with
        | some _ => reported { desk with disk := left } (.preferencesSaved store.file) success
        | none => (.error .unlisted, { desk with disk := left })
      | (left, .error cause) =>
        if cause.cause = .unnameable then (.error (.unnameable cause), { desk with disk := left })
        else reported { desk with disk := left } (.preferencesNotSaved cause) success := by
  rw [on_bind, saveStore, on_bind, on_get]
  dsimp only
  rcases store.saved desk.codec desk.disk with ⟨left, cause | _⟩
  · dsimp only
    rw [on_bind, on_setDisk]
    dsimp only
    by_cases hname : cause.cause = .unnameable
    · rw [tell, if_pos hname, if_pos hname]
      rfl
    · rw [tell, if_neg hname, if_neg hname, on_report, reported]
      dsimp only
      cases desk.console.print (Report.preferencesNotSaved cause).markup <;> rfl
  · dsimp only
    rw [on_bind, on_setDisk]
    dsimp only
    rw [on_bind, listStore]
    cases store.listed with
    | none => rfl
    | some pairs =>
      dsimp only [on_pure]
      rw [on_report, reported]
      dsimp only
      cases desk.console.print (Report.preferencesSaved store.file).markup <;> rfl

/-- Preferences that have been written are reported if they can be listed. -/
theorem on_saveStore_of_listed {left : Disk} (hlisted : store.isListed = true)
    (h : store.saved desk.codec desk.disk = (left, .ok ())) :
    (do saveStore store; return success : Action ExitCode).on desk =
      reported { desk with disk := left } (.preferencesSaved store.file) success := by
  rw [on_saveStore, h, Store.listed, if_pos hlisted]

/-- Preferences that cannot be listed are not reported, and the command has no exit code. -/
theorem on_saveStore_of_unlisted {left : Disk} (hlisted : store.isListed = false)
    (h : store.saved desk.codec desk.disk = (left, .ok ())) :
    (do saveStore store; return success : Action ExitCode).on desk =
      (.error .unlisted, { desk with disk := left }) := by
  rw [on_saveStore, h, Store.listed_eq_none_iff.mpr hlisted]

/-- Preferences that could not be written are reported, unless no file has such a name. -/
theorem on_saveStore_of_error {left : Disk} {cause : DiskError}
    (h : store.saved desk.codec desk.disk = (left, .error cause))
    (hname : cause.cause ≠ .unnameable) :
    (do saveStore store; return success : Action ExitCode).on desk =
      reported { desk with disk := left } (.preferencesNotSaved cause) success := by
  rw [on_saveStore, h]
  dsimp only
  rw [if_neg hname]

/-- A request that changes known settings saves them. -/
theorem on_settings_of_known (hchanges : request.changes ≠ []) (h : Known request.changes)
    (store : Store) (desk : Desk) :
    (settings store request).on desk =
      (do saveStore (store.changedBy request.changes); return success : Action ExitCode).on desk
    := by
  rw [settings, if_pos hchanges, on_bind, on_changeSettings_of_known h]

/-- A request with an unknown setting is reported, and nothing else is done. -/
theorem on_settings_of_unknown (h : request.changes = done ++ (key, text) :: rest)
    (hdone : Known done) (hkey : ∀ s : Setting, s.key ≠ key) (store : Store) (desk : Desk) :
    (settings store request).on desk = reported desk (.unknownSetting key) failure := by
  have hchanges : request.changes ≠ [] := by
    rw [h]
    simp
  rw [settings, if_pos hchanges, on_bind, h, on_changeSettings_of_unknown hdone hkey, reported]
  cases desk.console.print (Report.unknownSetting key).markup <;> rfl

/-- **How a change of settings ends.** All changes are of known settings, or the first one that is
not is reported and nothing is changed. Preferences that can be listed are saved. If their file is
read as it has been written, it asks for the old texts of all settings but those that have been
changed, and the last change of a setting counts; if the file finds too little room, only the
beginning of it is there, and this is reported. Preferences that cannot be listed are lost: their
file is emptied, and there is no exit code. Neither is there one if the key that is unknown closes a
tag that is not open. -/
theorem on_settings_changes (request : SettingsRequest) (desk : Desk)
    (hconsole : desk.console.Documented) (hcodec : desk.codec.Documented)
    (hopen : Store.opened desk.codec d location = (desk.disk, .ok (store, why)))
    (hwritable : ∃ l, desk.disk.openAt store.file = .ok l)
    (hreadable : desk.disk.Readable store.file) (hchanges : request.changes ≠ []) :
    (Known request.changes → ∀ old, store.listed = some old →
      let changed := store.preferences.changedBy request.changes
      let content := (changed.fileText desk.codec).toUTF8
      (∃ left, desk.disk.writeAt store.file content = (left, .ok ()) ∧
        (settings store request).on desk =
          reported { desk with disk := left } (.preferencesSaved store.file) success ∧
        (IsLiteral store.file.toString.toList →
          ((settings store request).on desk).1 = .ok success) ∧
        (desk.codec.ReadsBack changed.pairs →
          ∃ again, Store.opened desk.codec left location = (left, .ok (again, none)) ∧
            again.file = store.file ∧ again.listed = some (updated request.changes old))) ∨
      ∃ left cause, desk.disk.writeAt store.file content = (left, .error cause) ∧
        (∃ size < content.size,
          left.look store.file = .ok (some (.file (content.extract 0 size)))) ∧
        (settings store request).on desk =
          reported { desk with disk := left } (.preferencesNotSaved cause) success) ∧
    (Known request.changes → store.listed = none →
      ∃ left, left.look store.file = .ok (some (.file .empty)) ∧
        (settings store request).on desk = (.error .unlisted, { desk with disk := left })) ∧
    (¬Known request.changes → ∃ done key text rest,
      request.changes = done ++ (key, text) :: rest ∧ Known done ∧
        (∀ s : Setting, s.key ≠ key) ∧
        (settings store request).on desk = reported desk (.unknownSetting key) failure ∧
        ((settings store request).on desk).2.disk = desk.disk ∧
        (IsLiteral key.toList →
          ((settings store request).on desk).1 = .ok failure ∧
          (desk.console.Fits ("✗ Unknown setting: " ++ key) →
            (settings store request).on desk = (.ok failure,
              { desk with printed := desk.printed ++ ("✗ Unknown setting: " ++ key ++ "\n") }))) ∧
        ∀ before name after, key = before ++ "[/" ++ name ++ "]" ++ after →
          IsLiteral before.toList → IsTagName name → name ≠ Colour.red.tag →
          IsLiteral after.toList →
          ∃ message,
            (settings store request).on desk = (.error (.unshown (.unmatched message)), desk)) := by
  obtain ⟨l, hopened⟩ := hwritable
  refine ⟨?_, ?_, ?_⟩
  · intro hknown old hold changed content
    obtain ⟨hlisted, rfl⟩ := Store.listed_eq_some_iff.mp hold
    have hsaved : (store.changedBy request.changes).saved desk.codec desk.disk =
        desk.disk.writeAt store.file content := by
      rw [Store.saved, Store.changedBy, if_pos hlisted]
    rw [on_settings_of_known hchanges hknown]
    rcases Disk.writeAt_of_openAt hopened content with
      ⟨left, hwrite⟩ | ⟨left, why, hwrite, hpart⟩
    · have hchanged : (store.changedBy request.changes).isListed = true := hlisted
      have hend := on_saveStore_of_listed hchanged (hsaved.trans hwrite)
      refine .inl ⟨left, hwrite, hend, ?_, ?_⟩
      · intro hpath
        have hleft : ({ desk with disk := left } : Desk).console.Documented := hconsole
        obtain ⟨lines, hlines⟩ := reported_of_isLiteral success hleft
          (r := .preferencesSaved store.file) hpath
        rw [hend]
        exact congrArg Prod.fst hlines
      · intro hyaml
        refine ⟨_, Store.opened_writeAt hcodec hopen hwrite hreadable hyaml, rfl, ?_⟩
        rw [← pairs_changedBy hknown]
        rfl
    · have hend := on_saveStore_of_error (hsaved.trans hwrite) (by simp)
      exact .inr ⟨left, _, hwrite, hpart, hend⟩
  · intro hknown hold
    have hlisted : store.isListed = false := Store.listed_eq_none_iff.mp hold
    have hsaved : (store.changedBy request.changes).saved desk.codec desk.disk =
        (desk.disk.put l (.file .empty), .ok ()) := by
      rw [Store.saved, Store.changedBy, hlisted]
      exact Disk.writeAt_empty hopened
    rw [on_settings_of_known hchanges hknown]
    exact ⟨_, Disk.look_put_of_openAt hopened _, on_saveStore_of_unlisted hlisted hsaved⟩
  · intro hunknown
    obtain ⟨done, key, text, rest, hsplit, hdone, hkey⟩ := exists_first_unknown hunknown
    have hend := on_settings_of_unknown hsplit hdone hkey store desk
    refine ⟨done, key, text, rest, hsplit, hdone, hkey, hend, ?_, ?_, ?_⟩
    · rw [hend, disk_reported]
    · intro hliteral
      obtain ⟨lines, hlines⟩ := reported_of_isLiteral failure hconsole
        (r := .unknownSetting key) hliteral
      rw [hend]
      exact ⟨congrArg Prod.fst hlines,
        reported_of_fits hconsole (r := .unknownSetting key) hliteral⟩
    · intro before name after hwords hbefore hname hne hafter
      rw [hend]
      exact reported_of_closing hconsole (r := .unknownSetting key) hwords hbefore hname hne hafter

/-- The usual preferences, and no file for them yet. -/
def usualStore : Store :=
  ⟨⟨0, ["c.yaml"]⟩, {}, true⟩

/-- A desk with an empty disk. -/
def emptyDesk : Desk :=
  .standard 80 {}

/-- A license is saved, even one that looks like a truth value, but not with an unknown setting. -/
theorem on_settings_changes_license :
    (((settings usualStore ⟨[("license", "yes")], false⟩).on emptyDesk).1 = .ok success ∧
      ∃ left again, Store.opened Yaml.codec left ⟨0, ["c.yaml"]⟩ = (left, .ok (again, none)) ∧
        again.listed = some (updated [("license", "yes")] ({} : Preferences).pairs)) ∧
    (settings usualStore ⟨[("license", "yes"), ("colour", "blue")], false⟩).on emptyDesk =
      (.ok failure, { emptyDesk with printed := "✗ Unknown setting: colour\n" }) := by
  have hopen : Store.opened emptyDesk.codec {} ⟨0, ["c.yaml"]⟩ =
      (emptyDesk.disk, .ok (usualStore, none)) := rfl
  have hconsole : emptyDesk.console.Documented := Terminal.documented_console _
  have hcodec : emptyDesk.codec.Documented := Yaml.documented_codec
  have hwritable : ∃ l, emptyDesk.disk.openAt usualStore.file = .ok l := ⟨_, rfl⟩
  have hreadable : emptyDesk.disk.Readable usualStore.file := fun _ _ => rfl
  have hknown : Known [("license", "yes")] := by
    intro change hchange
    obtain rfl := List.mem_singleton.mp hchange
    exact ⟨.license, rfl⟩
  have hunknown : ¬Known [("license", "yes"), ("colour", "blue")] := by
    intro h
    obtain ⟨s, hs⟩ := h ("colour", "blue") (by simp)
    cases s <;> exact absurd hs (by decide)
  have hyaml : Yaml.codec.ReadsBack
      (usualStore.preferences.changedBy [("license", "yes")]).pairs :=
    ⟨_, by decide +kernel, (Yaml.sorted_perm _).map _⟩
  refine ⟨?_, ?_⟩
  · obtain ⟨hsaved, -, -⟩ := on_settings_changes ⟨[("license", "yes")], false⟩ emptyDesk hconsole
      hcodec hopen hwritable hreadable (by simp)
    rcases hsaved hknown _ rfl with ⟨left, -, -, hcode, hagain⟩ | ⟨left, cause, hwrite, -⟩
    · obtain ⟨again, hopened, -, hlisted⟩ := hagain hyaml
      exact ⟨hcode (by decide), left, again, hopened, hlisted⟩
    · -- there is room for all
      cases (Prod.mk.inj hwrite).2
  · obtain ⟨-, -, hrefused⟩ := on_settings_changes
      ⟨[("license", "yes"), ("colour", "blue")], false⟩ emptyDesk hconsole hcodec hopen hwritable
      hreadable (by simp)
    obtain ⟨done, key, text, rest, hsplit, -, hkey, -, -, hend, -⟩ := hrefused hunknown
    -- the first change is of a setting, so that it is the second one that is reported
    obtain rfl : key = "colour" := by
      rcases done with _ | ⟨first, _ | ⟨second, done⟩⟩
      · obtain ⟨hlicense, -⟩ := List.cons.inj hsplit
        exact absurd (congrArg Prod.fst hlicense) (hkey .license)
      · obtain ⟨-, hlast⟩ := List.cons.inj hsplit
        exact (congrArg Prod.fst (List.cons.inj hlast).1).symm
      · simp at hsplit
    exact (hend (by decide)).2 ⟨by decide +kernel, by decide +kernel⟩

end Action

end ExploitReplay
