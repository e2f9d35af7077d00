import ExploitReplay.Proofs.Disk
import ExploitReplay.Proofs.Preferences.Saving

/-!
# The exit code of a change of settings

Preferences that cannot be saved are reported, and the command goes on as if they had been saved. So
the exit code of a change of known settings, if there is one, is that of success, whether the file
holds the changed preferences or not; only the report tells which. A file that could not be opened
is as it was, and one that found too little room holds only the beginning of the preferences.

## Main definitions

* `Action.Saved store before after`: the preferences are in their file
* `Action.NotSaved store cause before after`: the file could not be written

## Main results

* `Action.on_saveStore_eq_ok_iff`: how the saving of preferences ends with an exit code
* `Action.on_settings_exitCode`: both ends of a change of settings have the same exit code
-/

namespace ExploitReplay

open Preferences (Store Known updated fileText pairs_changedBy ofText_fileText)
open Markup (IsLiteral)

/-! ### Failures of the disk -/

/-- What a failure of the disk says before it names the file. -/
def DiskError.opening (e : DiskError) : String :=
  "[Errno " ++ toString e.cause.code ++ "] " ++ e.cause.message

/-- No tag starts with a capital letter, so that the number of a failure stands for itself. -/
theorem DiskError.isLiteral_opening (e : DiskError) : IsLiteral e.opening.toList := by
  obtain ⟨cause, path⟩ := e
  cases cause with
  | refused why => cases why <;> simp only [opening, Cause.code, Cause.message] <;> decide
  | _ => simp only [opening, Cause.code, Cause.message]; decide

/-- A failure of the disk is literal if the path in it is, or if there is none. -/
theorem DiskError.isLiteral_message {e : DiskError}
    (h : ∀ p, e.path = some p → IsLiteral (Text.quoted p.toString).toList) :
    IsLiteral e.message.toList := by
  have hparts : e.message =
      e.opening ++ (e.path.map fun p => ": " ++ Text.quoted p.toString).getD "" := rfl
  rw [hparts, String.toList_append]
  refine e.isLiteral_opening.append ?_
  cases hpath : e.path with
  | none => exact .nil
  | some p =>
    have hcolon : IsLiteral ": ".toList := by decide
    rw [Option.map_some, Option.getD_some, String.toList_append]
    exact hcolon.append (h p hpath)

namespace Action

variable {store : Store} {cause : DiskError} {desk before after : Desk} {code : ExitCode}

/-! ### Saving preferences -/

/-- The preferences are in their file, and this has been reported. -/
structure Saved (store : Store) (before after : Desk) : Prop where
  listed : store.isListed = true
  written : before.disk.writeAt store.file (store.preferences.fileText before.codec).toUTF8 =
    (after.disk, .ok ())
  reported : reported { before with disk := after.disk } (.preferencesSaved store.file) success =
    (.ok success, after)

/-- The file of the preferences could not be written, and this has been reported. -/
structure NotSaved (store : Store) (cause : DiskError) (before after : Desk) : Prop where
  failed : store.saved before.codec before.disk = (after.disk, .error cause)
  nameable : cause.cause ≠ .unnameable
  reported : reported { before with disk := after.disk } (.preferencesNotSaved cause) success =
    (.ok success, after)

/-- A command that ends with a report has the exit code that it is given. -/
theorem reported_eq_ok_iff {r : Report} {given : ExitCode} :
    reported desk r given = (.ok code, after) ↔
      code = given ∧ reported desk r given = (.ok given, after) := by
  unfold reported
  cases desk.console.print r.markup with
  | ok line => simp [eq_comm]
  | error cause => simp

theorem disk_of_reported {r : Report} (h : reported desk r code = (.ok code, after)) :
    after.disk = desk.disk := by
  have hdisk : (reported desk r code).2.disk = desk.disk := disk_reported
  rw [h] at hdisk
  exact hdisk

theorem Saved.saved_eq (h : Saved store before after) :
    store.saved before.codec before.disk = (after.disk, .ok ()) := by
  rw [Store.saved, if_pos h.listed]
  exact h.written

/-- Preferences that have been written are reported if they can be listed. -/
theorem saved_iff {left : Disk} (h : store.saved desk.codec desk.disk = (left, .ok ())) :
    Saved store desk after ↔ store.isListed = true ∧
      reported { desk with disk := left } (.preferencesSaved store.file) success =
        (.ok success, after) := by
  constructor
  · intro hyes
    obtain rfl : left = after.disk := (Prod.mk.inj (h.symm.trans hyes.saved_eq)).1
    exact ⟨hyes.listed, hyes.reported⟩
  · rintro ⟨hlisted, hreported⟩
    -- a report leaves the disk as it is
    obtain rfl : after.disk = left := disk_of_reported hreported
    rw [Store.saved, if_pos hlisted] at h
    exact ⟨hlisted, h, hreported⟩

/-- Preferences that could not be written are reported, unless no file has such a name. -/
theorem notSaved_iff {left : Disk}
    (h : store.saved desk.codec desk.disk = (left, .error cause)) :
    (∃ cause, NotSaved store cause desk after) ↔ cause.cause ≠ .unnameable ∧
      reported { desk with disk := left } (.preferencesNotSaved cause) success =
        (.ok success, after) := by
  constructor
  · rintro ⟨other, hno⟩
    obtain ⟨rfl, hcause⟩ := Prod.mk.inj (h.symm.trans hno.failed)
    obtain rfl := Except.error.inj hcause
    exact ⟨hno.nameable, hno.reported⟩
  · rintro ⟨hname, hreported⟩
    obtain rfl : after.disk = left := disk_of_reported hreported
    exact ⟨cause, h, hname, hreported⟩

/-- **Preferences that were not saved** left the disk as it was, or only the beginning of them is in
their file. -/
theorem NotSaved.look (h : NotSaved store cause before after) : after.disk = before.disk ∨
    ∃ size < (store.preferences.fileText before.codec).toUTF8.size,
      after.disk.look store.file = .ok (some (.file
        ((store.preferences.fileText before.codec).toUTF8.extract 0 size))) := by
  have hfailed := h.failed
  unfold Store.saved at hfailed
  rcases Disk.look_of_writeAt_error hfailed with ⟨hsame, -⟩ | ⟨-, size, hsize, hlook⟩
  · exact .inl hsame
  · right
    cases hlisted : store.isListed with
    | true =>
      rw [if_pos hlisted] at hsize hlook
      exact ⟨size, hsize, hlook⟩
    | false =>
      -- there is always room for nothing
      rw [if_neg (by simp [hlisted])] at hsize
      exact absurd hsize (Nat.not_lt_zero size)

/-- What is said of a file that could not be written is literal if its path is. -/
theorem isLiteral_of_saved_error {left : Disk}
    (h : store.saved desk.codec desk.disk = (left, .error cause))
    (hpath : IsLiteral (Text.quoted store.file.toString).toList) :
    IsLiteral (Report.preferencesNotSaved cause).words.toList := by
  refine DiskError.isLiteral_message fun p hp => ?_
  rcases Disk.look_of_writeAt_error h with ⟨-, hfile⟩ | ⟨hnone, -⟩
  · obtain rfl := Option.some.inj (hp.symm.trans hfile)
    exact hpath
  · cases hp.symm.trans hnone

/-- **How the saving of preferences ends with an exit code**: they are in their file, or this could
not be written. -/
theorem on_saveStore_eq_ok_iff :
    (do saveStore store; return success : Action ExitCode).on desk = (.ok code, after) ↔
      code = success ∧ (Saved store desk after ∨ ∃ cause, NotSaved store cause desk after) := by
  rcases hsaved : store.saved desk.codec desk.disk with ⟨left, cause | _⟩
  · have hfailed : ¬Saved store desk after := by
      intro hyes
      cases hsaved.symm.trans hyes.saved_eq
    rw [or_iff_right hfailed, notSaved_iff hsaved]
    by_cases hname : cause.cause = .unnameable
    · rw [on_saveStore, hsaved]
      dsimp only
      rw [if_pos hname]
      refine iff_of_false (fun hend => ?_) fun hend => hend.2.1 hname
      cases (Prod.mk.inj hend).1
    · rw [on_saveStore_of_error hsaved hname, reported_eq_ok_iff, and_iff_right hname]
  · have hwritten : ¬∃ cause, NotSaved store cause desk after := by
      rintro ⟨cause, hno⟩
      cases hsaved.symm.trans hno.failed
    rw [or_iff_left hwritten, saved_iff hsaved]
    cases hlisted : store.isListed with
    | true =>
      rw [on_saveStore_of_listed hlisted hsaved, reported_eq_ok_iff, and_iff_right rfl]
    | false =>
      -- the file has been emptied, and there is no exit code
      rw [on_saveStore_of_unlisted hlisted hsaved]
      refine iff_of_false (fun hend => ?_) fun hend => by cases hend.2.1
      cases (Prod.mk.inj hend).1

/-! ### Changes of settings -/

/-- **Both ends of a change of known settings have the same exit code.** If there is one, it is that
of success, and the changed preferences are in their file, or this could not be written: the disk is
as it was, or the file holds no more than the beginning of what it should. In a file that has been
written all settings have their old texts but those that have been changed, and the file asks for
them if it is read as it has been written. A file that could not be written is reported, whatever
the cause is, if its path is literal. -/
theorem on_settings_exitCode {request : SettingsRequest} (hchanges : request.changes ≠ [])
    (hknown : Known request.changes) (store : Store) (desk : Desk)
    (hconsole : desk.console.Documented) (hcodec : desk.codec.Documented) :
    (∀ code after, (settings store request).on desk = (.ok code, after) ↔
      code = success ∧ (Saved (store.changedBy request.changes) desk after ∨
        ∃ cause, NotSaved (store.changedBy request.changes) cause desk after)) ∧
    (∀ after, Saved (store.changedBy request.changes) desk after →
      let changed := (store.changedBy request.changes).preferences
      after.disk.look store.file = .ok (some (.file (changed.fileText desk.codec).toUTF8)) ∧
        changed.pairs = updated request.changes store.preferences.pairs ∧
        (desk.codec.ReadsBack changed.pairs →
          Store.ofText desk.codec (changed.fileText desk.codec) =
            .ok { preferences := changed })) ∧
    (∀ cause after, NotSaved (store.changedBy request.changes) cause desk after →
      after.disk = desk.disk ∨
        ∃ size < ((store.changedBy request.changes).preferences.fileText desk.codec).toUTF8.size,
          after.disk.look store.file = .ok (some (.file
            (((store.changedBy request.changes).preferences.fileText desk.codec).toUTF8.extract
              0 size)))) ∧
    (∀ left cause, (store.changedBy request.changes).saved desk.codec desk.disk =
        (left, .error cause) → cause.cause ≠ .unnameable →
      IsLiteral (Text.quoted store.file.toString).toList →
      (∃ lines, (settings store request).on desk =
        (.ok success, { desk with disk := left, printed := desk.printed ++ lines })) ∧
      let line := "✗ Failed to save config: " ++ cause.message
      (desk.console.Fits line → (settings store request).on desk =
        (.ok success, { desk with disk := left, printed := desk.printed ++ (line ++ "\n") }))) := by
  have hends := on_settings_of_known hchanges hknown store desk
  rw [hends]
  refine ⟨fun code after => on_saveStore_eq_ok_iff, ?_, ?_, ?_⟩
  · intro after hyes
    exact ⟨Disk.look_writeAt hyes.written, pairs_changedBy hknown _, ofText_fileText hcodec⟩
  · exact fun cause after hno => hno.look
  · intro left cause hfailed hname hpath
    have hwords := isLiteral_of_saved_error hfailed hpath
    have hleft : ({ desk with disk := left } : Desk).console.Documented := hconsole
    have hend := on_saveStore_of_error hfailed hname
    refine ⟨?_, ?_⟩
    · obtain ⟨lines, hlines⟩ := reported_of_isLiteral success hleft hwords
      exact ⟨lines, hend.trans hlines⟩
    · intro line hfits
      exact hend.trans (reported_of_fits hleft hwords hfits)

/-- A desk with a directory in the place of the preferences. -/
def occupiedDesk : Desk :=
  .standard 80 { entries := [(["c.yaml"], .directory)] }

/-- A license is saved, and reported as not saved if there is a directory in the place of its file;
the exit code is that of success both times. -/
theorem on_settings_exitCode_license :
    let request : SettingsRequest := ⟨[("license", "MIT")], false⟩
    (∃ after, (settings usualStore request).on emptyDesk = (.ok success, after) ∧
      after.disk.look usualStore.file = .ok (some (.file
        (({ license := "MIT" } : Preferences).fileText Yaml.codec).toUTF8))) ∧
    (settings usualStore request).on occupiedDesk = (.ok success, { occupiedDesk with
      printed := "✗ Failed to save config: [Errno 21] Is a directory: 'c.yaml'\n" }) := by
  intro request
  have hchanges : request.changes ≠ [] := by simp [request]
  have hknown : Known request.changes := by
    intro change hchange
    obtain rfl := List.mem_singleton.mp hchange
    exact ⟨.license, rfl⟩
  refine ⟨?_, ?_⟩
  · have hconsole : emptyDesk.console.Documented := Terminal.documented_console _
    obtain ⟨hends, hsaved, -, -⟩ :=
      on_settings_exitCode hchanges hknown usualStore emptyDesk hconsole Yaml.documented_codec
    obtain ⟨left, hleft⟩ : ∃ left, emptyDesk.disk.writeAt usualStore.file
        ((usualStore.changedBy request.changes).preferences.fileText emptyDesk.codec).toUTF8 =
          (left, .ok ()) := ⟨_, rfl⟩
    have hshown : ({ emptyDesk with disk := left } : Desk).console.Documented := hconsole
    obtain ⟨lines, hlines⟩ := reported_of_isLiteral success hshown
      (r := .preferencesSaved usualStore.file) (by decide)
    have hyes : Saved (usualStore.changedBy request.changes) emptyDesk
        { emptyDesk with disk := left, printed := emptyDesk.printed ++ lines } :=
      ⟨rfl, hleft, hlines⟩
    obtain ⟨hfile, -, -⟩ := hsaved _ hyes
    exact ⟨_, (hends _ _).mpr ⟨rfl, .inl hyes⟩, hfile⟩
  · obtain ⟨-, -, -, hfailed⟩ := on_settings_exitCode hchanges hknown usualStore occupiedDesk
      (Terminal.documented_console _) Yaml.documented_codec
    exact (hfailed _ ⟨.isADirectory, usualStore.file⟩ rfl (by decide) (by decide)).2
      ⟨by decide +kernel, by decide +kernel⟩

end Action

end ExploitReplay
