import ExploitReplay.Proofs.Reporting

/-!
# The stages of a compilation

A command that compiles a sequence file opens the preferences, reads the file, and makes a test of
what it reads. Each stage goes on with what the one before it has left, or ends the command.

## Main definitions

* `Action.openingNotice c why`: what is said of preferences that have been passed over
* `Action.outcomeFor store request exploit`: what becomes of the exploit in a file
* `Action.finished d notice exploit outcome`: the desk when the exploit has been compiled

## Main results

* `on_openStore`: what the opening of the preferences leaves
* `on_readSequence_ok`, `ofFile_of_on_readSequence`: an exploit is read exactly if the file has one
* `on_compile_of_exploit`: how a command ends that is given a file with an exploit
* `on_compile_of_unread`: how one ends that is given a file without one, for a reason that is told
-/

namespace ExploitReplay

namespace Exploit

/-- Of a file with an exploit only its name is said anything. -/
theorem eq_extensionNotice_of_ofFile {disk : Disk} {name notice : String} {exploit : Exploit}
    (h : ofFile disk name = (notice, .ok exploit)) :
    notice = extensionNotice (Path.ofString name) := by
  unfold ofFile at h
  dsimp only at h
  split at h
  · cases h
  · cases h
  · cases h
  · exact (Prod.mk.inj h).1.symm

theorem extensionNotice_eq_empty_iff {file : Path} :
    extensionNotice file = "" ↔ file.suffix.toLower = fileSuffix := by
  unfold extensionNotice
  by_cases h : file.suffix.toLower = fileSuffix
  · simp [h]
  · simp [h]

end Exploit

namespace Action

open Preferences (Store)

variable {d left : Desk} {store : Store} {request : CompileRequest} {destination : Destination}
  {name notice : String} {exploit : Exploit} {cause : Exploit.Unread} {r : Report}

/-! ### The preferences -/

/-- What is said of preferences that have been passed over. -/
def openingNotice (c : Console) : Option Store.Unread → Except Console.Fault String
  | none => .ok ""
  | some why => c.print (Report.preferencesUnread why).markup

/-- **What the opening of the preferences leaves.** -/
theorem on_openStore (location : String) (d : Desk) :
    (openStore location).on d =
      match Store.opened d.codec d.disk (Path.ofString location) with
      | (made, .error cause) => (.error (.unusable cause), { d with disk := made })
      | (made, .ok (store, why)) =>
        match openingNotice d.console why with
        | .ok notice => (.ok store, { d with disk := made, printed := d.printed ++ notice })
        | .error cause => (.error (.unshown cause), { d with disk := made }) := by
  rw [openStore, on_bind, on_get]
  dsimp only
  rw [on_bind, on_setDisk]
  dsimp only
  rcases Store.opened d.codec d.disk (Path.ofString location) with ⟨made, cause | ⟨store, _ | why⟩⟩
  · rfl
  · simp [openingNotice]
  · dsimp only [openingNotice]
    rw [on_report_bind]
    cases d.console.print (Report.preferencesUnread why).markup <;> rfl

/-! ### The file -/

/-- A file with an exploit is read with a notice about its name, and with warnings. -/
theorem on_readSequence_ok (h : Exploit.ofFile d.disk name = (notice, .ok exploit)) :
    (readSequence name).on d = (.ok (some exploit),
      { d with printed := d.printed ++ notice, warnings := d.warnings ++ exploit.warnings }) := by
  rw [readSequence, on_bind, on_get]
  dsimp only
  rw [h]
  dsimp only
  rw [on_bind, on_say]
  rfl

/-- A file without an exploit is reported for a reason that has a report. -/
theorem on_readSequence_reported (h : Exploit.ofFile d.disk name = (notice, .error cause))
    (hreached : ∀ e, cause ≠ .unreachable e) (hreport : unreadReport? name cause = some r) :
    (readSequence name).on d =
      match d.console.print r.markup with
      | .ok line => (.ok none, { d with printed := d.printed ++ notice ++ line })
      | .error u => (.error (.unshown u), { d with printed := d.printed ++ notice }) := by
  rw [readSequence, on_bind, on_get]
  dsimp only
  rw [h]
  dsimp only
  rw [on_bind, on_say]
  cases cause with
  | unreachable e => exact absurd rfl (hreached e)
  | _ =>
    dsimp only
    rw [hreport]
    dsimp only
    rw [on_report_bind]
    cases d.console.print r.markup <;> rfl

/-- An action gives nothing but what it ends with. -/
theorem eq_of_on_bind_pure {α β : Type} {a : Action α} {x y : β}
    (h : (a >>= fun _ => (pure x : Action β)).on d = (.ok y, left)) : x = y := by
  rw [on_bind] at h
  rcases ha : a.on d with ⟨u | u, between⟩
  · rw [ha] at h
    cases h
  · rw [ha] at h
    exact Except.ok.inj (Prod.mk.inj h).1

/-- Nothing else is read from a file than the exploit that it has. -/
theorem ofFile_of_on_readSequence (h : (readSequence name).on d = (.ok (some exploit), left)) :
    ∃ notice, Exploit.ofFile d.disk name = (notice, .ok exploit) := by
  rcases hfile : Exploit.ofFile d.disk name with ⟨notice, cause | found⟩
  · -- without an exploit in the file the command ends, or goes on without one
    exfalso
    rw [readSequence, on_bind, on_get] at h
    dsimp only at h
    rw [hfile] at h
    dsimp only at h
    rw [on_bind, on_say] at h
    cases cause with
    | unreachable e => cases eq_of_on_bind_pure h
    | _ =>
      dsimp only at h
      split at h
      · cases eq_of_on_bind_pure h
      · cases h
  · rw [on_readSequence_ok hfile] at h
    obtain ⟨hfound, -⟩ := Prod.mk.inj h
    obtain rfl := Option.some.inj (Except.ok.inj hfound)
    exact ⟨notice, rfl⟩

/-! ### The exploit -/

/-- What becomes of the exploit in a file. -/
def outcomeFor (store : Store) (request : CompileRequest) (exploit : Exploit) :
    Outcome Context String :=
  ExploitReplay.compile (templateFor store request) (fundingFor exploit.funding request)
    exploit.steps {}

/-- The desk when the exploit has been compiled. -/
def finished (d : Desk) (notice : String) (exploit : Exploit) (outcome : Outcome Context String) :
    Desk :=
  { d with
    printed := d.printed ++ notice
    warnings := d.warnings ++ exploit.warnings ++ outcome.warnings }

/-- What a command does with what has become of an exploit. -/
def finish (result : Except Failure String) (destination : Destination) : Action ExitCode :=
  match result, destination with
  | .error cause, _ => do
    report (.notCompiled cause)
    return failure
  | .ok source, .console => do
    say source
    return success
  | .ok source, .file place => writeTest source place
  | .ok _, .nowhere => throw .noPlace

/-- **How a command ends that is given a file with an exploit.** -/
theorem on_compile_of_exploit
    (hdestination : (destinationFor store request).on d = (.ok destination, d))
    (hfile : Exploit.ofFile d.disk request.sequenceFile = (notice, .ok exploit)) :
    (compile store request).on d =
      (finish (outcomeFor store request exploit).result destination).on
        (finished d notice exploit (outcomeFor store request exploit)) := by
  rw [compile, on_bind, hdestination]
  dsimp only
  rw [on_bind, on_readSequence_ok hfile]
  dsimp only
  rw [on_bind, on_warn]
  rfl

/-- **How a command ends that is given a file without an exploit**, for a reason that is told. -/
theorem on_compile_of_unread
    (hdestination : (destinationFor store request).on d = (.ok destination, d))
    (hfile : Exploit.ofFile d.disk request.sequenceFile = (notice, .error cause))
    (hreached : ∀ e, cause ≠ .unreachable e)
    (hreport : unreadReport? request.sequenceFile cause = some r) :
    (compile store request).on d =
      reported { d with printed := d.printed ++ notice } r failure := by
  rw [compile, on_bind, hdestination]
  dsimp only
  rw [on_bind, on_readSequence_reported hfile hreached hreport, reported]
  cases d.console.print r.markup <;> rfl

/-- A command that ends well has been given a file with an exploit, and a test has been made. -/
theorem exists_source_of_success
    (hdestination : (destinationFor store request).on d = (.ok destination, d))
    (h : (compile store request).on d = (.ok success, left)) :
    ∃ notice exploit source, Exploit.ofFile d.disk request.sequenceFile = (notice, .ok exploit) ∧
      (outcomeFor store request exploit).result = .ok source := by
  have hread : ∃ exploit between,
      (readSequence request.sequenceFile).on d = (.ok (some exploit), between) := by
    rw [compile, on_bind, hdestination] at h
    dsimp only at h
    rw [on_bind] at h
    rcases hread : (readSequence request.sequenceFile).on d with ⟨u | _ | exploit, between⟩
    · rw [hread] at h
      cases h
    · -- without an exploit the exit code is another one
      rw [hread] at h
      cases h
    · exact ⟨exploit, between, rfl⟩
  obtain ⟨exploit, between, hread⟩ := hread
  obtain ⟨notice, hfile⟩ := ofFile_of_on_readSequence hread
  rw [on_compile_of_exploit hdestination hfile] at h
  cases hresult : (outcomeFor store request exploit).result with
  | error cause =>
    rw [hresult] at h
    cases eq_of_on_bind_pure h
  | ok source => exact ⟨notice, exploit, source, hfile, hresult⟩

end Action

end ExploitReplay
