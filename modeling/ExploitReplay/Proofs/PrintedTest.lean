import ExploitReplay.CommandLine.Standard
import ExploitReplay.Proofs.CompileCommand
import ExploitReplay.Proofs.Console.Terminal
import ExploitReplay.Proofs.Disk

/-!
# Tests that are printed and written

A test is printed as it would be written. It is not the only text on the console: the preferences
may have been passed over, and the name of the sequence file may be unusual. What is said of them
comes first, so that exactly the rest of what is printed is the text in a file.

## Main definitions

* `CompileRequest.toConsole`, `CompileRequest.toFile`: the request for a test that is printed, and
  for the same test in a file
* `Action.opened d made notice`: the desk when the preferences have been opened

## Main results

* `TestFile.look_write`: a test that has been written is in its file
* `Action.printed_after_notices`: what is printed is what is written, after the notices
-/

namespace ExploitReplay

open Preferences (Store)
open Markup (IsLiteral)

/-- The request for the same test on the console. -/
def CompileRequest.toConsole (request : CompileRequest) : CompileRequest :=
  { request with output := .unsaid, save := false }

/-- The request for the same test in a file. -/
def CompileRequest.toFile (request : CompileRequest) (output : String) : CompileRequest :=
  { request with output := .named output }

/-- **A test that has been written is in its file.** -/
theorem TestFile.look_write {d left : Disk} {source : String} {output file : Path}
    (h : TestFile.write d source output = (left, .ok file)) :
    left.look file = .ok (some (.file source.toUTF8)) := by
  unfold TestFile.write at h
  cases hpath : TestFile.pathFor d output with
  | error cause => simp [hpath] at h
  | ok place =>
    rcases hmade : d.makeDirectories place.parent with ⟨made, cause | _⟩
    · simp [hpath, hmade] at h
    · rcases hwrite : made.writeAt place source.toUTF8 with ⟨written, cause | _⟩
      · simp only [hpath, hmade, hwrite, Prod.mk.injEq, reduceCtorEq, and_false] at h
      · simp only [hpath, hmade, hwrite, Prod.mk.injEq, Except.ok.injEq] at h
        obtain ⟨rfl, rfl⟩ := h
        exact Disk.look_writeAt hwrite

namespace Action

variable {d p left : Desk} {made : Disk} {preferences : Option String} {details : CompileRequest}
  {store : Store} {why : Option Store.Unread} {notice source : String}

/-! ### The whole command -/

/-- Where the preferences of a command line are. -/
def locationFor (preferences : Option String) : Path :=
  Path.ofString ((filled preferences).getD usualLocation)

/-- The desk when the preferences have been opened. -/
def opened (d : Desk) (made : Disk) (notice : String) : Desk :=
  { d with disk := made, printed := d.printed ++ notice }

/-- A command goes on with the preferences that it finds. -/
theorem on_ofRequest (hopen : Store.opened d.codec d.disk (locationFor preferences) =
      (made, .ok (store, why)))
    (hnotice : openingNotice d.console why = .ok notice) (details : CompileRequest) :
    (ofRequest preferences (.compile details)).on d =
      (compile store details).on (opened d made notice) := by
  rw [locationFor] at hopen
  rw [ofRequest, on_bind, on_openStore, hopen]
  dsimp only
  rw [hnotice]
  rfl

/-- A command that ends well has found preferences. -/
theorem exists_opened_of_success
    (h : (ofRequest preferences (.compile details)).on d = (.ok success, left)) :
    ∃ made store why notice,
      Store.opened d.codec d.disk (locationFor preferences) = (made, .ok (store, why)) ∧
        openingNotice d.console why = .ok notice := by
  rcases hopen : Store.opened d.codec d.disk (locationFor preferences) with
    ⟨made, cause | ⟨store, why⟩⟩
  · rw [locationFor] at hopen
    rw [ofRequest, on_bind, on_openStore, hopen] at h
    cases h
  · refine ⟨made, store, why, ?_⟩
    cases hnotice : openingNotice d.console why with
    | ok notice => exact ⟨notice, rfl, rfl⟩
    | error cause =>
      rw [locationFor] at hopen
      rw [ofRequest, on_bind, on_openStore, hopen] at h
      dsimp only at h
      rw [hnotice] at h
      cases h

/-- Something is said of preferences exactly if they have been passed over. -/
theorem openingNotice_eq_empty_iff {c : Console} (hconsole : c.Documented)
    (h : openingNotice c why = .ok notice) : notice = "" ↔ why = none := by
  cases why with
  | none =>
    obtain rfl := Except.ok.inj h
    simp
  | some cause =>
    obtain ⟨lines, rfl⟩ := hconsole.ended _ notice h
    simp [String.append_eq_empty_iff]

/-! ### Writing a test -/

/-- A test that can be written is reported. -/
theorem on_writeTest_ok {output file : Path}
    (h : TestFile.write d.disk source output = (made, .ok file)) :
    (writeTest source output).on d =
      reported { d with disk := made } (.testWritten file) success := by
  rw [writeTest, on_bind, on_get]
  dsimp only
  rw [h]
  dsimp only
  rw [on_bind, on_setDisk]
  exact on_report_pure

/-- A command that ends well has written its test. -/
theorem exists_file_of_success {output : Path}
    (h : (writeTest source output).on d = (.ok success, left)) :
    ∃ file, TestFile.write d.disk source output = (left.disk, .ok file) := by
  rcases hwrite : TestFile.write d.disk source output with ⟨made, cause | file⟩
  · exfalso
    rw [writeTest, on_bind, on_get] at h
    dsimp only at h
    rw [hwrite] at h
    dsimp only at h
    rw [on_bind, on_setDisk] at h
    cases eq_of_on_bind_pure h
  · rw [on_writeTest_ok hwrite] at h
    have hdisk := congrArg (fun (ending : Except Interruption ExitCode × Desk) => ending.2.disk) h
    rw [disk_reported] at hdisk
    exact ⟨file, by rw [← hdisk]⟩

/-! ### The same test in two places -/

section

variable {word : String} {exploit : Exploit}
  (hopen : Store.opened d.codec d.disk (locationFor preferences) = (made, .ok (store, why)))
  (hnotice : openingNotice d.console why = .ok notice)
  (hfile : Exploit.ofFile made details.sequenceFile = (word, .ok exploit))
  (hsource : (outcomeFor store details exploit).result = .ok source)

include hopen hnotice hfile hsource

/-- A test on the console comes after the notices. -/
theorem on_toConsole :
    (ofRequest preferences (.compile details.toConsole)).on d =
      (say source >>= fun _ => (pure success : Action ExitCode)).on
        (finished (opened d made notice) word exploit (outcomeFor store details exploit)) := by
  have hplace : ∀ desk, (destinationFor store details.toConsole).on desk =
      (.ok .console, desk) := fun _ => rfl
  have hread : Exploit.ofFile (opened d made notice).disk details.toConsole.sequenceFile =
      (word, .ok exploit) := hfile
  have hsame : (outcomeFor store details.toConsole exploit).result = .ok source := hsource
  rw [on_ofRequest hopen hnotice, on_compile_of_exploit (hplace _) hread, hsame]
  rfl

/-- The same test is written to a file. -/
theorem on_toFile (output : String) :
    (ofRequest preferences (.compile (details.toFile output))).on d =
      (writeTest source (Path.ofString output)).on
        (finished (opened d made notice) word exploit (outcomeFor store details exploit)) := by
  have hplace : ∀ desk, (destinationFor store (details.toFile output)).on desk =
      (.ok (.file (Path.ofString output)), desk) := fun _ => rfl
  have hread : Exploit.ofFile (opened d made notice).disk (details.toFile output).sequenceFile =
      (word, .ok exploit) := hfile
  have hsame : (outcomeFor store (details.toFile output) exploit).result = .ok source := hsource
  rw [on_ofRequest hopen hnotice, on_compile_of_exploit (hplace _) hread, hsame]
  rfl

end

/-- **What is printed is what is written, after the notices.** A command that prints a test says
something of preferences that it has passed over, and of the name of a sequence file with another
suffix. The rest of what it prints is the text that the same command with a place for the test
writes there: it writes this text if it can write at all, and does not end well otherwise. Nothing
is said exactly if the preferences have not been passed over and the sequence file has the usual
suffix. -/
theorem printed_after_notices (hconsole : d.console.Documented)
    (h : (ofRequest preferences (.compile details.toConsole)).on d = (.ok success, p)) :
    ∃ made store why notice source,
      Store.opened d.codec d.disk (locationFor preferences) = (made, .ok (store, why)) ∧
      openingNotice d.console why = .ok notice ∧
      p.disk = made ∧
      p.printed = d.printed ++
        (notice ++ Exploit.extensionNotice (Path.ofString details.sequenceFile)) ++ source ∧
      (notice ++ Exploit.extensionNotice (Path.ofString details.sequenceFile) = "" ↔
        why = none ∧ (Path.ofString details.sequenceFile).suffix.toLower = ".json") ∧
      ∀ output,
        (∀ left file, TestFile.write made source (Path.ofString output) = (left, .ok file) →
          ((ofRequest preferences (.compile (details.toFile output))).on d).2.disk = left ∧
            left.look file = .ok (some (.file source.toUTF8))) ∧
        ∀ w, (ofRequest preferences (.compile (details.toFile output))).on d = (.ok success, w) →
          ∃ file, TestFile.write made source (Path.ofString output) = (w.disk, .ok file) := by
  obtain ⟨made, store, why, notice, hopen, hnotice⟩ := exists_opened_of_success h
  have hplace : ∀ desk, (destinationFor store details.toConsole).on desk =
      (.ok .console, desk) := fun _ => rfl
  obtain ⟨word, exploit, source, hfile, hsource⟩ :=
    exists_source_of_success (hplace _) ((on_ofRequest hopen hnotice _).symm.trans h)
  have hfile : Exploit.ofFile made details.sequenceFile = (word, .ok exploit) := hfile
  have hsource : (outcomeFor store details exploit).result = .ok source := hsource
  obtain rfl := Exploit.eq_extensionNotice_of_ofFile hfile
  rw [on_toConsole hopen hnotice hfile hsource] at h
  obtain rfl := (Prod.mk.inj h).2
  refine ⟨made, store, why, notice, source, hopen, hnotice, rfl, ?_, ?_, ?_⟩
  · simp only [finished, opened, String.append_assoc]
  · rw [String.append_eq_empty_iff, openingNotice_eq_empty_iff hconsole hnotice,
      Exploit.extensionNotice_eq_empty_iff]
    rfl
  · intro output
    have hrun := on_toFile hopen hnotice hfile hsource output
    -- nothing has changed on the disk since the preferences have been opened
    generalize hready : finished (opened d made notice) _ exploit _ = ready at hrun
    obtain rfl : ready.disk = made := by
      rw [← hready]
      rfl
    refine ⟨?_, ?_⟩
    · intro left file hwrite
      refine ⟨?_, TestFile.look_write hwrite⟩
      rw [hrun, on_writeTest_ok hwrite, disk_reported]
    · intro w hw
      rw [hrun] at hw
      exact exists_file_of_success hw

/-! ### An empty sequence -/

/-- A desk with an empty sequence in a file of some name. -/
def emptySequence (name : String) : Desk :=
  .standard 80 { entries := [([name], .file "[]".toUTF8)] }

/-- The usual preferences, from a file that is not there. -/
def noStore : Store :=
  ⟨⟨0, ["c.yaml"]⟩, {}, true⟩

/-- The test of an empty sequence. -/
theorem exists_source_noSteps (name : String) :
    ∃ source, (outcomeFor noStore { sequenceFile := name } { steps := [] }).result = .ok source :=
  ⟨_, rfl⟩

/-- What is printed of an empty sequence is what is written, if its file has the usual suffix. -/
theorem printed_after_notices_usualSuffix :
    ∃ p, (ofRequest (some "c.yaml") (.compile
        (CompileRequest.toConsole { sequenceFile := "s.json" }))).on (emptySequence "s.json") =
          (.ok success, p) ∧
      ((ofRequest (some "c.yaml") (.compile
        (CompileRequest.toFile { sequenceFile := "s.json" } "T.t.sol"))).on
          (emptySequence "s.json")).2.disk.look (Path.ofString "T.t.sol") =
            .ok (some (.file p.printed.toUTF8)) := by
  have hopen : Store.opened (emptySequence "s.json").codec (emptySequence "s.json").disk
      (locationFor (some "c.yaml")) =
      ((emptySequence "s.json").disk, .ok (noStore, none)) := rfl
  have hfile : Exploit.ofFile (emptySequence "s.json").disk "s.json" =
      (Exploit.extensionNotice (Path.ofString "s.json"), .ok { steps := [] }) := rfl
  obtain ⟨source, hsource⟩ := exists_source_noSteps "s.json"
  have hrun := on_toConsole hopen rfl hfile hsource
  obtain ⟨made, store, why, notice, text, hopened, -, -, hprinted, hnothing, hwritten⟩ :=
    printed_after_notices (Terminal.documented_console _) hrun
  obtain ⟨rfl, hstore⟩ := Prod.mk.inj (hopen.symm.trans hopened)
  obtain ⟨-, rfl⟩ := Prod.mk.inj (Except.ok.inj hstore)
  refine ⟨_, hrun, ?_⟩
  rw [hprinted, hnothing.mpr ⟨rfl, by decide +kernel⟩]
  obtain ⟨hdisk, hlook⟩ := (hwritten "T.t.sol").1 _ (Path.ofString "T.t.sol") rfl
  rw [hdisk, hlook]
  rfl

/-- **What is printed is not what is written** if the file of the sequence has another suffix: what
is said of its name is printed too. -/
theorem printed_ne_written_otherSuffix :
    ∃ p w source, (ofRequest (some "c.yaml") (.compile
        (CompileRequest.toConsole { sequenceFile := "s.txt" }))).on (emptySequence "s.txt") =
          (.ok success, p) ∧
      (ofRequest (some "c.yaml") (.compile
        (CompileRequest.toFile { sequenceFile := "s.txt" } "T.t.sol"))).on
          (emptySequence "s.txt") = (.ok success, w) ∧
      w.disk.look (Path.ofString "T.t.sol") = .ok (some (.file source.toUTF8)) ∧
      p.printed ≠ source := by
  have hopen : Store.opened (emptySequence "s.txt").codec (emptySequence "s.txt").disk
      (locationFor (some "c.yaml")) =
      ((emptySequence "s.txt").disk, .ok (noStore, none)) := rfl
  have hfile : Exploit.ofFile (emptySequence "s.txt").disk "s.txt" =
      (Exploit.extensionNotice (Path.ofString "s.txt"), .ok { steps := [] }) := rfl
  obtain ⟨source, hsource⟩ := exists_source_noSteps "s.txt"
  have hprinted := on_toConsole hopen rfl hfile hsource
  have hwritten := on_toFile hopen rfl hfile hsource "T.t.sol"
  generalize hready : finished (opened (emptySequence "s.txt") _ _) _ _ _ = ready
    at hprinted hwritten
  have hwrite : ∃ left, TestFile.write ready.disk source (Path.ofString "T.t.sol") =
      (left, .ok (Path.ofString "T.t.sol")) := by
    rw [← hready]
    exact ⟨_, rfl⟩
  obtain ⟨left, hwrite⟩ := hwrite
  have hconsole : ({ ready with disk := left } : Desk).console.Documented := by
    rw [← hready]
    exact Terminal.documented_console _
  have hpath : IsLiteral (Report.testWritten (Path.ofString "T.t.sol")).words.toList := by
    decide
  obtain ⟨lines, hlines⟩ := reported_of_isLiteral success hconsole hpath
  rw [on_writeTest_ok hwrite, hlines] at hwritten
  refine ⟨_, _, source, hprinted, hwritten, TestFile.look_write hwrite, ?_⟩
  -- the notice comes in front of the test
  have hnotice : ready.printed = Exploit.extensionNotice (Path.ofString "s.txt") := by
    rw [← hready]
    exact String.empty_append
  have hsaid : Exploit.extensionNotice (Path.ofString "s.txt") ≠ "" := by
    rw [Ne, Exploit.extensionNotice_eq_empty_iff]
    decide +kernel
  intro hsame
  have hfront : ready.printed ++ source = "" ++ source := hsame.trans String.empty_append.symm
  rw [hnotice, String.append_left_inj] at hfront
  exact hsaid hfront

end Action

end ExploitReplay
