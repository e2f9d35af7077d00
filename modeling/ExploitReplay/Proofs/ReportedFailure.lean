import ExploitReplay.Proofs.CompileCommand
import ExploitReplay.Proofs.RejectedFile

/-!
# Failures that are reported

A file that holds no JSON, one whose document is malformed, and one whose sequence has no test are
reported in words that quote what is in the file. The command fails with its exit code and with these
words if they are literal. They need not be: a tag among them is lost if it opens, and the command
has no exit code at all if it closes another one.

## Main definitions

* `Action.Fails store request disk r`: a sequence file fails for a reason that is reported

## Main results

* `Action.on_compile_fails`: how a command ends that is given such a file
-/

namespace ExploitReplay.Action

open Preferences (Store)
open Markup (IsLiteral IsTagName)

variable {d : Desk} {store : Store} {request : CompileRequest} {destination : Destination}
  {r : Report}

/-- A sequence file fails, and how it is reported. -/
inductive Fails (store : Store) (request : CompileRequest) (disk : Disk) : Report → Prop
  /-- The text of the file breaks a rule on how values are written. -/
  | notJson {bytes : ByteArray} {cause : Json.Unreadable}
      (file : disk.contentAt (Path.ofString request.sequenceFile) = .ok bytes)
      (text : Json.read (Decoding.lenient bytes) = .error cause)
      (formal : cause.reason.isFormal = true) :
      Fails store request disk (.sequenceRejected (Rejection.located
        (some (Path.ofString request.sequenceFile).toString) ("invalid JSON: " ++ cause.message)))
  /-- A part of the document does not have the form that is expected of it. -/
  | malformed {bytes : ByteArray} {document : Json} {place : Rejection.Place}
      {problem : Rejection.Problem}
      (file : disk.contentAt (Path.ofString request.sequenceFile) = .ok bytes)
      (text : Json.read (Decoding.lenient bytes) = .ok document)
      (cause : Exploit.ofJson document = .error (.malformed place problem)) :
      Fails store request disk (.sequenceRejected (Rejection.located place.path problem.message))
  /-- No test can be made of the sequence. -/
  | notCompiled {notice : String} {exploit : Exploit} {cause : Failure}
      (file : Exploit.ofFile disk request.sequenceFile = (notice, .ok exploit))
      (outcome : (outcomeFor store request exploit).result = .error cause) :
      Fails store request disk (.notCompiled cause)

/-- The desk when a report of a failure is due. -/
def alerted (d : Desk) (name : String) (warnings : List Warning) : Desk :=
  { d with
    printed := d.printed ++ Exploit.extensionNotice (Path.ofString name)
    warnings := d.warnings ++ warnings }

/-- **A file that fails is reported**, after what is said of its name. -/
theorem on_compile_of_fails
    (hdestination : (destinationFor store request).on d = (.ok destination, d))
    (h : Fails store request d.disk r) : ∃ warnings, (compile store request).on d =
      reported (alerted d request.sequenceFile warnings) r failure := by
  -- one case for each stage that may fail, and only the last one comes after warnings
  cases h with
  | @notJson bytes cause file text formal =>
    have hfile : Exploit.ofFile d.disk request.sequenceFile =
        (Exploit.extensionNotice (Path.ofString request.sequenceFile),
          .error (.notJson (Path.ofString request.sequenceFile) cause)) := by
      unfold Exploit.ofFile
      dsimp only
      rw [Disk.look_of_contentAt file]
      dsimp only
      rw [file]
      dsimp only
      unfold Exploit.ofBytes
      rw [text]
      simp [formal]
    refine ⟨[], ?_⟩
    rw [on_compile_of_unread hdestination hfile (by simp) rfl, alerted, List.append_nil]
  | @malformed bytes document place problem file text cause =>
    have hfile := ofFile_rejected file text cause
    refine ⟨[], ?_⟩
    rw [on_compile_of_unread hdestination hfile (by simp) rfl, alerted, List.append_nil]
  | @notCompiled notice exploit cause file outcome =>
    obtain rfl := Exploit.eq_extensionNotice_of_ofFile file
    refine ⟨exploit.warnings ++ (outcomeFor store request exploit).warnings, ?_⟩
    rw [on_compile_of_exploit hdestination file, outcome, finish, on_report_pure, finished,
      alerted, List.append_assoc]

/-- **How a command ends that is given a file that fails.** What is said of the name of the file is
followed by the report. If the words of the report are literal, the report is shown and the command
has the exit code of a failure; a report that fits into a line is shown as it is. If there is a tag
among the words that opens, the tag is lost; and if there is one that closes, the command has no exit
code. -/
theorem on_compile_fails (store : Store) (request : CompileRequest) (d : Desk)
    (hconsole : d.console.Documented)
    (hdestination : (destinationFor store request).on d = (.ok destination, d))
    (h : Fails store request d.disk r) :
    ∃ warnings,
      let alert := alerted d request.sequenceFile warnings
      (compile store request).on d = reported alert r failure ∧
      (IsLiteral r.words.toList →
        (∃ lines, (compile store request).on d =
          (.ok failure, { alert with printed := alert.printed ++ lines })) ∧
        (d.console.Fits (r.opening ++ r.words) → (compile store request).on d =
          (.ok failure,
            { alert with printed := alert.printed ++ (r.opening ++ r.words ++ "\n") }))) ∧
      (∀ before name after, r.words = before ++ "[" ++ name ++ "]" ++ after →
        IsLiteral before.toList → IsTagName name → IsLiteral after.toList →
        d.console.Fits (r.opening ++ before ++ after) → (compile store request).on d =
          (.ok failure,
            { alert with printed := alert.printed ++ (r.opening ++ before ++ after ++ "\n") })) ∧
      ∀ before name after, r.words = before ++ "[/" ++ name ++ "]" ++ after →
        IsLiteral before.toList → IsTagName name → name ≠ r.colour.tag → IsLiteral after.toList →
        ∃ message, (compile store request).on d = (.error (.unshown (.unmatched message)), alert)
      := by
  obtain ⟨warnings, hend⟩ := on_compile_of_fails hdestination h
  have halert : (alerted d request.sequenceFile warnings).console.Documented := hconsole
  refine ⟨warnings, hend, ?_, ?_, ?_⟩
  · intro hwords
    rw [hend]
    exact ⟨reported_of_isLiteral failure halert hwords, reported_of_fits halert hwords⟩
  · intro before name after hwords hbefore hname hafter hfits
    rw [hend]
    exact reported_of_opening halert hwords hbefore hname hafter hfits
  · intro before name after hwords hbefore hname hne hafter
    rw [hend]
    exact reported_of_closing halert hwords hbefore hname hne hafter

/-- A desk with empty files whose names look like tags: one that opens, and one in a directory that
closes. -/
def deskWithTags : Desk :=
  .standard 80
    { entries := [(["[x].json"], .file "".toUTF8), (["["], .directory),
        (["[", "x].json"], .file "".toUTF8)] }

/-- A malformed document is told as it is. The name of a file loses what looks like a tag, and
nothing is told if it looks like one that closes. -/
theorem on_compile_fails_tag :
    let store : Store := ⟨Path.ofString "a.yaml", {}, true⟩
    ((compile store { sequenceFile := "a.json" }).on (deskWith "[1]")).1 = .ok failure ∧
    (∃ left, (compile store { sequenceFile := "[x].json" }).on deskWithTags = (.ok failure, left) ∧
      left.printed = "✗ .json: invalid JSON: Expecting value: line 1 column 1 (char 0)\n") ∧
    ∃ cause, ((compile store { sequenceFile := "[/x].json" }).on deskWithTags).1 =
      .error (.unshown cause) := by
  intro store
  have hempty : Json.read (Decoding.lenient "".toUTF8) = .error ⟨.expectingValue, 0, 1, 1⟩ := by
    rfl
  refine ⟨?_, ?_, ?_⟩
  · have hread : Json.read (Decoding.lenient "[1]".toUTF8) = .ok (.list [.int 1]) := by rfl
    have hof : Exploit.ofJson (.list [.int 1]) =
        .error (.malformed (.step 0) .stepNotAnObject) := rfl
    obtain ⟨warnings, -, hliteral, -⟩ := on_compile_fails store { sequenceFile := "a.json" }
      (deskWith "[1]") (Terminal.documented_console _) rfl
      (.malformed (contentAt_deskWith "[1]") hread hof)
    obtain ⟨⟨lines, hshown⟩, -⟩ := hliteral (Rejection.isLiteral_words _ (by simp))
    rw [hshown]
  · obtain ⟨warnings, -, -, hlost, -⟩ := on_compile_fails store { sequenceFile := "[x].json" }
      deskWithTags (Terminal.documented_console _) rfl (.notJson rfl hempty rfl)
    have htext : "" ++ Exploit.extensionNotice (Path.ofString "[x].json") ++ ("✗ " ++ "" ++
        ".json: invalid JSON: Expecting value: line 1 column 1 (char 0)" ++ "\n") =
        "✗ .json: invalid JSON: Expecting value: line 1 column 1 (char 0)\n" := by
      decide +kernel
    exact ⟨_, hlost "" "x" ".json: invalid JSON: Expecting value: line 1 column 1 (char 0)"
      (by decide +kernel) (by decide) (by decide) (by decide)
      ⟨by decide +kernel, by decide +kernel⟩, htext⟩
  · obtain ⟨warnings, -, -, -, hfault⟩ := on_compile_fails store { sequenceFile := "[/x].json" }
      deskWithTags (Terminal.documented_console _) rfl (.notJson rfl hempty rfl)
    obtain ⟨message, hmessage⟩ := hfault "" "x"
      ".json: invalid JSON: Expecting value: line 1 column 1 (char 0)"
      (by decide +kernel) (by decide) (by decide) (by decide) (by decide)
    exact ⟨_, by rw [hmessage]⟩

end ExploitReplay.Action
