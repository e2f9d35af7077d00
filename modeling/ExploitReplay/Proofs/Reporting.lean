import ExploitReplay.CommandLine.Run

/-!
# How a command ends with a report

A report is an opening that the program chooses, and words that come from elsewhere: a path, a key,
or why something failed. The opening is literal, so that only the words can make a difference: what
is known of a console says how a report is shown with literal words, with a tag among them that
opens, and with one that closes. A report that is not shown leaves its command without an exit code.

## Main definitions

* `Report.opening r`, `Report.words r`: the two parts of a report
* `Action.reported d r code`: how a command ends that shows a report and gives an exit code

## Main results

* `Action.reported_of_isLiteral`, `Action.reported_of_fits`: a report with literal words is shown, and
  as it is if it fits into a line
* `Action.reported_of_opening`: a tag among the words is lost
* `Action.reported_of_closing`: with a closing tag there is no exit code
-/

namespace ExploitReplay

open Markup (IsLiteral IsTagName)

namespace Report

/-- What a report starts with, whatever it is about. -/
def opening : Report → String
  | .preferencesUnread _ => "Warning: Could not load config file: "
  | .preferencesSaved _ => "✓ Configuration saved to "
  | .preferencesNotSaved _ => "✗ Failed to save config: "
  | .unknownSetting _ => "✗ Unknown setting: "
  | .sequenceUnread _ _ => "✗ Could not read "
  | .sequenceRejected _ => "✗ "
  | .notCompiled _ => "✗ Compilation failed: "
  | .testWritten _ => "✓ Test written to "

/-- What a report is about, in words. -/
def words : Report → String
  | .preferencesUnread cause => cause.message
  | .preferencesSaved file | .testWritten file => file.toString
  | .preferencesNotSaved cause => cause.message
  | .unknownSetting key => key
  | .sequenceUnread name why => name ++ ": " ++ why
  | .sequenceRejected why => why
  | .notCompiled cause => cause.message

theorem text_eq (r : Report) : r.text = r.opening ++ r.words := by
  cases r with
  | sequenceUnread name why =>
    change "✗ Could not read " ++ name ++ ": " ++ why = "✗ Could not read " ++ (name ++ ": " ++ why)
    rw [String.append_assoc, String.append_assoc, String.append_assoc]
  | _ => rfl

/-- A colon with a blank behind it stands for itself. -/
theorem isLiteral_opening (r : Report) : IsLiteral r.opening.toList := by
  cases r <;> simp only [opening] <;> decide

/-- A report is literal up to the end of literal words. -/
theorem isLiteral_opening_append (r : Report) {words : String} (h : IsLiteral words.toList) :
    IsLiteral (r.opening ++ words).toList := by
  rw [String.toList_append]
  exact r.isLiteral_opening.append h

end Report

namespace Action

/-- How a command ends that shows a report and gives an exit code. -/
def reported (d : Desk) (r : Report) (code : ExitCode) : Except Interruption ExitCode × Desk :=
  match d.console.print r.markup with
  | .ok line => (.ok code, { d with printed := d.printed ++ line })
  | .error cause => (.error (.unshown cause), d)

variable {d : Desk} {r : Report} {code : ExitCode} {before name after : String}

/-- A command that goes on from a report ends as it does if the report is shown. -/
theorem on_report_bind {α : Type} (next : Unit → Action α) :
    (report r >>= next).on d =
      match d.console.print r.markup with
      | .ok line => (next ()).on { d with printed := d.printed ++ line }
      | .error cause => (.error (.unshown cause), d) := by
  rw [on_bind, on_report]
  cases d.console.print r.markup <;> rfl

@[simp] theorem on_report_pure :
    (report r >>= fun _ => (pure code : Action ExitCode)).on d = reported d r code := by
  rw [on_report_bind, reported]
  cases d.console.print r.markup <;> rfl

/-- A report leaves the disk as it is, shown or not. -/
@[simp] theorem disk_reported : (reported d r code).2.disk = d.disk := by
  rw [reported]
  cases d.console.print r.markup <;> rfl

theorem reported_of_print {line : String} (h : d.console.print r.markup = .ok line) :
    reported d r code = (.ok code, { d with printed := d.printed ++ line }) := by
  rw [reported, h]

/-- **A report with literal words is shown**, and the command has its exit code. -/
theorem reported_of_isLiteral (code : ExitCode) (hconsole : d.console.Documented)
    (h : IsLiteral r.words.toList) :
    ∃ lines, reported d r code = (.ok code, { d with printed := d.printed ++ lines }) := by
  obtain ⟨lines, hlines⟩ := hconsole.shown r.colour _ (r.isLiteral_opening_append h)
  rw [← Report.text_eq] at hlines
  exact ⟨lines, reported_of_print hlines⟩

/-- **A report with literal words is shown as it is**, if it fits into a line. -/
theorem reported_of_fits (hconsole : d.console.Documented) (h : IsLiteral r.words.toList)
    (hfits : d.console.Fits (r.opening ++ r.words)) : reported d r code =
      (.ok code, { d with printed := d.printed ++ (r.opening ++ r.words ++ "\n") }) := by
  have hline := hconsole.plain r.colour _ (r.isLiteral_opening_append h) hfits
  rw [← Report.text_eq] at hline
  rw [reported_of_print hline, Report.text_eq]

/-- **A tag among the words of a report is lost.** -/
theorem reported_of_opening (hconsole : d.console.Documented)
    (hwords : r.words = before ++ "[" ++ name ++ "]" ++ after) (hbefore : IsLiteral before.toList)
    (hname : IsTagName name) (hafter : IsLiteral after.toList)
    (hfits : d.console.Fits (r.opening ++ before ++ after)) : reported d r code =
      (.ok code, { d with printed := d.printed ++ (r.opening ++ before ++ after ++ "\n") }) := by
  have hline := hconsole.opening r.colour (r.opening ++ before) name after
    (r.isLiteral_opening_append hbefore) hname hafter hfits
  have htext : r.text = r.opening ++ before ++ "[" ++ name ++ "]" ++ after := by
    simp only [Report.text_eq, hwords, String.append_assoc]
  rw [← htext] at hline
  exact reported_of_print hline

/-- **With a closing tag among its words a report is not shown**, and the command has no exit
code. -/
theorem reported_of_closing (hconsole : d.console.Documented)
    (hwords : r.words = before ++ "[/" ++ name ++ "]" ++ after) (hbefore : IsLiteral before.toList)
    (hname : IsTagName name) (hne : name ≠ r.colour.tag) (hafter : IsLiteral after.toList) :
    ∃ message, reported d r code = (.error (.unshown (.unmatched message)), d) := by
  obtain ⟨message, hmessage⟩ := hconsole.closing r.colour (r.opening ++ before) name after
    (r.isLiteral_opening_append hbefore) hname hne hafter
  have htext : r.text = r.opening ++ before ++ "[/" ++ name ++ "]" ++ after := by
    simp only [Report.text_eq, hwords, String.append_assoc]
  rw [← htext] at hmessage
  refine ⟨message, ?_⟩
  unfold reported
  rw [show d.console.print r.markup = .error (.unmatched message) from hmessage]

end Action

end ExploitReplay
