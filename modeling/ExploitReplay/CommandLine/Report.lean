import ExploitReplay.Console.Basic
import ExploitReplay.Failure
import ExploitReplay.Preferences.Store

/-!
# Reports

What a command tells its user about its success or failure. A report is shown in a colour, and the
texts in it are read as markup too.

## Main definitions

* `Report`: what is told
* `Report.text`, `Report.markup`: the report in words, and as a message in its colour
-/

namespace ExploitReplay

open Preferences (Store)

/-- What a command tells its user. -/
inductive Report where
  | preferencesUnread (cause : Store.Unread)
  | preferencesSaved (file : Path)
  | preferencesNotSaved (cause : DiskError)
  | unknownSetting (key : String)
  | sequenceUnread (name : String) (why : String)
  | sequenceRejected (why : String)
  | notCompiled (cause : Failure)
  | testWritten (file : Path)
deriving DecidableEq, Repr

namespace Report

/-- The report in words. -/
def text : Report → String
  | .preferencesUnread cause => "Warning: Could not load config file: " ++ cause.message
  | .preferencesSaved file => "✓ Configuration saved to " ++ file.toString
  | .preferencesNotSaved cause => "✗ Failed to save config: " ++ cause.message
  | .unknownSetting key => "✗ Unknown setting: " ++ key
  | .sequenceUnread name why => "✗ Could not read " ++ name ++ ": " ++ why
  | .sequenceRejected why => "✗ " ++ why
  | .notCompiled cause => "✗ Compilation failed: " ++ cause.message
  | .testWritten file => "✓ Test written to " ++ file.toString

/-- The colour of a report: success is green, failure is red, and what is no more than a warning is
yellow. -/
def colour : Report → Colour
  | .preferencesUnread _ => .yellow
  | .preferencesSaved _ | .testWritten _ => .green
  | _ => .red

/-- The report as a message in its colour. -/
def markup (r : Report) : String :=
  r.colour.paint r.text

end Report

end ExploitReplay
