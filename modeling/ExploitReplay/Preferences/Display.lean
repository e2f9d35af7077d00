import ExploitReplay.Console.Basic
import ExploitReplay.Disk.Path
import ExploitReplay.Preferences.Basic

/-!
# Showing preferences

## Main definitions

* `Preferences.shown p console file`: the table of all settings, and the file they come from
-/

namespace ExploitReplay.Preferences

/-- The table of all settings. -/
def table (p : Preferences) (console : Console) : Except Console.Fault String :=
  console.table "step2code Configuration" ("Setting", "Value") p.pairs

/-- The line that names the file. -/
def fileLine (console : Console) (file : Path) : Except Console.Fault String :=
  console.print ("\n[bold cyan]Config File:[/bold cyan] " ++ file.toString)

/-- The table of all settings, and the file they come from; a message that cannot be shown ends the
output before it. -/
def shown (p : Preferences) (console : Console) (file : Path) :
    String × Except Console.Fault Unit :=
  match p.table console with
  | .error fault => ("", .error fault)
  | .ok table =>
    match fileLine console file with
    | .error fault => (table, .error fault)
    | .ok line => (table ++ line, .ok ())

end ExploitReplay.Preferences
