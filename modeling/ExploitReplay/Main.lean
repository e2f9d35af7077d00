import ExploitReplay.CommandLine.Paths
import ExploitReplay.CommandLine.Standard

/-!
# The program

The part of the disk that a request is about is read, the request is met on it, and what has changed
is written back.
-/

namespace ExploitReplay.Program

/-- The columns of a line, unless something else is known. -/
def width : Nat := 80

/-- The name of a location. -/
def nameOf (l : Location) : String :=
  "/" ++ "/".intercalate l

/-- What is at a location. What cannot be read as a file, though it is there, is a directory. -/
def look (l : Location) : IO (Option Entry) := do
  match ← (IO.FS.readBinFile (nameOf l)).toBaseIO with
  | .ok bytes => return some (.file bytes)
  | .error (.inappropriateType ..) => return some .directory
  | .error _ => return none

/-- The disk with what is on the way to a path. -/
def survey (d : Disk) (p : Path) : IO Disk :=
  (d.waypoints p).foldlM (fun d l => do
    match ← look l with
    | some e => return d.put l e
    | none => return d) d

/-- An entry is made. -/
def make (change : Location × Entry) : IO Unit :=
  match change with
  | (l, .directory) => IO.FS.createDir (nameOf l)
  | (l, .file content) => IO.FS.writeBinFile (nameOf l) content

/-- The disk, as far as an invocation is about it. -/
def diskFor (i : Invocation) : IO Disk := do
  let here := (Path.ofString (← IO.currentDir).toString).parts
  let home := Path.ofString ((← IO.getEnv "HOME").getD "/")
  let empty : Disk := { here, home }
  match i.preferencesPath? home with
  | none => return empty
  | some preferences =>
    let d ← survey empty preferences
    (i.paths Yaml.codec d).foldlM survey d

end ExploitReplay.Program

open ExploitReplay

/-- The program: its exit code is that of the request, or one if the request is interrupted. -/
def main (args : List String) : IO UInt32 := do
  let i := Invocation.ofArgs args
  let disk ← Program.diskFor i
  let (result, desk) := (Action.ofInvocation i).on (.standard Program.width disk)
  (desk.disk.changesSince disk).forM Program.make
  IO.print desk.printed
  desk.warnings.forM fun w => IO.eprintln w.message
  match result with
  | .ok code => return UInt32.ofNat code
  | .error cause =>
    IO.eprintln cause.message
    return UInt32.ofNat Action.failure
