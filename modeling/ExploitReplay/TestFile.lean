import ExploitReplay.Disk.Basic

/-!
# Files for generated tests

## Main definitions

* `TestFile.pathFor d output`: the file that a test is written to
* `TestFile.write d source output`: a test is written to its file
-/

namespace ExploitReplay.TestFile

/-- The name of a test in a directory. -/
def usualName : String := "Exploit.t.sol"

/-- The file that a test is written to. A directory, and a path without a suffix, is a place for a
file of the usual name. -/
def pathFor (d : Disk) (output : Path) : Except DiskError Path :=
  (d.look output).map fun e =>
    match e with
    | some .directory => output.child usualName
    | _ => if output.suffix = "" then output.child usualName else output

/-- The disk with a test in its file, and the path of the file. The directory for it is made, and
stays if the file cannot be written; so does the part of the test that has been written then. -/
def write (d : Disk) (source : String) (output : Path) : Disk × Except DiskError Path :=
  match pathFor d output with
  | .error cause => (d, .error cause)
  | .ok file =>
    match d.makeDirectories file.parent with
    | (made, .error cause) => (made, .error cause)
    | (made, .ok ()) =>
      match made.writeAt file source.toUTF8 with
      | (left, .error cause) => (left, .error cause)
      | (left, .ok ()) => (left, .ok file)

end ExploitReplay.TestFile
