import ExploitReplay.CommandLine.Run

/-!
# The paths of a command line

Whoever meets a request must know what is on the disk at the paths that it looks at. The file of the
preferences comes first, since it may say where tests are saved.

## Main definitions

* `Invocation.preferencesPath? i home`: the file of the preferences
* `Invocation.paths codec i d`: the other paths, on a disk with the preferences
-/

namespace ExploitReplay.Invocation

/-- The file of the preferences, if a request is made. -/
def preferencesPath? (i : Invocation) (home : Path) : Option Path :=
  match i with
  | .request preferences _ =>
    (Path.ofString ((Action.filled preferences).getD Action.usualLocation)).expandHome? home
  | _ => none

/-- The place for the test of a request, on a disk with the preferences. -/
def outputPath? (codec : Preferences.Codec) (d : Disk) (preferences : Path)
    (request : CompileRequest) : Option Path :=
  match request.output with
  | .named output => some (Path.ofString output)
  | .unnamed => none
  | .unsaid =>
    match Preferences.Store.load codec d preferences with
    | .ok loaded =>
      (Preferences.Store.testPath ⟨preferences, loaded.preferences, loaded.isListed⟩ d
        (Path.ofString request.sequenceFile)).toOption
    | .error _ => none

/-- The paths of a request, other than that of the preferences, on a disk with the preferences. -/
def paths (codec : Preferences.Codec) (i : Invocation) (d : Disk) : List Path :=
  match i, i.preferencesPath? d.home with
  | .request _ (.compile details), some preferences =>
    let places := (outputPath? codec d preferences details).toList
    Path.ofString details.sequenceFile :: places ++ places.map (·.child TestFile.usualName)
  | _, _ => []

end ExploitReplay.Invocation
