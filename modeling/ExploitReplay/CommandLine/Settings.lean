import ExploitReplay.CommandLine.Action
import ExploitReplay.Preferences.Display

/-!
# Showing and changing preferences

## Main definitions

* `Action.openStore location`: the preferences at a location
* `Action.changeSetting`, `Action.changeSettings`: one setting, and several in a row
* `Action.listStore`: all settings, if they can be listed
* `Action.saveStore`, `Action.showStore`: preferences into their file, and onto the console
-/

namespace ExploitReplay.Action

open Preferences (Store)

/-- Where preferences are kept unless another file is given. -/
def usualLocation : String := "~/.step2code/config.yaml"

/-- The preferences at a location. A file that is passed over is reported. -/
def openStore (location : String) : Action Store := do
  let desk ← get
  let (disk, result) := Store.opened desk.codec desk.disk (Path.ofString location)
  setDisk disk
  match result with
  | .error cause => throw (.unusable cause)
  | .ok (store, none) => return store
  | .ok (store, some why) =>
    report (.preferencesUnread why)
    return store

/-- The store with another text for a setting; an unknown one is reported. -/
def changeSetting (store : Store) (key text : String) : Action (Option Store) := do
  match store.change key text with
  | some changed => return some changed
  | none =>
    report (.unknownSetting key)
    return none

/-- The store with other texts for several settings, up to the first that is unknown. -/
def changeSettings (store : Store) : List (String × String) → Action (Option Store)
  | [] => return some store
  | (key, text) :: rest => do
    match ← changeSetting store key text with
    | some changed => changeSettings changed rest
    | none => return none

/-- The names and texts of all settings. -/
def listStore (store : Store) : Action (List (String × String)) := do
  match store.listed with
  | some pairs => return pairs
  | none => throw .unlisted

/-- The preferences are saved, or it is reported why they are not. -/
def saveStore (store : Store) : Action Unit := do
  let desk ← get
  let (disk, result) := store.saved desk.codec desk.disk
  setDisk disk
  match result with
  | .ok () =>
    let _ ← listStore store
    report (.preferencesSaved store.file)
  | .error cause => tell cause fun _ => report (.preferencesNotSaved cause)

/-- The preferences are shown. -/
def showStore (store : Store) : Action Unit := do
  let _ ← listStore store
  let (text, result) := store.preferences.shown (← get).console store.file
  say text
  match result with
  | .ok () => return
  | .error cause => throw (.unshown cause)

/-- The directory for tests. -/
def testDirectory (store : Store) : Action Path := do
  match store.testDirectory (← get).disk with
  | .ok directory => return directory
  | .error cause => throw (.unplaced cause)

/-- The file for the test of a sequence file. -/
def testPath (store : Store) (sequenceFile : String) : Action Path := do
  match store.testPath (← get).disk (Path.ofString sequenceFile) with
  | .ok file => return file
  | .error cause => throw (.unplaced cause)

end ExploitReplay.Action
