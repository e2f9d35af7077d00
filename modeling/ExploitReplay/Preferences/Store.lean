import ExploitReplay.Disk.Basic
import ExploitReplay.Disk.Decoding
import ExploitReplay.Preferences.Basic

/-!
# Preferences on a disk

Preferences are kept in a file, which a codec reads and writes. A file that is not there, or that
cannot be read, leaves the usual preferences; a file that asks for something impossible is an error.

## Main definitions

* `Preferences.Store`: preferences, and the file they are kept in
* `Preferences.Store.load codec d path`: the preferences in a file
* `Preferences.Store.opened codec d location`: the store at a location; the directory for its file is
  made
* `Preferences.Store.change s key text`: the store with another text for a setting
* `Preferences.Store.listed s`: the names and texts of all settings
* `Preferences.Store.saved codec s d`: the preferences are written to their file
* `Preferences.Store.testDirectory`, `Store.testPath`: where tests are saved

## Main results

* `change_eq_none_iff`: exactly the names of settings can be changed
-/

namespace ExploitReplay.Preferences

/-- Preferences, and the file they are kept in. -/
structure Store where
  file : Path
  preferences : Preferences := {}
  /-- The settings can be listed, as the file leaves it. -/
  isListed : Bool := true
deriving DecidableEq, Repr

namespace Store

/-- Why a file of preferences is passed over. -/
inductive Unread where
  | disk (cause : DiskError)
  | notYaml (message : String)
deriving DecidableEq, Repr

/-- The reason in words, which are those of the codec if the file is no YAML. -/
def Unread.message : Unread → String
  | .disk cause => cause.message
  | .notYaml message => message

/-- Why there is no store at a location. -/
inductive Unusable where
  /-- The location starts from a home directory that is not known. -/
  | noHome
  /-- There is no place for the file. -/
  | noPlace (cause : DiskError)
  /-- The file is no text. -/
  | notText
  /-- The file holds a value that there is none of. -/
  | badValue (message : String)
  /-- The file has a pair that it may not have. -/
  | badPair (cause : BadPair)

/-! ### Reading -/

/-- Preferences, and why their file was passed over if it was. -/
structure Loaded where
  preferences : Preferences := {}
  isListed : Bool := true
  unread : Option Unread := none

/-- The preferences that a text asks for. -/
def ofText (codec : Codec) (text : String) : Except Unusable Loaded :=
  match codec.read text with
  | .error (.notYaml message) => .ok { unread := some (.notYaml message) }
  | .error (.badValue message) => .error (.badValue message)
  | .ok v =>
    match ofDocument v with
    | .error cause => .error (.badPair cause)
    | .ok p => .ok { preferences := p, isListed := leavesListed v }

/-- The preferences in a file. -/
def load (codec : Codec) (d : Disk) (file : Path) : Except Unusable Loaded :=
  match d.look file with
  | .error cause => .error (.noPlace cause)
  | .ok none => .ok {}
  | .ok (some _) =>
    match d.contentAt file with
    | .error cause => .ok { unread := some (.disk cause) }
    | .ok bytes =>
      match Decoding.utf8? bytes with
      | none => .error .notText
      | some text => ofText codec text

/-- The store at a location, with the reason why its file was passed over if it was. The directory
for the file is made. -/
def opened (codec : Codec) (d : Disk) (location : Path) :
    Disk × Except Unusable (Store × Option Unread) :=
  match location.expandHome? d.home with
  | none => (d, .error .noHome)
  | some file =>
    match d.makeDirectories file.parent with
    | (made, .error cause) => (made, .error (.noPlace cause))
    | (made, .ok ()) =>
      (made, (load codec made file).map fun l => (⟨file, l.preferences, l.isListed⟩, l.unread))

/-! ### Changing and writing -/

/-- The store with another text for the setting of a name. -/
def change (s : Store) (key text : String) : Option Store :=
  (Setting.ofKey? key).map fun setting =>
    { s with preferences := s.preferences.set setting text }

/-- The names and texts of all settings, if they can be listed. -/
def listed (s : Store) : Option (List (String × String)) :=
  if s.isListed then some s.preferences.pairs else none

/-- The preferences are written to their file, which is left empty if they cannot be listed. -/
def saved (codec : Codec) (s : Store) (d : Disk) : Disk × Except DiskError Unit :=
  d.writeAt s.file (if s.isListed then s.preferences.fileText codec else "").toUTF8

theorem change_eq_none_iff {s : Store} {key text : String} :
    s.change key text = none ↔ ∀ setting : Setting, setting.key ≠ key := by
  rw [change, Option.map_eq_none_iff, Setting.ofKey?, List.find?_eq_none]
  simp [Setting.mem_all]

/-! ### Where tests are saved -/

/-- The end of the name of a saved test. -/
def testSuffix : String := ".t.sol"

/-- Why tests cannot be saved. -/
inductive Unplaced where
  /-- Their directory is below a home directory that is not known. -/
  | noHome
  /-- No directory has such a name. -/
  | unnameable
deriving DecidableEq, Repr

/-- The directory that tests are saved in. -/
def testDirectory (s : Store) (d : Disk) : Except Unplaced Path :=
  match (Path.ofString s.preferences.outputDirectory).expandHome? d.home with
  | none => .error .noHome
  | some p => if p.isNameable then .ok (p.resolve d.here) else .error .unnameable

/-- The file that the test of a sequence file is saved in. -/
def testPath (s : Store) (d : Disk) (sequenceFile : Path) : Except Unplaced Path :=
  (s.testDirectory d).map (·.child (sequenceFile.stem ++ testSuffix))

end Store

end ExploitReplay.Preferences
