import ExploitReplay.Disk.Basic
import ExploitReplay.Disk.Decoding
import ExploitReplay.Json.Reader
import ExploitReplay.Sequence.Document

/-!
# Sequence files

## Main definitions

* `Exploit.ofFile d name`: the exploit in a file
* `Exploit.Unread`: why there is none
* `Exploit.extensionNotice p`: what is said of a file with an unusual name
-/

namespace ExploitReplay.Exploit

/-- Why a file gives no exploit. -/
inductive Unread where
  | nothingThere (name : String)
  | notAFile (name : String)
  | unreachable (cause : DiskError)
  | notJson (file : Path) (cause : Json.Unreadable)
  /-- A number in the file is too long, the file is nested too deep, or a string in it is no text. -/
  | beyondLimits (cause : Json.Reason)
  | rejected (cause : Rejection)

/-- The reason in words, where there are any. -/
def Unread.message? : Unread → Option String
  | .nothingThere name => some ("Path does not exist: " ++ name)
  | .notAFile name => some ("Not a file: " ++ name)
  | .unreachable cause => some cause.message
  | .notJson file cause =>
    some (Rejection.located (some file.toString) ("invalid JSON: " ++ cause.message))
  | .beyondLimits .tooDeep | .beyondLimits .loneSurrogate => none
  | .beyondLimits cause => some cause.message
  | .rejected cause => cause.message?

/-- The suffix of the name of a sequence file. -/
def fileSuffix : String := ".json"

/-- What is said of a file whose name does not end as usual. -/
def extensionNotice (file : Path) : String :=
  if file.suffix.toLower = fileSuffix then ""
  else "⚠️  Warning: " ++ file.toString ++ " does not have a .json extension\n"

/-- The exploit that the bytes of a file describe. -/
def ofBytes (file : Path) (bytes : ByteArray) : Except Unread Exploit :=
  match Json.read (Decoding.lenient bytes) with
  | .error cause =>
    .error (if cause.reason.isFormal then .notJson file cause else .beyondLimits cause.reason)
  | .ok v => (ofJson v).mapError .rejected

/-- The exploit in a file, with what is said of the file's name before it is read. -/
def ofFile (d : Disk) (name : String) : String × Except Unread Exploit :=
  let file := Path.ofString name
  match d.look file with
  | .error cause => ("", .error (.unreachable cause))
  | .ok none => ("", .error (.nothingThere name))
  | .ok (some .directory) => ("", .error (.notAFile name))
  | .ok (some (.file _)) =>
    (extensionNotice file,
      match d.contentAt file with
      | .error cause => .error (.unreachable cause)
      | .ok bytes => ofBytes file bytes)

end ExploitReplay.Exploit
