import ExploitReplay.Disk.Path
import ExploitReplay.Text.Quoted

/-!
# Disks

The directories and files that the program sees: a map from locations to entries, together with the
working directory and the home directory. A location is the list of the names that lead to it from
the root. A disk may refuse what is done at a location, and a file may find too little room there.

## Main definitions

* `Disk`, `Entry`: a disk and what is on it
* `Access`, `Refusal`: what is done at a location, and why the disk refuses it
* `Disk.locate d p`: the location that a path leads to; something need not be there yet
* `Disk.look d p`: what is there
* `Disk.makeDirectory`, `Disk.makeDirectories`: a directory, and a directory with those above it
* `Disk.contentAt`, `Disk.writeAt`: the content of a file
* `DiskError`: why one of them fails

## Main results

* `entryAt?_put_self`, `entryAt?_put_of_ne`: what is on a disk after a change
-/

namespace ExploitReplay

/-- What is at a location. -/
inductive Entry where
  | directory
  | file (content : ByteArray)

/-- The names that lead to a place from the root. -/
abbrev Location := List String

/-- What is done at a location. -/
inductive Access where
  /-- A name is looked up in a directory. -/
  | search
  /-- A new entry is made. -/
  | make
  /-- A file is opened to be read. -/
  | read
  /-- A file that is there is opened to be written. -/
  | write
deriving DecidableEq, Repr

/-- Why a disk refuses what is done. -/
inductive Refusal where
  | permissionDenied
  | readOnly
  | noSpace
  | quotaExceeded
  | deviceError
deriving DecidableEq, Repr

/-- Why an operation on a path fails. -/
inductive DiskError.Cause where
  | notFound
  | alreadyExists
  | notADirectory
  | isADirectory
  | nameTooLong
  /-- The path holds a character that no name can have. -/
  | unnameable
  | refused (why : Refusal)
deriving DecidableEq, Repr

/-- A failed operation, with the path it was about. A write that fails after its file has been
opened names no path. -/
structure DiskError where
  cause : DiskError.Cause
  path : Option Path
deriving DecidableEq, Repr

/-- The number of a refusal. -/
def Refusal.code : Refusal → Nat
  | .permissionDenied => 13
  | .readOnly => 30
  | .noSpace => 28
  | .quotaExceeded => 122
  | .deviceError => 5

/-- The refusal in words. -/
def Refusal.message : Refusal → String
  | .permissionDenied => "Permission denied"
  | .readOnly => "Read-only file system"
  | .noSpace => "No space left on device"
  | .quotaExceeded => "Disk quota exceeded"
  | .deviceError => "Input/output error"

/-- The number of a cause. -/
def DiskError.Cause.code : Cause → Nat
  | .notFound => 2
  | .alreadyExists => 17
  | .notADirectory => 20
  | .isADirectory => 21
  | .nameTooLong => 36
  | .unnameable => 22
  | .refused why => why.code

/-- The cause in words. -/
def DiskError.Cause.message : Cause → String
  | .notFound => "No such file or directory"
  | .alreadyExists => "File exists"
  | .notADirectory => "Not a directory"
  | .isADirectory => "Is a directory"
  | .nameTooLong => "File name too long"
  | .unnameable => "Invalid argument"
  | .refused why => why.message

/-- There is nothing where a path cannot lead for this cause. For another one it is not known. -/
def DiskError.Cause.isAbsence : Cause → Bool
  | .notFound | .notADirectory | .unnameable => true
  | _ => false

/-- The failed operation in words. -/
def DiskError.message (e : DiskError) : String :=
  "[Errno " ++ toString e.cause.code ++ "] " ++ e.cause.message ++
    (e.path.map fun p => ": " ++ Text.quoted p.toString).getD ""

/-- The directories and files, the working directory, the home directory, and what the disk does not
allow. -/
structure Disk where
  entries : List (Location × Entry) := []
  here : Location := []
  home : Path := ⟨1, []⟩
  /-- Why something is refused at a location. -/
  refusal : Access → Location → Option Refusal := fun _ _ => none
  /-- The bytes that a file at a location has room for, if their number is limited, and why there is
  no room for more. -/
  room : Location → Option (Nat × Refusal) := fun _ => none

namespace Disk

/-! ### Looking -/

/-- What is at a location. The root and the working directory are always directories. -/
def entryAt? (d : Disk) (l : Location) : Option Entry :=
  if l <+: d.here then some .directory else d.entries.lookup l

/-- The most bytes that a name has. -/
def nameLimit : Nat := 255

/-- Every path has fewer bytes than this. -/
def pathLimit : Nat := 4096

/-- Where the parts of a path lead from a location. All but the last must lead through directories
that are there and can be searched. -/
def walk (d : Disk) : Location → List String → Except DiskError.Cause Location
  | l, [] => .ok l
  | l, part :: rest =>
    match d.entryAt? l with
    | none => .error .notFound
    | some (.file _) => .error .notADirectory
    | some .directory =>
      match d.refusal .search l with
      | some why => .error (.refused why)
      | none =>
        if nameLimit < part.utf8ByteSize then .error .nameTooLong
        else walk d (Path.advance l part) rest

/-- The location that a path leads to. -/
def locate (d : Disk) (p : Path) : Except DiskError.Cause Location :=
  if !p.isNameable then .error .unnameable
  else if pathLimit ≤ p.toString.utf8ByteSize then .error .nameTooLong
  else d.walk (if p.isAbsolute then [] else d.here) p.parts

/-- The locations that the parts of a path lead through, from a location on. -/
def waypointsFrom : Location → List String → List Location
  | l, [] => [l]
  | l, part :: rest => l :: waypointsFrom (Path.advance l part) rest

/-- The locations that a path leads through. -/
def waypoints (d : Disk) (p : Path) : List Location :=
  waypointsFrom (if p.isAbsolute then [] else d.here) p.parts

/-- What a path leads to. Nothing is where a path does not lead, but a path that is too long, or
that leads through a directory that must not be searched, cannot be followed at all. -/
def look (d : Disk) (p : Path) : Except DiskError (Option Entry) :=
  match d.locate p with
  | .ok l => .ok (d.entryAt? l)
  | .error c => if c.isAbsence then .ok none else .error ⟨c, p⟩

/-- A directory is there. -/
def isDirectory (d : Disk) (p : Path) : Bool :=
  match d.look p with
  | .ok (some .directory) => true
  | _ => false

/-! ### Changing -/

/-- The disk with an entry at a location. -/
def put (d : Disk) (l : Location) (e : Entry) : Disk :=
  { d with entries := (l, e) :: d.entries.filter (·.1 ≠ l) }

theorem entryAt?_put_self (d : Disk) {l : Location} (h : ¬l <+: d.here) (e : Entry) :
    (d.put l e).entryAt? l = some e := by
  simp [entryAt?, put, h]

theorem entryAt?_put_of_ne (d : Disk) {l m : Location} (h : m ≠ l) (e : Entry) :
    (d.put l e).entryAt? m = d.entryAt? m := by
  have : ∀ es : List (Location × Entry), (es.filter (·.1 ≠ l)).lookup m = es.lookup m := by
    intro es
    induction es with
    | nil => rfl
    | cons p es ih =>
      obtain ⟨k, v⟩ := p
      by_cases hk : k = l
      · have hm : (m == k) = false := by simpa [hk] using h
        simp only [hk, ne_eq, not_true_eq_false, decide_false, Bool.false_eq_true,
          not_false_eq_true, List.filter_cons_of_neg] at ih ⊢
        rw [ih, List.lookup_cons, ← hk, hm]
      · simp only [ne_eq, hk, not_false_eq_true, decide_true, List.filter_cons_of_pos] at ih ⊢
        rw [List.lookup_cons, List.lookup_cons, ih]
  have hm : (m == l) = false := by simpa using h
  simp only [entryAt?, put, List.lookup_cons, hm, this]

/-- A new directory. -/
def makeDirectory (d : Disk) (p : Path) : Except DiskError Disk :=
  match d.locate p with
  | .error c => .error ⟨c, p⟩
  | .ok l =>
    match d.entryAt? l, d.refusal .make l with
    | some _, _ => .error ⟨.alreadyExists, p⟩
    | none, some why => .error ⟨.refused why, p⟩
    | none, none => .ok (d.put l .directory)

/-- A directory that may be there already. What is in its place otherwise is an error. -/
def ensureDirectory (d : Disk) (p : Path) : Except DiskError Disk :=
  match d.makeDirectory p with
  | .ok made => .ok made
  | .error e => if d.isDirectory p then .ok d else .error e

/-- A directory with those above it, for a path with its parts in reverse. A directory is tried
first, and those above it only if it cannot be found a place. -/
def makeAlong (d : Disk) (slashes : Nat) : List String → Disk × Except DiskError Unit
  | [] =>
    match d.ensureDirectory ⟨slashes, []⟩ with
    | .ok made => (made, .ok ())
    | .error e => (d, .error e)
  | part :: above =>
    let p : Path := ⟨slashes, (part :: above).reverse⟩
    match d.ensureDirectory p with
    | .ok made => (made, .ok ())
    | .error e =>
      if e.cause = .notFound then
        match makeAlong d slashes above with
        | (made, .error e) => (made, .error e)
        | (made, .ok ()) =>
          match made.ensureDirectory p with
          | .ok made => (made, .ok ())
          | .error e => (made, .error e)
      else (d, .error e)

/-- A directory with those above it. What was made before an error stays. -/
def makeDirectories (d : Disk) (p : Path) : Disk × Except DiskError Unit :=
  makeAlong d p.slashes p.parts.reverse

/-- The content of a file. -/
def contentAt (d : Disk) (p : Path) : Except DiskError ByteArray :=
  match d.locate p with
  | .error c => .error ⟨c, p⟩
  | .ok l =>
    match d.entryAt? l, d.refusal .read l with
    | none, _ => .error ⟨.notFound, p⟩
    | some _, some why => .error ⟨.refused why, p⟩
    | some .directory, none => .error ⟨.isADirectory, p⟩
    | some (.file content), none => .ok content

/-- The location of a file that can be opened to be written. It may be a new one. -/
def openAt (d : Disk) (p : Path) : Except DiskError Location :=
  match d.locate p with
  | .error c => .error ⟨c, p⟩
  | .ok l =>
    match d.entryAt? l with
    | some .directory => .error ⟨.isADirectory, p⟩
    | e =>
      match d.refusal (if e.isSome then .write else .make) l with
      | some why => .error ⟨.refused why, p⟩
      | none => .ok l

/-- The bytes of a content that there is room for at a location, and why there is none for all. -/
def shortage? (d : Disk) (l : Location) (content : ByteArray) : Option (Nat × Refusal) :=
  (d.room l).filter fun limit => limit.1 < content.size

/-- A file is written in the place a path leads to. It is emptied when it is opened, so that only
the beginning of a content that finds too little room is in it afterwards. -/
def writeAt (d : Disk) (p : Path) (content : ByteArray) : Disk × Except DiskError Unit :=
  match d.openAt p with
  | .error e => (d, .error e)
  | .ok l =>
    match d.shortage? l content with
    | none => (d.put l (.file content), .ok ())
    | some (size, why) =>
      (d.put l (.file (content.extract 0 size)), .error ⟨.refused why, none⟩)

/-- There is the same at a location: a directory in both cases, or a file of the same content. -/
def sameEntry : Option Entry → Entry → Bool
  | some .directory, .directory => true
  | some (.file a), .file b => a.data = b.data
  | _, _ => false

/-- The entries of a disk that another one does not have, those that were put last at the end. -/
def changesSince (new old : Disk) : List (Location × Entry) :=
  (new.entries.filter fun (l, e) => !sameEntry (old.entries.lookup l) e).reverse

end Disk

end ExploitReplay
