import ExploitReplay.CommandLine.Report
import ExploitReplay.Sequence.File

/-!
# Actions

A command works on a disk and puts out text and warnings, with the help of a console and a codec. It
ends with an exit code, or it is interrupted without one; what it did before stays done.

## Main definitions

* `Desk`: the disk, the console, the codec, and what has been put out
* `Interruption`: why a command has no exit code
* `Action α`: a change of a desk that gives a value or is interrupted
* `Action.say`, `Action.report`, `Action.warn`: what an action puts out

## Main results

* `on_bind`: what two actions in a row do
* `on_report`: a report changes nothing but the text that has been put out
-/

namespace ExploitReplay

/-- What a command works on and with, and what it has put out. -/
structure Desk where
  disk : Disk
  console : Console
  codec : Preferences.Codec
  printed : String := ""
  warnings : List Warning := []

/-- Why a command has no exit code. -/
inductive Interruption where
  /-- The preferences cannot be used. -/
  | unusable (cause : Preferences.Store.Unusable)
  /-- The settings cannot be listed. -/
  | unlisted
  /-- There is no directory for tests. -/
  | unplaced (cause : Preferences.Store.Unplaced)
  /-- No file has such a name. -/
  | unnameable (cause : DiskError)
  /-- A test is to be written, but there is no name for its file. -/
  | noPlace
  /-- A sequence file cannot be looked into. -/
  | unread (cause : Exploit.Unread)
  /-- The console does not show a message. -/
  | unshown (cause : Console.Fault)

/-- The interruption in words. -/
def Interruption.message : Interruption → String
  | .unusable .noHome | .unplaced .noHome => "The home directory is not known."
  | .unplaced .unnameable => "No directory has such a name."
  | .unnameable cause => "No file has such a name: " ++ cause.message
  | .unusable (.noPlace cause) => cause.message
  | .unusable .notText => "The preferences are no text."
  | .unusable (.badValue message) => "The preferences cannot be read: " ++ message
  | .unusable (.badPair cause) => "The preferences have a bad entry: " ++ cause.message
  | .unlisted => "The preferences cannot be listed."
  | .noPlace => "There is no name for the file of the test."
  | .unread (.beyondLimits cause) => cause.message
  | .unread cause => cause.message?.getD "The document has a part that is no object or list."
  | .unshown (.unmatched message) | .unshown (.other message) =>
    "A message cannot be shown: " ++ message

/-- A change of a desk that gives a value or is interrupted. -/
abbrev Action (α : Type) := ExceptT Interruption (StateM Desk) α

namespace Action

/-- An action on a desk: the desk it leaves, and what it gives. -/
def on {α : Type} (a : Action α) (d : Desk) : Except Interruption α × Desk :=
  StateT.run (ExceptT.run a) d

@[simp] theorem on_pure {α : Type} (x : α) (d : Desk) : on (pure x) d = (.ok x, d) := rfl

@[simp] theorem on_throw {α : Type} (cause : Interruption) (d : Desk) :
    on (throw cause : Action α) d = (.error cause, d) := rfl

@[simp] theorem on_get (d : Desk) : on get d = (.ok d, d) := rfl

/-- An action and the next: an interruption of the first is one of both. -/
theorem on_bind {α β : Type} (a : Action α) (next : α → Action β) (d : Desk) :
    on (a >>= next) d =
      match a.on d with
      | (.ok x, left) => (next x).on left
      | (.error cause, left) => (.error cause, left) := by
  change (match a d with | (r, left) => ExceptT.bindCont next r left) = _
  rcases h : a d with ⟨r | r, left⟩ <;> simp [on, ExceptT.run, StateT.run, h] <;> rfl

/-! ### Output -/

/-- Text is put out as it is. -/
def say (text : String) : Action Unit :=
  modify fun d => { d with printed := d.printed ++ text }

/-- Warnings are put out. -/
def warn (warnings : List Warning) : Action Unit :=
  modify fun d => { d with warnings := d.warnings ++ warnings }

/-- The disk is replaced. -/
def setDisk (disk : Disk) : Action Unit :=
  modify fun d => { d with disk := disk }

/-- A failure of the disk is told. A name that no file has interrupts instead. -/
def tell (cause : DiskError) (message : String → Action Unit) : Action Unit :=
  if cause.cause = .unnameable then throw (.unnameable cause) else message cause.message

/-- A report is shown. -/
def report (r : Report) : Action Unit := do
  match (← get).console.print r.markup with
  | .ok line => say line
  | .error cause => throw (.unshown cause)

@[simp] theorem on_say (text : String) (d : Desk) :
    (say text).on d = (.ok (), { d with printed := d.printed ++ text }) := rfl

@[simp] theorem on_warn (warnings : List Warning) (d : Desk) :
    (warn warnings).on d = (.ok (), { d with warnings := d.warnings ++ warnings }) := rfl

@[simp] theorem on_setDisk (disk : Disk) (d : Desk) :
    (setDisk disk).on d = (.ok (), { d with disk }) := rfl

/-- A report changes nothing but the text that has been put out. -/
theorem on_report (r : Report) (d : Desk) :
    (report r).on d =
      match d.console.print r.markup with
      | .ok line => (.ok (), { d with printed := d.printed ++ line })
      | .error cause => (.error (.unshown cause), d) := by
  rw [report, on_bind, on_get]
  cases h : d.console.print r.markup <;> simp [h]

end Action

end ExploitReplay
