import ExploitReplay.CommandLine.Grammar
import ExploitReplay.CommandLine.Help
import ExploitReplay.CommandLine.Settings
import ExploitReplay.Sequence.File
import ExploitReplay.TestContract
import ExploitReplay.TestFile

/-!
# Commands

## Main definitions

* `Action.compile store request`: a sequence file is compiled, and its test printed or written
* `Action.settings store request`: preferences are changed or shown
* `Action.ofInvocation`, `Action.ofArgs`: what a command line does, with its exit code
-/

namespace ExploitReplay.Action

open Preferences (Store)

/-- The exit codes. -/
abbrev ExitCode := Nat

/-- All went well. -/
def success : ExitCode := 0

/-- The request cannot be met. -/
def failure : ExitCode := 1

/-- The command line is no request. -/
def misuse : ExitCode := 2

/-! ### Compiling -/

/-- A text that is filled in. -/
def filled (text : Option String) : Option String :=
  text.filter (· ≠ "")

/-- The template of the preferences, with what the request says instead. -/
def templateFor (store : Store) (request : CompileRequest) : Template :=
  let template := store.preferences.template
  { template with
    solidityVersion := (filled request.solidityVersion).getD template.solidityVersion
    contractName := (filled request.contractName).getD template.contractName }

/-- The funding of the sequence, with the amount of the request if it has one. -/
def fundingFor (funding : Funding) (request : CompileRequest) : Funding :=
  { funding with amount := (filled request.funds).or funding.amount }

/-- What is reported when a file gives no exploit; a document that cannot be looked into is not
reported. -/
def unreadReport? (name : String) (cause : Exploit.Unread) : Option Report :=
  cause.message?.map fun why =>
    match cause with
    | .nothingThere _ | .notAFile _ | .unreachable _ | .beyondLimits _ => .sequenceUnread name why
    | .notJson _ _ | .rejected _ => .sequenceRejected why

/-- A failure of the disk is put out. -/
def sayFailure (cause : DiskError) : Action Unit :=
  tell cause fun message => say ("Error: " ++ message ++ "\n")

/-- The exploit in a sequence file; if there is none, it is reported why. -/
def readSequence (name : String) : Action (Option Exploit) := do
  let (notice, result) := Exploit.ofFile (← get).disk name
  say notice
  match result with
  | .ok exploit =>
    warn exploit.warnings
    return some exploit
  | .error (.unreachable cause) =>
    sayFailure cause
    return none
  | .error cause =>
    match unreadReport? name cause with
    | some r =>
      report r
      return none
    | none => throw (.unread cause)

/-- A test is written, or it is said why it cannot be. -/
def writeTest (source : String) (output : Path) : Action ExitCode := do
  let (disk, result) := TestFile.write (← get).disk source output
  setDisk disk
  match result with
  | .ok file =>
    report (.testWritten file)
    return success
  | .error cause =>
    sayFailure cause
    return failure

/-- Where a test goes. -/
inductive Destination where
  | console
  | file (path : Path)
  /-- A file that has no name. -/
  | nowhere
deriving DecidableEq

/-- Where the test goes: to the place of the request, to one in the directory of the preferences, or
onto the console. -/
def destinationFor (store : Store) (request : CompileRequest) : Action Destination := do
  match request.output with
  | .named output => return .file (Path.ofString output)
  | .unnamed => return .nowhere
  | .unsaid =>
    if request.save then .file <$> testPath store request.sequenceFile else return .console

/-- A sequence file is compiled, and its test printed or written. -/
def compile (store : Store) (request : CompileRequest) : Action ExitCode := do
  let destination ← destinationFor store request
  match ← readSequence request.sequenceFile with
  | none => return failure
  | some exploit =>
    let outcome := ExploitReplay.compile (templateFor store request)
      (fundingFor exploit.funding request) exploit.steps {}
    warn outcome.warnings
    match outcome.result, destination with
    | .error cause, _ =>
      report (.notCompiled cause)
      return failure
    | .ok source, .console =>
      say source
      return success
    | .ok source, .file place => writeTest source place
    | .ok _, .nowhere => throw .noPlace

/-! ### Preferences -/

/-- Preferences are changed, all of them or none, or else they are shown. -/
def settings (store : Store) (request : SettingsRequest) : Action ExitCode := do
  if request.changes ≠ [] then
    match ← changeSettings store request.changes with
    | none => return failure
    | some changed =>
      saveStore changed
      return success
  else if request.showing then
    showStore store
    return success
  else
    say "Nothing to do: use --show or --set KEY VALUE\n"
    return failure

/-! ### Command lines -/

/-- The version is printed. -/
def version : Action ExitCode := do
  say "step2code v1.0.0\n"
  return success

/-- A request is met, after the preferences have been read. -/
def ofRequest (preferences : Option String) (request : Request) : Action ExitCode := do
  let store ← openStore ((filled preferences).getD usualLocation)
  match request with
  | .compile details => compile store details
  | .settings details => settings store details
  | .version => version

/-- What a command line comes to is done. -/
def ofInvocation : Invocation → Action ExitCode
  | .help topic => do
    say topic.help
    return success
  | .misuse => return misuse
  | .nothing => do
    say Topic.program.help
    return failure
  | .request preferences request => ofRequest preferences request

/-- What a command line does. -/
def ofArgs (args : List String) : Action ExitCode :=
  ofInvocation (Invocation.ofArgs args)

end ExploitReplay.Action
