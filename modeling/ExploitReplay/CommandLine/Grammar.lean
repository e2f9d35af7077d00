import ExploitReplay.CommandLine.Request
import ExploitReplay.CommandLine.Words

/-!
# Reading command lines

The options of the program come first, then the name of a command, then the options and operands of
the command. Help is given as soon as it is asked for, whatever comes after.

## Main definitions

* `Purpose`: what the options are for
* `Subcommand`, `command? name`: the commands
* `Invocation.ofArgs args`: what a command line comes to
-/

namespace ExploitReplay

namespace CommandLine

/-! ### Options -/

/-- What the options are for. -/
inductive Purpose where
  | help
  | preferences
  | verbose
  | output
  | save
  | solidityVersion
  | contractName
  | funds
  | showing
  | change
deriving DecidableEq, Repr

/-- The option for help. -/
def helpSwitch : Switch Purpose :=
  { key := .help, names := ["-h", "--help"] }

/-- The options of the program. -/
def programSwitches : List (Switch Purpose) :=
  [helpSwitch,
    { key := .preferences, names := ["--config-file"], values := 1 },
    { key := .verbose, names := ["--verbose", "-v"] }]

/-- The options of a compilation. -/
def compileSwitches : List (Switch Purpose) :=
  [helpSwitch,
    { key := .output, names := ["--output", "-o"], values := 1 },
    { key := .save, names := ["--save"] },
    { key := .solidityVersion, names := ["--solidity-version"], values := 1 },
    { key := .contractName, names := ["--contract-name"], values := 1 },
    { key := .funds, names := ["--funds"], values := 1 }]

/-- The options for preferences. -/
def settingsSwitches : List (Switch Purpose) :=
  [helpSwitch,
    { key := .showing, names := ["--show"] },
    { key := .change, names := ["--set"], values := 2 }]

/-! ### Commands -/

/-- A command: what help on it is about, its options, and the request that its items make. -/
structure Subcommand where
  topic : Topic
  switches : List (Switch Purpose)
  request? : List (Item Purpose) → Option Request

/-- What the options say about the place for a test. -/
def outputOf (items : List (Item Purpose)) : Output :=
  match (valuesOf .output items).getLast? with
  | none => .unsaid
  | some values => (values.head?.map Output.named).getD .unnamed

/-- The request to compile: there is one operand, the sequence file. -/
def compileRequest? (items : List (Item Purpose)) : Option Request :=
  match operands items with
  | [sequenceFile] =>
    some (.compile
      { sequenceFile
        output := outputOf items
        save := isGiven .save items
        solidityVersion := lastValue? .solidityVersion items
        contractName := lastValue? .contractName items
        funds := lastValue? .funds items })
  | _ => none

/-- The changes of settings, in the order they are given. -/
def changesOf (items : List (Item Purpose)) : List (String × String) :=
  (valuesOf .change items).filterMap fun
    | [key, text] => some (key, text)
    | _ => none

/-- The request about preferences. -/
def settingsRequest? (items : List (Item Purpose)) : Option Request :=
  match operands items with
  | [] => some (.settings { changes := changesOf items, showing := isGiven .showing items })
  | _ => none

/-- The request for the version. -/
def versionRequest? (items : List (Item Purpose)) : Option Request :=
  match operands items with
  | [] => some .version
  | _ => none

/-- The command with a name. -/
def command? : String → Option Subcommand
  | "compile" => some ⟨.compile, compileSwitches, compileRequest?⟩
  | "config" => some ⟨.settings, settingsSwitches, settingsRequest?⟩
  | "version" => some ⟨.version, [helpSwitch], versionRequest?⟩
  | _ => none

/-- What the arguments of a command come to. -/
def Subcommand.invocation (c : Subcommand) (preferences : Option String) (args : List String) :
    Invocation :=
  match wordsOf? c.switches args with
  | none => .misuse
  | some words =>
    let s := scan c.switches false words
    if isGiven .help s.items then .help c.topic
    else if s.ending ≠ .complete ∨ hasUnknown s.items ∨ hasLooseSeparator s.items then .misuse
    else
      match c.request? s.items with
      | some request => .request preferences request
      | none => .misuse

/-! ### The program -/

/-- A request that is not accepted because of unknown options before it. -/
def refused : Invocation → Invocation
  | .request _ _ => .misuse
  | other => other

/-- What the words after the options of the program come to. -/
def afterOptions (items : List (Item Purpose)) (name : String) (args : List String) : Invocation :=
  if hasLooseSeparator items then .misuse
  else
    match command? name with
    | none => .misuse
    | some c =>
      let outcome := c.invocation (lastValue? .preferences items) args
      if hasUnknown items then refused outcome else outcome

end CommandLine

open CommandLine

/-- What a command line comes to. -/
def Invocation.ofArgs (args : List String) : Invocation :=
  match wordsOf? programSwitches args with
  | none => .misuse
  | some words =>
    let s := scan programSwitches true words
    if isGiven .help s.items then .help .program
    else
      match s.ending with
      | .faulty => .misuse
      | .complete =>
        if hasUnknown s.items ∨ hasLooseSeparator s.items then .misuse else .nothing
      | .leading name left => afterOptions s.items name (args.drop (args.length - left))

end ExploitReplay
