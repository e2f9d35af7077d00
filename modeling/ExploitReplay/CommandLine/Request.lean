/-!
# Requests

## Main definitions

* `Request`: what a user asks the program to do
* `CompileRequest`, `SettingsRequest`: the details of two of them
* `Output`: what is said about the place for a test
* `Topic`: what help is about
* `Invocation`: what a command line comes to
-/

namespace ExploitReplay

/-- What is said about the place for a test. -/
inductive Output where
  | unsaid
  /-- The file or directory for the test. -/
  | named (path : String)
  /-- A place is asked for, but no name is given. -/
  | unnamed
deriving DecidableEq, Repr

/-- A sequence file is to be compiled. -/
structure CompileRequest where
  sequenceFile : String
  /-- The place for the test; if nothing is said about it, the test is printed. -/
  output : Output := .unsaid
  /-- The test goes to the directory of the preferences, unless another place is asked for. -/
  save : Bool := false
  solidityVersion : Option String := none
  contractName : Option String := none
  funds : Option String := none
deriving DecidableEq, Repr

/-- Preferences are to be changed or shown. -/
structure SettingsRequest where
  /-- The settings to change, with their texts. -/
  changes : List (String × String) := []
  showing : Bool := false
deriving DecidableEq, Repr

/-- What a user asks the program to do. -/
inductive Request where
  | compile (details : CompileRequest)
  | settings (details : SettingsRequest)
  | version
deriving DecidableEq, Repr

/-- What help is about: the program, or one of its commands. -/
inductive Topic where
  | program
  | compile
  | settings
  | version
deriving DecidableEq, Repr

/-- What a command line comes to. -/
inductive Invocation where
  /-- Help is asked for. -/
  | help (topic : Topic)
  /-- The words do not form a command line of the program. -/
  | misuse
  /-- There is no command. -/
  | nothing
  /-- A request, with the file of the preferences if one is given. -/
  | request (preferences : Option String) (request : Request)
deriving DecidableEq, Repr

end ExploitReplay
