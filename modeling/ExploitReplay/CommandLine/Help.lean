import ExploitReplay.CommandLine.Request

/-!
# Help

## Main definitions

* `Topic.help`: what a user is told about the program, or about one of its commands
-/

namespace ExploitReplay

/-- The lines on the program. -/
def programHelp : List String :=
  ["usage: step2code [-h] [--config-file CONFIG_FILE] [--verbose] " ++
      "\x7bcompile,config,version\x7d ...",
    "",
    "step2code: compile exploit call sequences into Foundry tests",
    "",
    "positional arguments:",
    "  \x7bcompile,config,version\x7d",
    "                        Available commands",
    "    compile             Generate a Foundry test from a sequence JSON file",
    "    config              Manage configuration settings",
    "    version             Show version information",
    "",
    "options:",
    "  -h, --help            show this help message and exit",
    "  --config-file CONFIG_FILE",
    "                        Path to config.yaml (default: ~/.step2code/config.yaml)",
    "  --verbose, -v         Verbose output",
    "",
    "Examples:",
    "  step2code compile sequence.json",
    "  step2code compile sequence.json -o test/Exploit.t.sol --funds \"10 ether\"",
    "  step2code config --set solidity_version 0.8.20",
    "        "]

/-- The lines on compiling a sequence. -/
def compileHelp : List String :=
  ["usage: step2code compile [-h] [--output OUTPUT] [--save] " ++
      "[--solidity-version SOLIDITY_VERSION] [--contract-name CONTRACT_NAME] [--funds FUNDS] " ++
      "sequence",
    "",
    "positional arguments:",
    "  sequence              Path to the sequence JSON file",
    "",
    "options:",
    "  -h, --help            show this help message and exit",
    "  --output OUTPUT, -o OUTPUT",
    "                        Output file or directory (default: print to stdout)",
    "  --save                Write to <output_dir>/<name>.t.sol from config",
    "  --solidity-version SOLIDITY_VERSION",
    "                        Override pragma version",
    "  --contract-name CONTRACT_NAME",
    "                        Override test contract name",
    "  --funds FUNDS         ETH dealt to every caller in setUp (e.g. \"10 ether\")"]

/-- The lines on preferences. -/
def settingsHelp : List String :=
  ["usage: step2code config [-h] [--show] [--set KEY VALUE]",
    "",
    "options:",
    "  -h, --help       show this help message and exit",
    "  --show           Show current configuration",
    "  --set KEY VALUE  Update a setting"]

/-- The lines on the version. -/
def versionHelp : List String :=
  ["usage: step2code version [-h]",
    "",
    "options:",
    "  -h, --help  show this help message and exit"]

/-- What a user is told about a topic. -/
def Topic.help (t : Topic) : String :=
  let lines :=
    match t with
    | .program => programHelp
    | .compile => compileHelp
    | .settings => settingsHelp
    | .version => versionHelp
  String.join (lines.map (· ++ "\n"))

end ExploitReplay
