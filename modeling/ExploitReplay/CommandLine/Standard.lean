import ExploitReplay.CommandLine.Action
import ExploitReplay.Console.Message
import ExploitReplay.Yaml.Codec

/-!
# The usual desk

## Main definitions

* `Desk.standard width disk`: a desk with a plain terminal and the codec for YAML
-/

namespace ExploitReplay

/-- A desk with a plain terminal and the codec for YAML. -/
def Desk.standard (width : Nat) (disk : Disk) : Desk where
  disk
  console := Terminal.console { width }
  codec := Yaml.codec

end ExploitReplay
