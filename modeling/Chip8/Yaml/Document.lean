import Chip8.Yaml.Block
import Chip8.Yaml.Node.OfTokens
import Chip8.Yaml.Node.ToDatum

/-!
# Documents

Reading the only document of a file. This is the reader that settings files have unless they are given another one;
what is proved of settings files does not depend on it.
-/

namespace Chip8.Yaml

/-- What the document of a file stands for; a file may hold none. -/
def read (data : List UInt8) : Except Fault (Option Datum) := do
  match ← Document.ofTokens (Token.scan (.ofFile data)) with
  | some document => return some (← document.toDatum)
  | none => return none

end Chip8.Yaml
