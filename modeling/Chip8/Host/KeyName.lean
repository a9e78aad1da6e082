import Chip8.Host.Toolkit
import Chip8.Settings.Basic
import Chip8.Text.UpperCase

/-!
# Key names

The keys of a keyboard by name. A name counts as it is written if the toolkit knows it, else in upper case; a name
that is then still not known is refused.
-/

namespace Chip8.Host

/-- The code of the key that a name stands for. -/
def resolve [Toolkit] (name : Text) : Except SettingsFault Nat :=
  match name.toString? >>= Toolkit.codeOf? with
  | some code => .ok code
  | none =>
    match name.upper.toString? >>= Toolkit.codeOf? with
    | some code => .ok code
    | none => .error (.unknownKey name)

/-- Refuses settings with a key name that is not known: the names of the key map are judged in their order,
then the three control keys. -/
def checkKeys [Toolkit] (settings : Settings) : Except SettingsFault Unit := do
  for name in settings.keyMap.map (·.1) ++ [settings.quitKey, settings.stepKey, settings.dumpKey] do
    let _ ← resolve name

end Chip8.Host
