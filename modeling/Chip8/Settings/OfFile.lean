import Chip8.Settings.OfDatum
import Chip8.Yaml.Document

/-!
# Settings from a file

A settings file is a document in UTF-8. An empty document stands for no entries. The reader of documents is not
part of the program, which relies on it only for what a document stands for, and for one fault: that a text is no
document. So every reader may be put in its place.
-/

namespace Chip8

/-- How the bytes of a file are read: what their only document stands for, if there is one. -/
abbrev DocumentReader := List UInt8 → Except Yaml.Fault (Option Datum)

/-- Why a settings file gives no settings. -/
inductive SettingsFileFault where
  /-- The reader has another fault than that the text is no document. -/
  | document (fault : Yaml.Fault)
  | settings (fault : SettingsFault)

/-- The fault of settings that came from a file. A value that is too deep to be written is the same fault as a document
that is too deep to be read. -/
def SettingsFileFault.ofSettings : SettingsFault → SettingsFileFault
  | .unwritable .tooDeep => document .tooDeep
  | fault => settings fault

namespace Settings

/-- The settings that the bytes of a file make. -/
def ofFile [Room] (path : Text) (data : List UInt8) (read : DocumentReader := Yaml.read) :
    Except SettingsFileFault Settings :=
  match read data with
  | .error .malformed => .error (.settings (.malformed path))
  | .error fault => .error (.document fault)
  | .ok none => (ofEntries []).mapError .ofSettings
  | .ok (some d) => (if d.value.isNull then ofEntries [] else ofDatum d).mapError .ofSettings

end Settings

end Chip8
