import Chip8.Registers
import Chip8.Settings.Datum

/-!
# Settings

What can be set: the size of a pixel, the speed, the files, the length of the history, breakpoints, the keys,
and the colours, which are handed on as they are. The key map names a key of the pad for each host key, in the
order in which the names came.
-/

namespace Chip8

/-- Host key names with their keys of the pad. -/
abbrev KeyMap := List (Text × Nibble)

/-- The arrangement of the pad on the left half of a keyboard. -/
def standardKeyMap : KeyMap :=
  [ ("1", 0x1), ("2", 0x2), ("3", 0x3), ("4", 0xC),
    ("Q", 0x4), ("W", 0x5), ("E", 0x6), ("R", 0xD),
    ("A", 0x7), ("S", 0x8), ("D", 0x9), ("F", 0xE),
    ("Z", 0xA), ("X", 0x0), ("C", 0xB), ("V", 0xF) ]

/-- Names a key of the pad for a host key; a name that is there keeps its place. -/
def KeyMap.bind (m : KeyMap) (name : Text) (key : Nibble) : KeyMap :=
  match m with
  | [] => [(name, key)]
  | (n, k) :: rest => if n = name then (n, key) :: rest else (n, k) :: KeyMap.bind rest name key

structure Settings where
  scale : Nat := 10
  cyclesPerSecond : Nat := 700
  timerHz : Nat := 60
  /-- The font file; without one, the built-in font is used. -/
  fontPath : Option Text := none
  dumpPath : Text := "memdump.dmp"
  historySize : Nat := 64
  breakpoints : List Int := []
  keyMap : KeyMap := standardKeyMap
  quitKey : Text := "Escape"
  stepKey : Text := "K"
  dumpKey : Text := "M"
  foreground : Datum := Value.text "#FFFFFF"
  background : Datum := Value.text "#000000"

/-- Why settings are refused. -/
inductive SettingsFault where
  /-- The document is no mapping. -/
  | rootNotMapping
  /-- The key map is no mapping. -/
  | keyMapNotMapping
  /-- The breakpoints are no list. -/
  | breakpointsNotList
  /-- A value, as shown, that should be an integer. -/
  | notInteger (value : Text)
  /-- A key that the pad does not have; the entry is given as written. -/
  | notKey (name value : String)
  /-- A value that has no text. -/
  | unwritable (fault : TextFault)
  /-- A file name that is no text or is empty. -/
  | notPath (field : String)
  /-- A number that must be positive. -/
  | notPositive (field : String)
  /-- A host key name that is not known. -/
  | unknownKey (name : Text)
  /-- A colour or a size that the host does not paint. -/
  | unpaintable (field : String)
  /-- A document that cannot be read. -/
  | malformed (path : Text)
  deriving DecidableEq, Repr

/-- Whether the fault was foreseen, so that it is shown to the user. -/
def SettingsFault.isReported : SettingsFault → Bool
  | unwritable _ | unpaintable _ => false
  | _ => true

def SettingsFault.message : SettingsFault → Text
  | rootNotMapping => "Configuration root must be a mapping."
  | keyMapNotMapping => "key_map must be a mapping of host key names to CHIP-8 keys."
  | breakpointsNotList => "breakpoints must be a list of addresses."
  | notInteger value => "Invalid integer format: " ++ value
  | notKey name value => "Key map entry " ++ name ++ " -> " ++ value ++ " is not a CHIP-8 key (0x0-0xF)."
  | unwritable fault => fault.message
  | notPath field => field ++ " must be a non-empty string path."
  | notPositive field => field ++ " must be a positive integer."
  | unknownKey name => "Unknown host key name: " ++ Text.quoted name
  | unpaintable field => field ++ " is not accepted by the host."
  | malformed path => "Malformed YAML in " ++ path

end Chip8
