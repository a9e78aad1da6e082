import Chip8.Numeral.Reading
import Chip8.Settings.Basic
import Chip8.Text.UpperCase

/-!
# Settings from a document

A document is a mapping; every entry is about one field, and a field without entry keeps its standard value.
Entries are judged in a fixed order, and the first bad one is the fault: the key map, the breakpoints, the
single fields in their order, and last that the numbers are positive. A value that is shown must have a text;
how deep its parts may stand inside it depends on where it is shown. A key map or a list of breakpoints that does
not count as given is the same as none.
-/

namespace Chip8.Settings

open Numeral

/-- What the text of a value is made for. -/
inductive Site where
  /-- The refusal of a number. -/
  | number
  /-- The refusal of a breakpoint. -/
  | breakpoint
  /-- The name of a key. -/
  | keyName
  /-- The refusal of an entry of the key map. -/
  | keyEntry

/-- How many levels there are for the parts of a value at each site. The calls that led there have used up the others
that the host grants. -/
class Room where
  left : Site → Nat

instance : Room := ⟨fun _ => Datum.usualRoom⟩

/-- Whether a text starts with the lead of base sixteen. -/
def hasLead : List Char → Bool
  | '0' :: 'x' :: _ | '0' :: 'X' :: _ => true
  | _ => false

/-- The text of a value that is shown. -/
def shown [Room] (site : Site) (d : Datum) : Except SettingsFault Text :=
  (d.shown (Room.left site)).mapError .unwritable

/-- A value as it is written inside other values. -/
def literal [Room] (site : Site) (d : Datum) : Except SettingsFault String :=
  (d.literal (Room.left site)).mapError .unwritable

/-- The integer that a text stands for: it is a numeral, in base sixteen if it starts with the lead of that
base. -/
def integerOf? (t : Text) : Option Int := do
  let s ← t.toList?
  readInt? (if hasLead s then 16 else 10) s

/-- The integer that a value stands for: an integer itself, or a text that is a numeral. A truth value is
none. -/
def integer [Room] (site : Site) (d : Datum) : Except SettingsFault Int :=
  match d.value with
  | .int n => .ok n
  | .text t =>
    match integerOf? t with
    | some n => .ok n
    | none => .error (.notInteger t)
  | _ => do throw (.notInteger (← shown site d))

/-- The file name that a value stands for. -/
def path (field : String) (d : Datum) : Except SettingsFault Text :=
  match d.value with
  | .text t => if t.isEmpty then .error (.notPath field) else .ok t
  | _ => .error (.notPath field)

/-- The file name that a value stands for, where there may be none. -/
def optionalPath (field : String) (d : Datum) : Except SettingsFault (Option Text) :=
  match d.value with
  | .null => .ok none
  | _ => some <$> path field d

/-- The key of the pad that an entry of the key map names. -/
def padKey [Room] (name value : Datum) : Except SettingsFault Nibble := do
  match Nibble.ofInt? (← integer .number value) with
  | some key => return key
  | none => throw (.notKey (← literal .keyEntry name) (← literal .keyEntry value))

/-- Adds the entries of a key map in their order, with the host key names in upper case. -/
def bindKeys [Room] (m : KeyMap) : List (Datum × Datum) → Except SettingsFault KeyMap
  | [] => .ok m
  | (name, value) :: rest => do
    let key ← padKey name value
    bindKeys (m.bind (← shown .keyName name).upper key) rest

/-- The key map of an entry. -/
def keyMapOf [Room] (entry : Option Datum) : Except SettingsFault KeyMap :=
  match entry.filter Datum.given with
  | none => .ok standardKeyMap
  | some d =>
    match d.entries? with
    | some entries => bindKeys standardKeyMap entries
    | none => .error .keyMapNotMapping

/-- The breakpoints of an entry. -/
def breakpointsOf [Room] (entry : Option Datum) : Except SettingsFault (List Int) :=
  match entry.filter Datum.given with
  | none => .ok []
  | some d =>
    match d.items? with
    | some items => items.mapM (integer .breakpoint)
    | none => .error .breakpointsNotList

def positive (field : String) (n : Int) : Except SettingsFault Nat :=
  if 0 < n then .ok n.toNat else .error (.notPositive field)

def ofEntries [Room] (entries : List (Datum × Datum)) : Except SettingsFault Settings := do
  let standard : Settings := {}
  let entry (field : String) : Option Datum := Datum.get? field entries
  let number (field : String) (other : Nat) : Except SettingsFault Int :=
    match entry field with
    | some value => integer .number value
    | none => .ok other
  let name (field : String) (other : Text) : Except SettingsFault Text :=
    match entry field with
    | some value => shown .keyName value
    | none => .ok other
  let keyMap ← keyMapOf (entry "key_map")
  let breakpoints ← breakpointsOf (entry "breakpoints")
  let scale ← number "scale" standard.scale
  let cyclesPerSecond ← number "cycles_per_second" standard.cyclesPerSecond
  let timerHz ← number "timer_hz" standard.timerHz
  let fontPath ← match entry "font_path" with
    | some value => optionalPath "font_path" value
    | none => pure standard.fontPath
  let dumpPath ← match entry "dump_path" with
    | some value => path "dump_path" value
    | none => pure standard.dumpPath
  let historySize ← number "history_size" standard.historySize
  let quitKey ← name "quit_key" standard.quitKey
  let stepKey ← name "step_key" standard.stepKey
  let dumpKey ← name "dump_key" standard.dumpKey
  return {
    scale := ← positive "scale" scale
    cyclesPerSecond := ← positive "cycles_per_second" cyclesPerSecond
    timerHz := ← positive "timer_hz" timerHz
    historySize := ← positive "history_size" historySize
    fontPath, dumpPath, breakpoints, keyMap, quitKey, stepKey, dumpKey
    foreground := (entry "foreground").getD standard.foreground
    background := (entry "background").getD standard.background }

/-- The settings that a document makes. -/
def ofDatum [Room] (d : Datum) : Except SettingsFault Settings :=
  match d.entries? with
  | some entries => ofEntries entries
  | none => .error .rootNotMapping

end Chip8.Settings
