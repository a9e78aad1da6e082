import Chip8.Debugger
import Chip8.Disassembly

/-!
# State report

The state of a machine as text: cycle count, registers in groups, live return addresses, keys that are down,
the words around the program counter with an arrow at the one that starts there, and the instructions completed
last. The number of words and instructions shown is set by `context`, which may be any integer. A report reads
the machine only.

`report` is the text itself. `giveReport` puts it together from what is looked up and read on the way, any of
which could be refused.
-/

namespace Chip8

open Numeral

/-- A register as the report shows it: its name and its width in bits. -/
structure RegisterInfo where
  name : String
  width : Nat
  deriving DecidableEq, Repr

structure RegisterGroup where
  name : String
  registers : List RegisterInfo
  deriving DecidableEq, Repr

namespace Report

def layout : List RegisterGroup :=
  [ { name := "General"
      registers := (List.finRange 16).map fun x => { name := Instruction.registerName x, width := 8 } },
    { name := "Index/Pointers"
      registers := [⟨"I", 16⟩, ⟨"PC", 16⟩, ⟨"SP", 8⟩] },
    { name := "Timers"
      registers := [⟨"DT", 8⟩, ⟨"ST", 8⟩] } ]

def registerMap (r : Registers) : List (String × Nat) :=
  (List.finRange 16).map (fun x => (Instruction.registerName x, (r.get x).toNat))
    ++ [("I", r.i.toNat), ("PC", r.pc.toNat), ("SP", r.sp.val), ("DT", r.dt.toNat), ("ST", r.st.toNat)]

/-- A text filled with blanks to the width of the row headings. -/
def heading (s : String) : String := s ++ String.ofList (List.replicate (15 - s.length) ' ')

/-- Words with a blank between them, or the text for none. -/
def listed (empty : String) (words : List String) : String :=
  if words.isEmpty then empty else " ".intercalate words

def cellOf (info : RegisterInfo) (value : Nat) : String :=
  info.name ++ "=" ++ hex ((info.width + 3) / 4) value

def cell (r : Registers) (info : RegisterInfo) : String :=
  cellOf info (((registerMap r).lookup info.name).getD 0)

def groupRow (r : Registers) (group : RegisterGroup) : String :=
  heading group.name ++ " ".intercalate (group.registers.map (cell r))

/-- The row of live return addresses. -/
def stackRow (r : Registers) : String :=
  heading "Stack" ++ listed "(empty)" (r.callers.map fun a => hex 3 a.toNat)

def keyRow (k : Keypad) : String :=
  heading "Keys down" ++ listed "(none)" (k.pressed.map fun key => hex 1 key.val)

/-- The even address from which on words are shown. -/
def start (pc : UInt16) (context : Int) : Int :=
  let first := (pc.toNat : Int) - context
  max 0 (first - first % 2)

/-- A line of the disassembly, with an arrow if it stands at `pc`. -/
def memoryRow (pc : UInt16) (line : Disassembly.Line) : String :=
  (if line.address = pc.toNat then "->" else "  ") ++ " " ++ hex 3 line.address ++ ": " ++ line.bytes
    ++ "  " ++ line.text

/-- The lines of the disassembly around the program counter. -/
def window (m : Vm) (context : Int) : List Disassembly.Line :=
  (disassemble m.memory (start m.registers.pc context) (context * 2)).toOption.getD []

/-- The part of the history that is shown: the last `context` entries; for a context of zero or less, all but
the first `-context`. -/
def recent (history : List Snapshot) (context : Int) : List Snapshot :=
  if 0 < context then history.drop (history.length - context.toNat) else history.drop (-context).toNat

/-- The rows about the history; there are none before the first instruction. -/
def historyRows (history : List Snapshot) (context : Int) : List String :=
  if history.isEmpty then []
  else "Recent:" :: (recent history context).map fun s => "   " ++ s.symbol

def title (cycles : Nat) : String := "--- CHIP-8 state (cycle " ++ decimal cycles ++ ") ---"

/-- All rows, around those of the registers and the lines of the disassembly. -/
def assemble (d : Debugger) (context : Int) (groups : List String) (lines : List Disassembly.Line) : List String :=
  let m := d.vm
  title m.cycles
    :: groups
    ++ [stackRow m.registers, keyRow m.keypad]
    ++ lines.map (memoryRow m.registers.pc)
    ++ historyRows d.history.toList context

def rows (d : Debugger) (context : Int) : List String :=
  assemble d context (layout.map (groupRow d.vm.registers)) (window d.vm context)

/-! ## Rows that could be refused -/

/-- Why a report is refused: a register of the layout has no value, or a word cannot be read. -/
inductive Refusal where
  | register (name : String)
  | word (fault : Fault)
  deriving DecidableEq, Repr

def cell? (r : Registers) (info : RegisterInfo) : Except Refusal String :=
  match (registerMap r).lookup info.name with
  | some value => .ok (cellOf info value)
  | none => .error (.register info.name)

def groupRow? (r : Registers) (group : RegisterGroup) : Except Refusal String := do
  return heading group.name ++ " ".intercalate (← group.registers.mapM (cell? r))

def rows? (d : Debugger) (context : Int) : Except Refusal (List String) := do
  let groups ← layout.mapM (groupRow? d.vm.registers)
  let lines ← (disassemble d.vm.memory (start d.vm.registers.pc context) (context * 2)).mapError .word
  return assemble d context groups lines

/-- How much is shown unless asked for otherwise. -/
def standardContext : Int := 8

end Report

def Debugger.report (d : Debugger) (context : Int := Report.standardContext) : String :=
  "\n".intercalate (Report.rows d context)

/-- Gives the state report, unless a part of it is refused. -/
def Debugger.giveReport (context : Int := Report.standardContext) : EStateM Report.Refusal Debugger String := do
  return "\n".intercalate (← ofExcept (Report.rows? (← get) context))

end Chip8
