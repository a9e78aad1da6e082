import Chip8.Font
import Chip8.Notice
import Chip8.Memory

/-!
# Images

Programs and fonts go into the memory as they are: a program at its fixed address, a font, which has a fixed
length, at the bottom. Each loading gives the notices to be made of it.
-/

namespace Chip8.Memory

/-- Puts a program into the memory. -/
def loadProgram (m : Memory) (data : List UInt8) : Except Fault (Memory × List Notice) := do
  return (← m.load programAddress data, [.imageLoaded data.length programAddress])

def loadProgramFile (m : Memory) (path : Text) (data : List UInt8) : Except Fault (Memory × List Notice) := do
  let (m, notices) ← m.loadProgram data
  return (m, notices ++ [.programLoaded path data.length])

/-- Puts a font into the memory; without a file, the built-in one. -/
def loadFont (m : Memory) (file : Option (Text × List UInt8)) : Except Fault (Memory × List Notice) := do
  let data := match file with
    | some (_, data) => data
    | none => fontset
  if data.length ≠ Fault.fontBytes then throw (.fontSize data.length)
  return (← m.load fontAddress data, [.imageLoaded data.length fontAddress, .fontLoaded (file.map (·.1))])

end Chip8.Memory
