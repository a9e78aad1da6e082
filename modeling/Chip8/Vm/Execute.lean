import Chip8.Vm

/-!
# Executing instructions

What each instruction does to the machine. All operands are read before anything is written, and where an
instruction writes the flag, it does so last: with the flag register as target, the flag remains. Block
transfers go byte by byte, and one that leaves the memory keeps the bytes moved before it.
-/

namespace Chip8.Vm

def glyphSize : UInt16 := 5

/-- Skips the next instruction if the condition holds. -/
def skipWhen (condition : Bool) : Action Unit :=
  if condition then onRegisters Registers.advance else return

def keyDown (x : Nibble) : Action Bool := do
  let m ← get
  match m.keypad.isDown (m.registers.get x).toNat with
  | .ok down => return down
  | .error fault => throw fault

/-- Writes a result into a register and then a condition into the flag. -/
def result (x : Nibble) (value : UInt8) (flag : Bool) : Action Unit :=
  onRegisters fun r => (r.set x value).writeFlag flag

/-- The three decimal digits of a byte, hundreds first. -/
def decimalDigits (value : UInt8) : List UInt8 := [value / 100, value / 10 % 10, value % 10]

def upTo (x : Nibble) : List Nibble := (List.finRange 16).take (x + 1)

/-- Executes an instruction; the program counter already stands at the next one. -/
def execute (instruction : Instruction) : Action Unit := do
  let r := (← get).registers
  match instruction with
  | .clear => modify fun m => { m with display := .cleared }
  | .ret => tryRegisters Registers.ret
  | .jump target => onRegisters (·.goto target.val)
  | .call target => tryRegisters (·.call target.val)
  | .jumpFrom target => onRegisters (·.goto (target.val + (r.get 0).toNat))
  | .skipEqual x value => skipWhen (r.get x = value)
  | .skipUnequal x value => skipWhen (r.get x ≠ value)
  | .skipSame x y => skipWhen (r.get x = r.get y)
  | .skipDifferent x y => skipWhen (r.get x ≠ r.get y)
  | .skipDown x => skipWhen (← keyDown x)
  | .skipUp x => skipWhen (!(← keyDown x))
  | .put x value => onRegisters (·.set x value)
  | .increase x value => onRegisters (·.set x (r.get x + value))
  | .copy x y => onRegisters (·.set x (r.get y))
  | .bitOr x y => onRegisters (·.set x (r.get x ||| r.get y))
  | .bitAnd x y => onRegisters (·.set x (r.get x &&& r.get y))
  | .bitXor x y => onRegisters (·.set x (r.get x ^^^ r.get y))
  | .add x y => result x (r.get x + r.get y) (255 < (r.get x).toNat + (r.get y).toNat)
  | .sub x y => result x (r.get x - r.get y) (r.get y < r.get x)
  | .subFrom x y => result x (r.get y - r.get x) (r.get x < r.get y)
  | .shiftRight x _ => result x (r.get x / 2) (r.get x % 2 = 1)
  | .shiftLeft x _ => result x (r.get x + r.get x) (128 ≤ r.get x)
  | .random x mask =>
    let data ← randomByte
    onRegisters (·.set x (data &&& mask))
  | .pointTo target => onRegisters (·.setIndex target.val)
  | .addIndex x => onRegisters fun r => { r with i := r.i + (r.get x).toUInt16 }
  | .pointToGlyph x => onRegisters fun r => { r with i := glyphSize * (r.get x % 16).toUInt16 }
  | .getDelay x => onRegisters fun r => r.set x r.dt
  | .setDelay x => onRegisters fun r => { r with dt := r.get x }
  | .setSound x => onRegisters fun r => { r with st := r.get x }
  | .awaitKey x =>
    match (← get).keypad.firstPressed with
    | none => onRegisters Registers.rewind
    | some key => onRegisters (·.set x (UInt8.ofNat key))
  | .storeDecimal x => storeBytes r.i.toNat (decimalDigits (r.get x))
  | .storeRegisters x => storeBytes r.i.toNat ((upTo x).map r.get)
  | .loadRegisters x => loadRegisters r.i.toNat (upTo x)
  | .draw x y rows =>
    let sprite ← readBytes r.i.toNat rows
    let collision ← modifyGet fun m =>
      let (display, collision) :=
        m.display.draw (r.get x).toNat (r.get y).toNat (sprite.map fun row => (row.toNat : Int))
      (collision, { m with display })
    onRegisters (·.writeFlag collision)

end Chip8.Vm
