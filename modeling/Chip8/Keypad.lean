import Chip8.Fault
import Chip8.Nibble

/-!
# Keypad

Sixteen keys, each up or down. Keys are asked for by an arbitrary integer; one that the pad does not have is
refused.
-/

namespace Chip8

/-- Which of the sixteen keys are down. -/
structure Keypad where
  down : Bank Bool := Vector.replicate 16 false
  deriving DecidableEq, Repr

namespace Keypad

def set (k : Keypad) (key : Int) (pressed : Bool) : Except Fault Keypad :=
  match Nibble.ofInt? key with
  | some i => .ok { down := k.down.put i pressed }
  | none => .error (.invalidKey key)

def isDown (k : Keypad) (key : Int) : Except Fault Bool :=
  match Nibble.ofInt? key with
  | some i => .ok (k.down.entry i)
  | none => .error (.invalidKey key)

/-- The keys that are down, in ascending order. -/
def pressed (k : Keypad) : List Nibble := (List.finRange 16).filter k.down.entry

/-- The least key that is down. -/
def firstPressed (k : Keypad) : Option Nibble := (List.finRange 16).find? k.down.entry

/-- The pad with every key up. -/
def released : Keypad := {}

theorem firstPressed_eq_head? (k : Keypad) : k.firstPressed = k.pressed.head? := by
  simp [firstPressed, pressed, List.head?_filter]

end Keypad

end Chip8
