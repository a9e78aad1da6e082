/-!
# Displays without pixels

A display of which a size is zero or negative. It can be cleared and shown like any other, but no coordinate
has a place on it: an operation that needs the place of a row or of a pixel in it is refused, the row first.
-/

namespace Chip8

/-- Why a coordinate has no place. -/
inductive PlaceFault where
  /-- The size to wrap around is zero. -/
  | zeroSize
  /-- The size is negative, and there is nothing at any place. -/
  | nothingThere
  deriving DecidableEq, Repr

def PlaceFault.message : PlaceFault → String
  | zeroSize => "integer modulo by zero"
  | nothingThere => "list index out of range"

structure EmptyDisplay where
  width : Int
  height : Int
  isEmpty : width ≤ 0 ∨ height ≤ 0
  dirty : Bool := false

namespace EmptyDisplay

/-- The picture counts as changed. -/
def cleared (d : EmptyDisplay) : EmptyDisplay := { d with dirty := true }

/-- The picture counts as shown. -/
def markClean (d : EmptyDisplay) : EmptyDisplay := { d with dirty := false }

/-- Why a coordinate on a side of a size that is not positive has no place. -/
def faultOf (size : Int) : PlaceFault := if size = 0 then .zeroSize else .nothingThere

def fault (d : EmptyDisplay) : PlaceFault := faultOf (if d.height ≤ 0 then d.height else d.width)

/-- Draws a sprite: its rows need a place, and so does every set bit of one. Of a row the low eight bits
count. -/
def draw (d : EmptyDisplay) (sprite : List Int) : Except PlaceFault Unit :=
  let needsPlace := if d.height ≤ 0 then !sprite.isEmpty else sprite.any fun row => row % 256 ≠ 0
  if needsPlace then .error d.fault else .ok ()

end EmptyDisplay

end Chip8
