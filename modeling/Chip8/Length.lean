import Chip8.Fault

/-!
# Lengths

How long a row in memory can be. Its length must fit a word of 64 bits with sign, and there must be room for it;
a picture is a row of rows.
-/

namespace Chip8

namespace Length

/-- One more than the greatest number in a word of 64 bits with sign. -/
def wordLimit : Int := 0x8000000000000000

/-- The length of the rows for which there is no room any more, even with one byte at each place. -/
def roomLimit : Int := 0x10000000000

/-- Whether a number fits a word of 64 bits with sign. -/
def fitsWord (n : Int) : Bool := -wordLimit ≤ n && n < wordLimit

/-- Why there is no row of a length. A negative length counts as zero, but it must fit a word, too. -/
def fault? (n : Int) : Option Fault :=
  if !fitsWord n then some .lengthLimit else if roomLimit ≤ n then some .noRoom else none

/-- Why there is no picture of a size. Without rows any width will do; with too many of them, of whatever width,
the room runs out. -/
def pictureFault? (width height : Int) : Option Fault :=
  if height ≤ 0 then none
  else (fault? width).or (if roomLimit ≤ height then some .noRoom else none)

end Length

end Chip8
