import Chip8.Notice
import Chip8.Vm

/-!
# Outputs

Everything that leaves the machine while it runs, in the order in which it leaves: notices, printed text,
pictures shown, and memory images written to a file.
-/

namespace Chip8

inductive Output where
  | notice (n : Notice)
  | printed (text : String)
  | shown (picture : Picture)
  | written (path : Text) (image : List UInt8)
  deriving DecidableEq, Repr

namespace Output

def notice? : Output → Option Notice
  | notice n => some n
  | _ => none

/-- The printed text, if the output is text. -/
def printed? : Output → Option String
  | printed text => some text
  | _ => none

def shown? : Output → Option Picture
  | shown picture => some picture
  | _ => none

def written? : Output → Option (Text × List UInt8)
  | written path image => some (path, image)
  | _ => none

end Output

def noticesFrom (least : Level) (outputs : List Output) : List Notice :=
  (outputs.filterMap Output.notice?).filter fun n => least.rank ≤ n.level.rank

def printedText (outputs : List Output) : String := String.join (outputs.filterMap Output.printed?)

end Chip8
