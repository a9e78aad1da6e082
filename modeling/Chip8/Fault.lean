import Chip8.FileFault

/-!
# Faults

Why an operation of the machine can be refused. A fault names its cause and carries the offending value;
its wording is `Fault.message` and nowhere else. A fatal fault means that the machine can no longer go on
in a sound state; the other faults refuse an argument.
-/

namespace Chip8

open Numeral

inductive Fault where
  /-- An address outside the memory. -/
  | addressOutOfRange (address : Int) (size : Nat)
  /-- A call when all slots of the call stack are taken. -/
  | stackOverflow
  /-- A return when no call is open. -/
  | stackUnderflow
  /-- A word that is no instruction. -/
  | illegalOpcode (word : Int)
  /-- A key that the pad does not have. -/
  | invalidKey (key : Int)
  /-- An image that does not fit between its offset and the end of the memory. -/
  | loadOutOfBounds (offset : Int) (length size : Nat)
  /-- A register number that the register file does not have. -/
  | registerIndex (index : Int)
  /-- A register value that is no byte. -/
  | registerValue (value : Int)
  /-- A memory value that is no byte. -/
  | memoryValue (value : Int)
  /-- A memory without cells. -/
  | memorySize
  /-- A length that no word can hold. -/
  | lengthLimit
  /-- A length for which there is no room. -/
  | noRoom
  /-- A way of jumping that is neither a plain jump nor a call. -/
  | jumpMode (mode : String)
  /-- Text that should be the hexadecimal numeral of a word; the text is given quoted. -/
  | wordNumeral (quoted : String)
  /-- A trace history of negative length. -/
  | historySize
  /-- A trace history longer than any row in memory. -/
  | historyLimit
  /-- A font image of the wrong length. -/
  | fontSize (length : Nat)
  /-- A system without a program. -/
  | programMissing
  /-- Timers that should tick zero times a second. -/
  | timerRate
  /-- Timers that should tick more often a second than a double can say. -/
  | timerLimit
  /-- A clock reading of a fraction that has no value. -/
  | clockRatio
  /-- A clock reading that no double can hold. -/
  | clockLimit
  /-- A name for the memory image that is no file name. -/
  | imageName (fault : FileFault)
  deriving DecidableEq, Repr

namespace Fault

/-- How deep calls can nest, and how many registers and keys there are. -/
def stackDepth : Nat := 16

/-- The length of a font image: sixteen glyphs of five rows. -/
def fontBytes : Nat := 80

/-- Whether the machine cannot go on after the fault. -/
def fatal : Fault → Bool
  | addressOutOfRange .. | stackOverflow | stackUnderflow | illegalOpcode _ | invalidKey _
  | loadOutOfBounds .. => true
  | _ => false

/-- The size of a memory as written: where it was given as a truth value, which counts as one, by that. -/
def sizeText (asTruth : Bool) (size : Nat) : String := if asTruth then "True" else decimal size

/-- The text of the fault. It depends on whether the size of the memory was given as a truth value. -/
def message (fault : Fault) (asTruth : Bool := false) : String :=
  match fault with
  | addressOutOfRange address size =>
    "Address " ++ hex0x 6 address ++ " out of range for memory of size " ++ sizeText asTruth size ++ "."
  | stackOverflow => "Stack overflow: call depth exceeds " ++ decimal stackDepth ++ " entries."
  | stackUnderflow => "Stack underflow: RET executed with an empty call stack."
  | illegalOpcode word => "Illegal opcode: " ++ hex0x 6 word
  | invalidKey key => "Key index " ++ hex0x 4 key ++ " is outside the 16-key pad."
  | loadOutOfBounds offset length size =>
    "Image of " ++ decimal length ++ " bytes at " ++ hex0x 5 offset ++ " exceeds memory of size "
      ++ sizeText asTruth size ++ " (max " ++ decimal (size - offset) ++ " bytes at this offset)."
  | registerIndex index => "Register index " ++ decimal index ++ " out of range."
  | registerValue value => "Value " ++ decimal value ++ " is not an 8-bit value."
  | memoryValue value => "Data " ++ decimal value ++ " is not an 8-bit value."
  | memorySize => "Memory size must be a positive integer."
  | lengthLimit => "length too large"
  | noRoom => "no room"
  | jumpMode mode => "Unknown jump mode: " ++ mode
  | wordNumeral quoted => "invalid literal for int() with base 16: " ++ quoted
  | historySize => "maxlen must be non-negative"
  | historyLimit => "history too long"
  | fontSize length =>
    "Font image must be exactly " ++ decimal fontBytes ++ " bytes, got " ++ decimal length ++ " bytes."
  | programMissing => "Either rom_path or rom_data must be given."
  | timerRate => "float division by zero"
  | timerLimit => "int too large to convert to float"
  | clockRatio => "division by zero"
  | clockLimit => "clock reading too large"
  | imageName fault => fault.message

end Fault

end Chip8
