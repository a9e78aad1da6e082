import Chip8.Numeral.Radix
import Chip8.Text.Quoted

/-!
# Faults of files

Why a file cannot be read or written, by the name under which it was asked for. A cause that the system finds
has the number and the words that the system gives it; a name that is no file name at all never reaches the
system.
-/

namespace Chip8

/-- What is wrong with a file. -/
inductive FileFault.Cause where
  | missing
  | denied
  | notDirectory
  | directory
  | noSpace
  | nameTooLong
  /-- The name holds the null character. -/
  | nullCharacter
  /-- The name holds a code point that has no bytes. -/
  | unencodable
  deriving DecidableEq, Repr

structure FileFault where
  cause : FileFault.Cause
  path : Text
  deriving DecidableEq, Repr

namespace FileFault

/-- The number and the words of a cause, if the system finds it. -/
def Cause.system? : Cause → Option (Nat × String)
  | missing => some (2, "No such file or directory")
  | denied => some (13, "Permission denied")
  | notDirectory => some (20, "Not a directory")
  | directory => some (21, "Is a directory")
  | noSpace => some (28, "No space left on device")
  | nameTooLong => some (36, "File name too long")
  | nullCharacter | unencodable => none

/-- Whether the system found the fault. -/
def isSystem (f : FileFault) : Bool := f.cause.system?.isSome

/-- The text of the fault. It names the file unless that was opened. -/
def message (f : FileFault) : String :=
  match f.cause.system? with
  | some (number, words) =>
    "[Errno " ++ Numeral.decimal number ++ "] " ++ words
      ++ (if f.cause = .noSpace then "" else ": " ++ Text.quoted f.path)
  | none => if f.cause = .nullCharacter then "embedded null byte" else "surrogates not allowed"

example : message ⟨.missing, "a.ch8"⟩ = "[Errno 2] No such file or directory: 'a.ch8'" := by decide +kernel

end FileFault

end Chip8
