import Chip8.Memory
import Chip8.Operation

/-!
# Snapshots

What is known of an instruction that was completed: the registers it left, the operation, how many
instructions were completed with it, the address it stood at, and the memory accesses it made.
-/

namespace Chip8

structure Snapshot where
  registers : Registers
  operation : Operation
  cycle : Nat
  address : UInt16
  activity : List Access
  deriving DecidableEq, Repr

def Snapshot.symbol (s : Snapshot) : String :=
  Numeral.hex0x 6 s.address.toNat ++ ": " ++ s.operation.text

end Chip8
