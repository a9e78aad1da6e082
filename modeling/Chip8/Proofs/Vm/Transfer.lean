import Chip8.Proofs.Memory.Replay
import Chip8.Proofs.Registers
import Chip8.Proofs.Vm.Action

/-!
# Transfers between machine and memory

What the actions do that move bytes, said once for all of them. A transfer of a block moves the part of it that
lies in the memory, byte by byte and with a record of each, and is refused if a part is missing: the fault names
the first address past the memory.

Main statements: `readBytes_eq`, `storeBytes_eq` and `loadRegisters_eq`.
-/

namespace Chip8

namespace Memory

variable {m : Memory} {a n : Nat} {byte : UInt8} {data : List UInt8}

/-- Why a block cannot be moved: the first address past the memory. An empty block can always be moved. -/
def missing? (m : Memory) (address n : Nat) : Option Fault :=
  if 0 < n ∧ m.size < address + n then some (.addressOutOfRange (max address m.size : Nat) m.size) else none

/-- The memory after a block was read. -/
def afterReading (m : Memory) (address n : Nat) : Memory :=
  { m with log := m.log ++ readRecords address (block m.cells address n) }

def afterWriting (m : Memory) (address : Nat) (data : List UInt8) : Memory :=
  { cells := overlay m.cells address data, log := m.log ++ writeRecords m.cells address data }

@[simp] theorem afterReading_zero : m.afterReading a 0 = m := by simp [afterReading]

@[simp] theorem afterWriting_size : (m.afterWriting a data).size = m.size := size_overlay

@[simp] theorem afterWriting_nil : m.afterWriting a [] = m := by simp [afterWriting]

theorem afterReading_outside (h : m.cells.size ≤ a) : m.afterReading a n = m := by
  simp [afterReading, block_outside h]

theorem afterReading_succ (h : a < m.cells.size) :
    m.afterReading a (n + 1) = (m.afterReading a 1).afterReading (a + 1) n := by
  simp [afterReading, block_succ h, readRecords_cons]

theorem afterWriting_outside (h : m.cells.size ≤ a) : m.afterWriting a data = m := by
  simp [afterWriting, overlay_outside h, writeRecords_outside h]

theorem afterWriting_cons (h : a < m.cells.size) :
    m.afterWriting a (byte :: data) = (m.afterWriting a [byte]).afterWriting (a + 1) data := by
  simp [afterWriting, overlay_cons h, writeRecords_cons h]

@[simp] theorem missing?_zero : m.missing? a 0 = none := by simp [missing?]

theorem missing?_outside (h : m.cells.size ≤ a) :
    m.missing? a (n + 1) = some (.addressOutOfRange a m.cells.size) := by
  unfold missing? size
  rw [if_pos (by omega), Nat.max_eq_left h]

theorem missing?_succ (h : a < m.cells.size) : m.missing? a (n + 1) = m.missing? (a + 1) n := by
  unfold missing? size
  by_cases hn : 0 < n ∧ m.cells.size < a + 1 + n
  · rw [if_pos hn, if_pos (by omega), Nat.max_eq_right (by omega), Nat.max_eq_right (by omega)]
  · rw [if_neg hn, if_neg (by omega)]

theorem cell?_inside (h : a < m.cells.size) : m.cell? a = some ⟨a, h⟩ := by
  rw [cell?, dif_pos (by omega)]
  rfl

theorem cell?_outside (h : m.cells.size ≤ a) : m.cell? a = none := by
  rw [cell?_eq_none_iff]
  unfold size
  omega

end Memory

namespace Vm

variable {m : Vm} {a : Nat}

/-! ## Single bytes -/

theorem readByte_inside (h : a < m.memory.cells.size) :
    readByte a m = .ok m.memory.cells[a] { m with memory := m.memory.afterReading a 1 } := by
  have hread : m.memory.read a = .ok (m.memory.cells[a], m.memory.afterReading a 1) := by
    simp [Memory.read, Memory.cell?_inside h, Memory.afterReading, Memory.block_succ h, Memory.readRecords_cons]
  rw [readByte, bind_get, hread]
  rfl

theorem readByte_outside (h : m.memory.cells.size ≤ a) :
    readByte a m = .error (.addressOutOfRange a m.memory.cells.size) m := by
  have hread : m.memory.read a = .error (.addressOutOfRange a m.memory.cells.size) := by
    simp [Memory.read, Memory.cell?_outside h, Memory.size]
  rw [readByte, bind_get, hread]
  rfl

theorem storeByte_inside (h : a < m.memory.cells.size) (byte : UInt8) :
    storeByte a byte m = .ok () { m with memory := m.memory.afterWriting a [byte] } := by
  have hstore : m.memory.store a byte = .ok (m.memory.afterWriting a [byte]) := by
    simp [Memory.store, Memory.cell?_inside h, Memory.afterWriting, Memory.overlay_cons h,
      Memory.writeRecords_cons h]
  rw [storeByte, bind_get, hstore]
  rfl

theorem storeByte_outside (h : m.memory.cells.size ≤ a) (byte : UInt8) :
    storeByte a byte m = .error (.addressOutOfRange a m.memory.cells.size) m := by
  have hstore : m.memory.store a byte = .error (.addressOutOfRange a m.memory.cells.size) := by
    simp [Memory.store, Memory.cell?_outside h, Memory.size]
  rw [storeByte, bind_get, hstore]
  rfl

/-! ## Blocks -/

theorem readBytes_eq (a n : Nat) (m : Vm) :
    readBytes a n m = conclude (m.memory.missing? a n) (Memory.block m.memory.cells a n)
      { m with memory := m.memory.afterReading a n } := by
  induction n generalizing a m with
  | zero => rw [Memory.missing?_zero, Memory.afterReading_zero, Memory.block_zero]; rfl
  | succ n ih =>
    -- either the first byte is there, and the rest is a shorter block, or nothing of the block is
    by_cases h : a < m.memory.cells.size
    · have hrest : readBytes (a + 1) n { m with memory := m.memory.afterReading a 1 }
          = conclude (m.memory.missing? (a + 1) n) (Memory.block m.memory.cells (a + 1) n)
              { m with memory := (m.memory.afterReading a 1).afterReading (a + 1) n } := ih (a + 1) _
      rw [readBytes, bind_ok (readByte_inside h), Memory.missing?_succ h, Memory.afterReading_succ (n := n) h,
        Memory.block_succ h]
      cases hm : m.memory.missing? (a + 1) n with
      | none => rw [hm] at hrest; exact bind_ok hrest
      | some fault => rw [hm] at hrest; exact bind_error hrest
    · rw [readBytes, bind_error (readByte_outside (by omega)), Memory.missing?_outside (by omega),
        Memory.afterReading_outside (by omega)]
      rfl

theorem storeBytes_eq (a : Nat) (data : List UInt8) (m : Vm) :
    storeBytes a data m = conclude (m.memory.missing? a data.length) ()
      { m with memory := m.memory.afterWriting a data } := by
  induction data generalizing a m with
  | nil => rw [List.length_nil, Memory.missing?_zero, Memory.afterWriting_nil]; rfl
  | cons byte data ih =>
    -- a first byte that is inside leaves the room for the others as it was
    by_cases h : a < m.memory.cells.size
    · have hmissing : (m.memory.afterWriting a [byte]).missing? (a + 1) data.length
          = m.memory.missing? (a + 1) data.length := by
        simp only [Memory.missing?, Memory.afterWriting_size]
      have hcons : m.memory.afterWriting a (byte :: data)
          = (m.memory.afterWriting a [byte]).afterWriting (a + 1) data := Memory.afterWriting_cons h
      rw [storeBytes, bind_ok (storeByte_inside h byte), List.length_cons, Memory.missing?_succ h,
        hcons, ← hmissing]
      exact ih (a + 1) _
    · rw [storeBytes, bind_error (storeByte_outside (by omega) byte), List.length_cons,
        Memory.missing?_outside (by omega), Memory.afterWriting_outside (by omega)]
      rfl

theorem loadRegisters_eq (a : Nat) (xs : List Nibble) (m : Vm) :
    loadRegisters a xs m = conclude (m.memory.missing? a xs.length) ()
      { m with
        registers := m.registers.setAll (xs.zip (Memory.block m.memory.cells a xs.length))
        memory := m.memory.afterReading a xs.length } := by
  induction xs generalizing a m with
  | nil => rw [List.length_nil, Memory.missing?_zero, Memory.afterReading_zero]; rfl
  | cons x xs ih =>
    by_cases h : a < m.memory.cells.size
    · rw [loadRegisters, bind_ok (readByte_inside h), List.length_cons, Memory.missing?_succ h,
        Memory.afterReading_succ (n := xs.length) h, Memory.block_succ h, List.zip_cons_cons, Registers.setAll_cons]
      exact ih (a + 1) { m with registers := m.registers.set x m.memory.cells[a]
                                memory := m.memory.afterReading a 1 }
    · rw [loadRegisters, bind_error (readByte_outside (by omega)), List.length_cons,
        Memory.missing?_outside (by omega), Memory.afterReading_outside (by omega),
        Memory.block_outside (by omega), List.zip_nil_right]
      rfl

end Vm

end Chip8
