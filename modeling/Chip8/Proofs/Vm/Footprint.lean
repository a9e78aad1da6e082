import Chip8.Proofs.Vm.Cycle

/-!
# The addresses of a cycle

The snapshot of a completed cycle shows an access at an address if and only if its instruction reads or writes there: it
reads the two bytes of its word, and all of the block at the index register that it loads or draws; and it writes all of
the block that it stores, whether or not that changes a byte.

Main statement: `snapshot_accessed`.
-/

namespace Chip8

namespace Memory

variable {cells : Array UInt8} {log rest : List Access} {kind : AccessKind} {a n : Nat} {data : List UInt8}

/-- The record has an access of a kind at an address. -/
def Accessed (log : List Access) (kind : AccessKind) (address : Nat) : Prop :=
  ∃ r ∈ log, r.kind = kind ∧ r.address = address

theorem accessed_append : Accessed (log ++ rest) kind n ↔ Accessed log kind n ∨ Accessed rest kind n := by
  simp only [Accessed, List.mem_append, or_and_right, exists_or]

theorem accessed_readRecords :
    Accessed (readRecords a data) kind n ↔ kind = .read ∧ a ≤ n ∧ n < a + data.length := by
  constructor
  · rintro ⟨r, hr, rfl, rfl⟩
    obtain ⟨k, hk, rfl⟩ := mem_readRecords.mp hr
    exact ⟨rfl, Nat.le_add_right a k, Nat.add_lt_add_left hk a⟩
  · rintro ⟨rfl, hlow, hhigh⟩
    obtain ⟨k, rfl⟩ := Nat.exists_eq_add_of_le hlow
    exact ⟨_, mem_readRecords.mpr ⟨k, Nat.lt_of_add_lt_add_left hhigh, rfl⟩, rfl, rfl⟩

/-- Data that fit are written at every address, whatever was there. -/
theorem accessed_writeRecords (h : (block cells a data.length).length = data.length) :
    Accessed (writeRecords cells a data) kind n ↔ kind = .write ∧ a ≤ n ∧ n < a + data.length := by
  constructor
  · rintro ⟨r, hr, rfl, rfl⟩
    exact mem_writeRecords hr
  · rintro ⟨rfl, hlow, hhigh⟩
    obtain ⟨k, rfl⟩ := Nat.exists_eq_add_of_le hlow
    have hk : k < ((block cells a data.length).zip data).length := by
      rw [List.length_zip, h, Nat.min_self]
      exact Nat.lt_of_add_lt_add_left hhigh
    exact ⟨_, List.mem_mapIdx.mpr ⟨k, hk, rfl⟩, rfl, rfl⟩

end Memory

namespace Vm

open Memory

variable {m : Vm} {w : UInt16} {i : Instruction} {kind : AccessKind} {a n : Nat}

/-- The instruction at the program counter reads the address: as a byte of its word, or of the block that it reads. -/
def ReadsAt (m : Vm) (i : Instruction) (a : Nat) : Prop :=
  a = m.registers.pc.toNat ∨ a = m.registers.pc.toNat + 1
    ∨ m.registers.i.toNat ≤ a ∧ a < m.registers.i.toNat + i.reads

/-- The instruction writes to the address. -/
def WritesAt (m : Vm) (i : Instruction) (a : Nat) : Prop :=
  m.registers.i.toNat ≤ a ∧ a < m.registers.i.toNat + i.writes

theorem block_whole (h : m.missing? n = none) : (block m.memory.cells m.registers.i.toNat n).length = n := by
  rw [block_length]
  unfold missing? Memory.missing? Memory.size at h
  split at h
  · cases h
  · omega

theorem block_reads (hf : m.refusal? i = none) :
    (block m.memory.cells m.registers.i.toNat i.reads).length = i.reads := by
  cases i with
  | loadRegisters x | draw x y rows => exact block_whole hf
  | _ => rw [block_length]; exact Nat.zero_min _

theorem block_writes (hf : m.refusal? i = none) :
    (block m.memory.cells m.registers.i.toNat i.writes).length = i.writes := by
  cases i with
  | storeDecimal x | storeRegisters x => exact block_whole hf
  | _ => rw [block_length]; exact Nat.zero_min _

theorem accessed_fetchRecords (hw : m.word? = some w) : Accessed m.fetchRecords kind a
    ↔ kind = .read ∧ (a = m.registers.pc.toNat ∨ a = m.registers.pc.toNat + 1) := by
  have hin := word?_inside hw
  have hlength : (block m.memory.cells m.registers.pc.toNat 2).length = 2 := by
    rw [block_length]
    omega
  have hword : m.registers.pc.toNat ≤ a ∧ a < m.registers.pc.toNat + 2
      ↔ a = m.registers.pc.toNat ∨ a = m.registers.pc.toNat + 1 := by omega
  rw [fetchRecords, accessed_readRecords, hlength, hword]

theorem accessed_accesses (hf : m.refusal? i = none) : Accessed (m.accesses i) kind a
    ↔ kind = .read ∧ m.registers.i.toNat ≤ a ∧ a < m.registers.i.toNat + i.reads
      ∨ kind = .write ∧ m.WritesAt i a := by
  have hwrites : (block m.memory.cells m.registers.i.toNat (i.stores m.registers).length).length
      = (i.stores m.registers).length := by
    rw [stores_length]
    exact block_writes hf
  rw [accesses, accessed_append, accessed_readRecords, accessed_writeRecords hwrites, block_reads hf, stores_length,
    WritesAt]

/-- A completed cycle accesses the addresses that its instruction reads and writes, and no others. -/
theorem snapshot_accessed (hw : m.word? = some w) (hf : m.refusal? i = none) :
    Accessed (m.snapshot w i).activity kind a ↔ kind = .read ∧ m.ReadsAt i a ∨ kind = .write ∧ m.WritesAt i a := by
  rw [snapshot_activity, accessed_append, accessed_fetchRecords hw, accessed_accesses hf, ReadsAt]
  simp only [and_or_left, or_assoc]

end Vm

end Chip8
