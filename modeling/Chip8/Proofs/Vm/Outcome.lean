import Chip8.Proofs.Vm.Cycle

/-!
# The outcome of a cycle

Which cycles are refused, for which reason, and what a refused cycle leaves: one whose word does not lie in the
memory leaves the machine as it was; any other leaves the program counter at the next instruction and changes
nothing else, except that a block transfer has moved the part of its block that lies in the memory. In each case
the record holds the accesses that were made.

Main statement: `step_outcome`.
-/

namespace Chip8.Vm

open Memory

variable {m m' : Vm} {i : Instruction}

/-- Why the next cycle is refused, if it is: the first address past the memory if its word does not lie there, the
word if it is no instruction, and else the reason of the instruction. -/
def fault? (m : Vm) : Option Fault :=
  match m.word? with
  | none => some (.addressOutOfRange (max m.registers.pc.toNat m.memory.size : Nat) m.memory.size)
  | some w =>
    match Instruction.ofWord? w with
    | none => some (.illegalOpcode w.toNat)
    | some i => m.refusal? i

/-- What a cycle leaves that was refused at its instruction: registers that it loads and cells that it stores to
have their new bytes as far as the memory reaches, the program counter stands at the next instruction, and nothing
else changed. -/
structure HalfDone (m : Vm) (i : Instruction) (m' : Vm) : Prop where
  loaded : ∀ k ∈ i.loads, m'.registers.get k
    = m.memory.cells.getD (m.registers.i.toNat + k) (m.registers.get k)
  kept : ∀ k, k ∉ i.loads → m'.registers.get k = m.registers.get k
  rest : m' = { m with
    registers := { m.registers with pc := m.registers.pc + 2, v := m'.registers.v }
    memory := { cells := overlay m.memory.cells m.registers.i.toNat (i.stores m.registers)
                log := m.fetchRecords ++ m.accesses i } }

/-- What a refused cycle leaves. -/
def Unfinished (m m' : Vm) : Prop :=
  match m.word? with
  | none => m' = { m with memory := { m.memory with log := m.fetchRecords } }
  | some w =>
    match Instruction.ofWord? w with
    | none => m' = { m with
        registers := { m.registers with pc := m.registers.pc + 2 }
        memory := { m.memory with log := m.fetchRecords } }
    | some i => HalfDone m i m'

theorem halfDone_halfway (m : Vm) (i : Instruction) : HalfDone m i (m.fetched.halfway i) := by
  have hrest : m.fetched.halfway i = { m with
      registers := { m.registers with pc := m.registers.pc + 2, v := (m.fetched.halfway i).registers.v }
      memory := m.fetched.accessed i } := by
    unfold halfway
    rw [Registers.setAll_eq]
    rfl
  refine ⟨fun k hk => ?_, fun k hk => ?_, by rw [← accessed_fetched]; exact hrest⟩
  · cases i with
    | loadRegisters x =>
      exact get_setAll_upTo m.fetched.registers m.memory.cells m.registers.i.toNat (mem_upTo.mp hk)
    | _ => cases hk
  · apply Registers.setAll_untouched
    rintro ⟨k', b⟩ hp rfl
    exact hk (List.of_mem_zip hp).1

/-- A cycle is refused exactly for the reason `fault?`, and completed if there is none; what a refused cycle leaves
is known exactly. -/
theorem step_outcome (m : Vm) :
    match step m with
    | .ok _ _ => m.fault? = none
    | .error fault m' => m.fault? = some fault ∧ m.Unfinished m' := by
  have hcycle := step_cycle m
  unfold fault? Unfinished
  generalize step m = result at hcycle
  cases hcycle with
  | unfetched hw =>
    rw [hw]
    exact ⟨rfl, looked_eq m⟩
  | illegal hw hi =>
    simp only [hw, hi]
    exact ⟨trivial, fetched_eq m⟩
  | refused hw hi hf =>
    simp only [hw, hi]
    exact ⟨hf, halfDone_halfway m _⟩
  | completed hw hi hf =>
    simp only [hw, hi]
    exact hf

end Chip8.Vm
