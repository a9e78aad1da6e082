import Chip8.Proofs.Vm.Cycle

/-!
# Undoing a run

The snapshot of a completed cycle accounts for the memory: its accesses are those of the cycle alone, redoing them
gives the memory after the cycle, and undoing them, newest first, the memory before it. So the snapshots of a run
take the memory back to where the run started, also where the program wrote over itself.

Main statement: `run_undo`.
-/

namespace Chip8.Vm

open Memory

/-- A completed cycle. -/
structure Completed where
  before : Vm
  snapshot : Snapshot
  after : Vm
  step_eq : step before = .ok snapshot after

/-- Completed cycles that share a memory: each finds the bytes that the one before it left. Anything else may change
between two cycles, and anything may be recorded. -/
inductive Run : Array UInt8 → List Completed → Array UInt8 → Prop where
  | nil (cells : Array UInt8) : Run cells [] cells
  | cons (c : Completed) {cs : List Completed} {cells : Array UInt8} (h : Run c.after.memory.cells cs cells) :
    Run c.before.memory.cells (c :: cs) cells

/-- How the snapshot of a completed cycle accounts for the memory. -/
structure Accounted (c : Completed) : Prop where
  /-- The accesses are those of the fetch and of the instruction. -/
  own : ∃ i, c.before.word?.bind Instruction.ofWord? = some i
    ∧ c.snapshot.activity = c.before.fetchRecords ++ c.before.accesses i
  /-- What was recorded before the cycle does not show. -/
  fresh : ∀ log, step { c.before with memory := { c.before.memory with log } } = .ok c.snapshot c.after
  /-- The record is empty again. -/
  taken : c.after.memory.log = []
  /-- The first two accesses read the word. -/
  fetch : ∃ high low, [{ kind := .read, address := c.before.registers.pc.toNat, data := high },
    { kind := .read, address := c.before.registers.pc.toNat + 1, data := low }] <+: c.snapshot.activity
  reads : ∀ r ∈ c.snapshot.activity, r.isRead → c.before.memory.cells[r.address]? = some r.data
  redo : redoAll c.snapshot.activity c.before.memory.cells = c.after.memory.cells
  undo : undoAll c.snapshot.activity c.after.memory.cells = c.before.memory.cells

variable {c : Completed} {cs : List Completed} {cells cells' : Array UInt8}

namespace Completed

theorem activity_eq (c : Completed) : ∃ i, c.before.word?.bind Instruction.ofWord? = some i
    ∧ c.snapshot.activity = c.before.fetchRecords ++ c.before.accesses i
    ∧ c.after.memory = { cells := overlay c.before.memory.cells c.before.registers.i.toNat
                                    (i.stores c.before.registers) } := by
  obtain ⟨w, i, hw, hi, -, hs, hm⟩ := step_ok c.step_eq
  have hmemory := executed_memory c.before i
  refine ⟨i, by rw [hw]; exact hi, ?_, ?_⟩
  · rw [hs, Vm.snapshot, hmemory]
  · rw [hm, completed, cleared, hmemory]

theorem redo (c : Completed) : redoAll c.snapshot.activity c.before.memory.cells = c.after.memory.cells := by
  obtain ⟨i, -, hactivity, hmemory⟩ := c.activity_eq
  rw [hactivity, hmemory, redoAll_records]

theorem undo (c : Completed) : undoAll c.snapshot.activity c.after.memory.cells = c.before.memory.cells := by
  obtain ⟨i, -, hactivity, -⟩ := c.activity_eq
  rw [← c.redo]
  exact undoAll_redoAll (by rw [hactivity]; exact faithful_records c.before i)

theorem accounted (c : Completed) : Accounted c := by
  obtain ⟨i, hi, hactivity, hmemory⟩ := c.activity_eq
  obtain ⟨w, -, hw, -⟩ := step_ok c.step_eq
  have hin : c.before.registers.pc.toNat + 1 < c.before.memory.cells.size := word?_inside hw
  exact {
    own := ⟨i, hi, hactivity⟩
    fresh := fun _ => c.step_eq
    taken := by rw [hmemory]
    fetch := by
      rw [hactivity, fetchRecords_eq hin]
      exact ⟨_, _, List.prefix_append _ _⟩
    reads := by
      rw [hactivity]
      exact fun r hr hread => mem_records_read hr hread
    redo := c.redo
    undo := c.undo }

end Completed

/-- Every snapshot of a run accounts for the memory; undoing all of them, the last one first, restores the bytes
from which the run started; and an address without a write keeps its byte. -/
theorem run_undo (h : Run cells cs cells') : (∀ c ∈ cs, Accounted c)
    ∧ cs.foldr (fun c cells => undoAll c.snapshot.activity cells) cells' = cells
    ∧ ∀ a, (∀ c ∈ cs, ∀ r ∈ c.snapshot.activity, r.isWrite → r.address ≠ a) → cells'[a]? = cells[a]? := by
  refine ⟨fun c _ => c.accounted, ?_, fun a => ?_⟩
  · induction h with
    | nil cells => rfl
    | cons c h ih =>
      -- the cycles after the first take the memory back to where the first one left it
      rw [List.foldr_cons, ih, c.undo]
  · induction h with
    | nil cells => exact fun _ => rfl
    | cons c h ih =>
      intro hwrites
      rw [ih fun c' hc' => hwrites c' (List.mem_cons_of_mem c hc'), ← c.redo,
        redoAll_untouched (hwrites c List.mem_cons_self)]

/-- A machine whose first instruction writes over the second one, and what it left in the record before. -/
def overwriting : Vm :=
  { registers := { pc := 0, i := 2, v := (Vector.replicate 16 0).set 0 0x62 }
    memory := { cells := #[0xF0, 0x55, 0x12, 0x34], log := [{ kind := .write, address := 3, data := 0x34 }] }
    random := .constant 0 }

/-- The run of the instruction that overwrites and of the one that it wrote. -/
theorem run_undo_overwriting : ∃ c₁ c₂ : Completed, c₁.before = overwriting ∧ c₂.before = c₁.after
    ∧ c₂.snapshot.operation = .ofInstruction 0x6234 (.put 2 0x34)
    ∧ Run overwriting.memory.cells [c₁, c₂] c₂.after.memory.cells
    ∧ [c₁, c₂].foldr (fun c cells => undoAll c.snapshot.activity cells) c₂.after.memory.cells
      = overwriting.memory.cells := by
  have hw : (overwriting.completed (.storeRegisters 0)).word? = some 0x6234 := by decide +kernel
  let c₁ : Completed := ⟨overwriting, _, _, step_completed (w := 0xF055) (i := .storeRegisters 0) rfl rfl rfl⟩
  let c₂ : Completed := ⟨c₁.after, _, _, step_completed (i := .put 2 0x34) hw rfl rfl⟩
  have h : Run overwriting.memory.cells [c₁, c₂] c₂.after.memory.cells := .cons c₁ (.cons c₂ (.nil _))
  exact ⟨c₁, c₂, rfl, rfl, rfl, h, (run_undo h).2.1⟩

end Chip8.Vm
