import Chip8.Proofs.Vm.Cycle

/-!
# The reads of a cycle

The record of a cycle shows every byte that the cycle depends on: on memories of a size that agree at the addresses
where it shows a read, a cycle goes the same way, with the same fault or snapshot, the same machine apart from the
memory, and the same writes.

Main statement: `step_alike`.
-/

namespace Chip8.Vm

open Memory

variable {m : Vm} {memory : Memory} {w : UInt16} {i : Instruction} {fault : Fault}

/-- The accesses of a cycle: those of its snapshot, or those that it leaves in the record if it is refused. -/
def recorded (m : Vm) : List Access :=
  match step m with
  | .ok s _ => s.activity
  | .error _ m' => m'.memory.log

/-- The snapshot of a cycle, without the bytes that its writes replaced. -/
def reported? (m : Vm) : Option Snapshot :=
  match step m with
  | .ok s _ => some { s with activity := s.activity.map Access.forgetPrevious }
  | .error _ _ => none

/-- The next cycles of two machines are alike: they have the same fault or the same snapshot, they leave machines
that differ in their memories only, the accesses are the same, and those of the first say what the second does to its
memory. -/
structure Alike (m m' : Vm) : Prop where
  fault : faultOf step m = faultOf step m'
  snapshot : m.reported? = m'.reported?
  machine : Twin (after step m) (after step m')
  log : m.recorded.map Access.forgetPrevious = m'.recorded.map Access.forgetPrevious
  cells : (after step m').memory.cells = redoAll m.recorded m'.memory.cells

/-- The memories agree wherever the next cycle reads. -/
def AgreeOnReads (m : Vm) (memory : Memory) : Prop :=
  m.memory.size = memory.size ∧ ∀ r ∈ m.recorded, r.isRead → m.memory.cells[r.address]? = memory.cells[r.address]?

/-! ## The accesses of the four ways -/

theorem recorded_unfetched (hw : m.word? = none) : m.recorded = m.fetchRecords := by
  rw [recorded, step_unfetched hw]
  rfl

theorem recorded_illegal (hw : m.word? = some w) (hi : Instruction.ofWord? w = none) :
    m.recorded = m.fetchRecords := by
  rw [recorded, step_illegal hw hi]
  rfl

theorem recorded_refused (hw : m.word? = some w) (hi : Instruction.ofWord? w = some i)
    (hf : m.refusal? i = some fault) : m.recorded = m.fetchRecords ++ m.accesses i := by
  rw [recorded, step_refused hw hi hf]
  show (m.fetched.accessed i).log = m.fetchRecords ++ m.accesses i
  rw [accessed_fetched]

theorem recorded_completed (hw : m.word? = some w) (hi : Instruction.ofWord? w = some i)
    (hf : m.refusal? i = none) : m.recorded = m.fetchRecords ++ m.accesses i := by
  rw [recorded, step_completed hw hi hf]
  show (m.executed i).memory.log = m.fetchRecords ++ m.accesses i
  rw [executed_memory]

/-- A cycle starts with the accesses of its fetch, however it ends. -/
theorem fetchRecords_prefix (m : Vm) : m.fetchRecords <+: m.recorded := by
  have hcycle := step_cycle m
  generalize step m = result at hcycle
  cases hcycle with
  | unfetched hw => exact ⟨[], by rw [recorded_unfetched hw, List.append_nil]⟩
  | illegal hw hi => exact ⟨[], by rw [recorded_illegal hw hi, List.append_nil]⟩
  | refused hw hi hf => rw [recorded_refused hw hi hf]; exact List.prefix_append _ _
  | completed hw hi hf => rw [recorded_completed hw hi hf]; exact List.prefix_append _ _

theorem fetchRecords_subset (m : Vm) : m.fetchRecords ⊆ m.recorded := m.fetchRecords_prefix.subset

/-! ## The second machine -/

theorem AgreeOnReads.block_eq (h : AgreeOnReads m memory) {a n : Nat}
    (hreads : readRecords a (block m.memory.cells a n) ⊆ m.recorded) :
    block m.memory.cells a n = block memory.cells a n :=
  block_of_reads h.1 fun r hr => h.2 r (hreads hr) (by simp [Access.isRead, (mem_readRecords_block hr).1])

theorem AgreeOnReads.fetchRecords_eq (h : AgreeOnReads m memory) :
    m.fetchRecords = ({ m with memory } : Vm).fetchRecords := by
  rw [fetchRecords, h.block_eq (fetchRecords_subset m)]
  rfl

theorem AgreeOnReads.word?_eq (h : AgreeOnReads m memory) : m.word? = ({ m with memory } : Vm).word? := by
  rw [word?_eq_block, word?_eq_block, h.block_eq (fetchRecords_subset m)]

theorem AgreeOnReads.refusal?_eq (h : AgreeOnReads m memory) (i : Instruction) :
    m.refusal? i = ({ m with memory } : Vm).refusal? i :=
  refusal?_congr (twin_memory m memory).registers h.1 i

theorem accesses_subset (h : m.recorded = m.fetchRecords ++ m.accesses i) :
    readRecords m.registers.i.toNat (block m.memory.cells m.registers.i.toNat i.reads) ⊆ m.recorded := by
  rw [h, accesses]
  exact fun r hr => List.mem_append_right _ (List.mem_append_left _ hr)

theorem AgreeOnReads.forgetPrevious_records (h : AgreeOnReads m memory)
    (hrecorded : m.recorded = m.fetchRecords ++ m.accesses i) :
    (m.fetchRecords ++ m.accesses i).map Access.forgetPrevious
      = (({ m with memory } : Vm).fetchRecords ++ ({ m with memory } : Vm).accesses i).map
          Access.forgetPrevious := by
  simp only [h.fetchRecords_eq, accesses, h.block_eq (accesses_subset hrecorded), List.map_append,
    forgetPrevious_writeRecords h.1]

/-- What the first record does to the second memory is what the second cycle does to it. -/
theorem AgreeOnReads.redoAll_eq (h : AgreeOnReads m memory)
    (hrecorded : m.recorded = m.fetchRecords ++ m.accesses i) :
    redoAll (m.fetchRecords ++ m.accesses i) memory.cells
      = overlay memory.cells m.registers.i.toNat (i.stores m.registers) := by
  let m' : Vm := { m with memory }
  calc redoAll (m.fetchRecords ++ m.accesses i) memory.cells
    _ = redoAll (m'.fetchRecords ++ m'.accesses i) memory.cells :=
        redoAll_congr (h.forgetPrevious_records hrecorded)
    _ = overlay memory.cells m.registers.i.toNat (i.stores m.registers) := redoAll_records m' i

theorem AgreeOnReads.twin_executed (h : AgreeOnReads m memory)
    (hrecorded : m.recorded = m.fetchRecords ++ m.accesses i) :
    Twin (m.executed i) (({ m with memory } : Vm).executed i) :=
  execute_congr i rfl h.1 (h.block_eq (accesses_subset hrecorded))

/-! ## The four ways -/

/-- Two refused cycles are alike if they have one fault and leave machines that agree as required. -/
theorem Alike.of_error {m m' m₁ m₁' : Vm} (hrun : step m = .error fault m₁) (hrun' : step m' = .error fault m₁')
    (htwin : Twin m₁ m₁') (hlog : m.recorded.map Access.forgetPrevious = m'.recorded.map Access.forgetPrevious)
    (hcells : m₁'.memory.cells = redoAll m.recorded m'.memory.cells) : Alike m m' where
  fault := by rw [faultOf_error hrun, faultOf_error hrun']
  snapshot := by rw [reported?, reported?, hrun, hrun']
  machine := related_error hrun hrun' htwin
  log := hlog
  cells := by rw [after_error hrun', hcells]

theorem AgreeOnReads.alike_unfetched (h : AgreeOnReads m memory) (hw : m.word? = none) :
    Alike m { m with memory } := by
  have hw' := h.word?_eq.symm.trans hw
  have hrun' := step_unfetched hw'
  have hsize : ({ m with memory } : Vm).memory.size = m.memory.size := h.1.symm
  rw [hsize] at hrun'
  refine .of_error (step_unfetched hw) hrun' rfl ?_ ?_
  · rw [recorded_unfetched hw, recorded_unfetched hw', h.fetchRecords_eq]
  · rw [recorded_unfetched hw, fetchRecords, redoAll_readRecords]
    rfl

theorem AgreeOnReads.alike_illegal (h : AgreeOnReads m memory) (hw : m.word? = some w)
    (hi : Instruction.ofWord? w = none) : Alike m { m with memory } := by
  have hw' := h.word?_eq.symm.trans hw
  refine .of_error (step_illegal hw hi) (step_illegal hw' hi) rfl ?_ ?_
  · rw [recorded_illegal hw hi, recorded_illegal hw' hi, h.fetchRecords_eq]
  · rw [recorded_illegal hw hi, fetchRecords, redoAll_readRecords]
    rfl

theorem AgreeOnReads.alike_refused (h : AgreeOnReads m memory) (hw : m.word? = some w)
    (hi : Instruction.ofWord? w = some i) (hf : m.refusal? i = some fault) : Alike m { m with memory } := by
  have hw' := h.word?_eq.symm.trans hw
  have hf' := (h.refusal?_eq i).symm.trans hf
  have hrecorded := recorded_refused hw hi hf
  have htwin := h.twin_executed hrecorded
  -- the machine that a refused instruction leaves is the one half way
  rw [executed, executed, after_error (execute_refused ((refusal?_fetched _ i).trans hf)),
    after_error (execute_refused ((refusal?_fetched _ i).trans hf'))] at htwin
  refine .of_error (step_refused hw hi hf) (step_refused hw' hi hf') htwin ?_ ?_
  · rw [hrecorded, recorded_refused hw' hi hf', h.forgetPrevious_records hrecorded]
  · rw [hrecorded, h.redoAll_eq hrecorded]
    show (({ m with memory } : Vm).fetched.accessed i).cells = _
    rw [accessed_fetched]

theorem Twin.completed {m m' : Vm} (h : Twin m m') :
    Twin { m.cleared with cycles := m.cycles + 1 } { m'.cleared with cycles := m'.cycles + 1 } := by
  obtain ⟨memory, rfl⟩ : ∃ memory, m' = { m with memory } := ⟨_, h⟩
  rfl

theorem Twin.cycles {m m' : Vm} (h : Twin m m') : m'.cycles = m.cycles := by rw [h]

theorem AgreeOnReads.alike_completed (h : AgreeOnReads m memory) (hw : m.word? = some w)
    (hi : Instruction.ofWord? w = some i) (hf : m.refusal? i = none) : Alike m { m with memory } := by
  have hw' := h.word?_eq.symm.trans hw
  have hf' := (h.refusal?_eq i).symm.trans hf
  have hrun := step_completed hw hi hf
  have hrun' := step_completed hw' hi hf'
  have hrecorded := recorded_completed hw hi hf
  have htwin := h.twin_executed hrecorded
  exact {
    fault := by rw [faultOf_ok hrun, faultOf_ok hrun']
    snapshot := by
      rw [reported?, reported?, hrun, hrun']
      simp only [snapshot, executed_memory, htwin.registers, htwin.cycles, h.forgetPrevious_records hrecorded]
    machine := related_ok hrun hrun' htwin.completed
    log := by rw [hrecorded, recorded_completed hw' hi hf', h.forgetPrevious_records hrecorded]
    cells := by
      rw [after_ok hrun', hrecorded, h.redoAll_eq hrecorded]
      show (({ m with memory } : Vm).executed i).memory.cells = _
      rw [executed_memory] }

/-- A cycle depends on the bytes whose reads it records, and on no others. -/
theorem step_alike (h : AgreeOnReads m memory) : Alike m { m with memory } := by
  have hcycle := step_cycle m
  generalize step m = result at hcycle
  cases hcycle with
  | unfetched hw => exact h.alike_unfetched hw
  | illegal hw hi => exact h.alike_illegal hw hi
  | refused hw hi hf => exact h.alike_refused hw hi hf
  | completed hw hi hf => exact h.alike_completed hw hi hf

/-- A machine about to load two registers from the end of its memory. -/
def loading : Vm :=
  { registers := { pc := 0, i := 4 }, memory := { cells := #[0xF1, 0x65, 0xAA, 0xBB, 1, 2] }, random := .constant 0 }

/-- The two bytes between the instruction and its block are not read. -/
theorem step_alike_loading : AgreeOnReads loading { cells := #[0xF1, 0x65, 0, 0, 1, 2] }
    ∧ Alike loading { loading with memory := { cells := #[0xF1, 0x65, 0, 0, 1, 2] } } := by
  have h : AgreeOnReads loading { cells := #[0xF1, 0x65, 0, 0, 1, 2] } := ⟨by decide, by decide +kernel⟩
  exact ⟨h, step_alike h⟩

end Chip8.Vm
