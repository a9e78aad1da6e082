import Chip8.Proofs.Vm.Execute
import Chip8.Vm.Cycle

/-!
# The four ways of a cycle

A cycle ends in one of four ways: its word does not lie in the memory, its word is no instruction, its instruction
is refused, or it is completed. `Cycle` says for each way what the result is; `step_cycle` that every cycle goes one
of these ways. Nothing else unfolds a cycle.
-/

namespace Chip8.Vm

open Memory

variable {m : Vm}

/-- The word at the program counter, high byte first, if both of its bytes lie in the memory. -/
def word? (m : Vm) : Option UInt16 :=
  if h : m.registers.pc.toNat + 1 < m.memory.cells.size then
    some (Word.ofBytes (m.memory.cells[m.registers.pc.toNat]) (m.memory.cells[m.registers.pc.toNat + 1]))
  else none

/-- The machine with an empty access record. -/
def cleared (m : Vm) : Vm := { m with memory := { m.memory with log := [] } }

/-- The machine after the accesses of a fetch, of which the second one may be missing. -/
def looked (m : Vm) : Vm := { m.cleared with memory := m.cleared.memory.afterReading m.registers.pc.toNat 2 }

/-- The machine with its word fetched. -/
def fetched (m : Vm) : Vm := { m.looked with registers := m.registers.advance }

/-- The machine with its instruction executed, if that is completed; its record is not taken yet. -/
def executed (m : Vm) (i : Instruction) : Vm := after (execute i) m.fetched

def snapshot (m : Vm) (w : UInt16) (i : Instruction) : Snapshot :=
  { registers := (m.executed i).registers
    operation := .ofInstruction w.toNat i
    cycle := (m.executed i).cycles + 1
    address := m.registers.pc
    activity := (m.executed i).memory.log }

/-- The machine that a completed cycle leaves. -/
def completed (m : Vm) (i : Instruction) : Vm := { (m.executed i).cleared with cycles := (m.executed i).cycles + 1 }

/-- The ways that a cycle can go, each with its result. -/
inductive Cycle (m : Vm) : EStateM.Result Fault Vm Snapshot → Prop where
  /-- The word does not lie in the memory. -/
  | unfetched (hw : m.word? = none) :
    Cycle m (.error (.addressOutOfRange (max m.registers.pc.toNat m.memory.size : Nat) m.memory.size) m.looked)
  /-- The word is no instruction. -/
  | illegal {w : UInt16} (hw : m.word? = some w) (hi : Instruction.ofWord? w = none) :
    Cycle m (.error (.illegalOpcode w.toNat) m.fetched)
  /-- The instruction is refused. -/
  | refused {w : UInt16} {i : Instruction} {fault : Fault} (hw : m.word? = some w)
    (hi : Instruction.ofWord? w = some i) (hf : m.refusal? i = some fault) :
    Cycle m (.error fault (m.fetched.halfway i))
  /-- The instruction is completed. -/
  | completed {w : UInt16} {i : Instruction} (hw : m.word? = some w) (hi : Instruction.ofWord? w = some i)
    (hf : m.refusal? i = none) :
    Cycle m (.ok (m.snapshot w i) (m.completed i))

/-! ## The fetch -/

theorem word?_eq_none_iff : m.word? = none ↔ m.memory.size ≤ m.registers.pc.toNat + 1 := by
  unfold word? Memory.size
  split
  · next h => simp only [reduceCtorEq, false_iff]; omega
  · next h => simp only [true_iff]; omega

theorem word?_inside {w : UInt16} (h : m.word? = some w) : m.registers.pc.toNat + 1 < m.memory.cells.size := by
  apply Nat.lt_of_not_le
  intro hout
  rw [word?_eq_none_iff.mpr hout] at h
  cases h

theorem word?_eq_block (m : Vm) : m.word? = match block m.memory.cells m.registers.pc.toNat 2 with
    | [high, low] => some (Word.ofBytes high low)
    | _ => none := by
  unfold word?
  split
  · next h => rw [block_succ (by omega), block_succ h, block_zero]
  · next h =>
    have hlength : (block m.memory.cells m.registers.pc.toNat 2).length
        = min 2 (m.memory.cells.size - m.registers.pc.toNat) := block_length
    split
    · next hblock =>
      rw [hblock, List.length_cons, List.length_singleton] at hlength
      omega
    · rfl

theorem fetch_none (h : m.word? = none) :
    fetch m.cleared
      = .error (.addressOutOfRange (max m.registers.pc.toNat m.memory.size : Nat) m.memory.size) m.looked := by
  have hlow : m.cleared.memory.cells.size ≤ m.registers.pc.toNat + 1 := word?_eq_none_iff.mp h
  have hsize : m.memory.size = m.cleared.memory.cells.size := rfl
  by_cases hhigh : m.registers.pc.toNat < m.cleared.memory.cells.size
  · -- the high byte is the last of the memory
    have hmax : max m.registers.pc.toNat m.memory.size = m.registers.pc.toNat + 1 := by omega
    rw [hmax, looked, afterReading_succ (n := 1) hhigh,
      afterReading_outside (m := m.cleared.memory.afterReading m.registers.pc.toNat 1) hlow]
    exact bind_get.trans ((bind_ok (readByte_inside hhigh)).trans (bind_error (readByte_outside hlow)))
  · have hout : m.cleared.memory.cells.size ≤ m.registers.pc.toNat := Nat.le_of_not_lt hhigh
    have hmax : max m.registers.pc.toNat m.memory.size = m.registers.pc.toNat := Nat.max_eq_left hout
    rw [hmax, looked, afterReading_outside hout]
    exact bind_get.trans (bind_error (readByte_outside hout))

theorem fetch_some {w : UInt16} (h : m.word? = some w) : fetch m.cleared = .ok w m.fetched := by
  unfold word? at h
  split at h
  · next hlow =>
    cases h
    have hlow' : m.registers.pc.toNat + 1
        < (m.cleared.memory.afterReading m.registers.pc.toNat 1).cells.size := hlow
    have hhigh : m.registers.pc.toNat < m.cleared.memory.cells.size := by
      show m.registers.pc.toNat < m.memory.cells.size
      omega
    rw [fetched, looked, afterReading_succ (n := 1) hhigh]
    exact bind_get.trans ((bind_ok (readByte_inside hhigh)).trans
      (bind_ok (readByte_inside (m := { m.cleared with memory := _ }) hlow')))
  · cases h

/-! ## The record -/

def fetchRecords (m : Vm) : List Access :=
  readRecords m.registers.pc.toNat (block m.memory.cells m.registers.pc.toNat 2)

def accesses (m : Vm) (i : Instruction) : List Access :=
  readRecords m.registers.i.toNat (block m.memory.cells m.registers.i.toNat i.reads)
    ++ writeRecords m.memory.cells m.registers.i.toNat (i.stores m.registers)

theorem looked_eq (m : Vm) : m.looked = { m with memory := { m.memory with log := m.fetchRecords } } := rfl

theorem fetched_eq (m : Vm) : m.fetched = { m with
    registers := { m.registers with pc := m.registers.pc + 2 }
    memory := { m.memory with log := m.fetchRecords } } := rfl

theorem accessed_fetched (m : Vm) (i : Instruction) : m.fetched.accessed i
    = { cells := overlay m.memory.cells m.registers.i.toNat (i.stores m.registers)
        log := m.fetchRecords ++ m.accesses i } := by
  rw [accesses, ← List.append_assoc]
  rfl

theorem executed_memory (m : Vm) (i : Instruction) : (m.executed i).memory
    = { cells := overlay m.memory.cells m.registers.i.toNat (i.stores m.registers)
        log := m.fetchRecords ++ m.accesses i } :=
  (execute_memory i m.fetched).trans (accessed_fetched m i)

/-- The snapshot of a completed cycle has the accesses of its fetch and then those of its instruction. -/
theorem snapshot_activity (m : Vm) (w : UInt16) (i : Instruction) :
    (m.snapshot w i).activity = m.fetchRecords ++ m.accesses i := by
  rw [snapshot, executed_memory]

/-- A fetch reads the two bytes at the program counter. -/
theorem fetchRecords_eq (h : m.registers.pc.toNat + 1 < m.memory.cells.size) : m.fetchRecords =
    [{ kind := .read, address := m.registers.pc.toNat, data := m.memory.cells[m.registers.pc.toNat] },
      { kind := .read, address := m.registers.pc.toNat + 1, data := m.memory.cells[m.registers.pc.toNat + 1] }] := by
  rw [fetchRecords, block_succ (by omega), block_succ h, block_zero, readRecords_cons, readRecords_cons,
    readRecords_nil]

/-- The reads of a cycle are of bytes that the memory held before it: none comes after a write. -/
theorem mem_records_read {i : Instruction} {r : Access} (h : r ∈ m.fetchRecords ++ m.accesses i) (hr : r.isRead) :
    m.memory.cells[r.address]? = some r.data := by
  rcases List.mem_append.mp h with h | h
  · exact (mem_readRecords_block h).2
  · rcases List.mem_append.mp h with h | h
    · exact (mem_readRecords_block h).2
    · simp only [Access.isRead, (mem_writeRecords h).1, reduceCtorEq, decide_false, Bool.false_eq_true] at hr

theorem redoAll_records (m : Vm) (i : Instruction) : redoAll (m.fetchRecords ++ m.accesses i) m.memory.cells
    = overlay m.memory.cells m.registers.i.toNat (i.stores m.registers) := by
  calc redoAll (m.fetchRecords ++ m.accesses i) m.memory.cells
    _ = redoAll (m.accesses i) m.memory.cells := by rw [redoAll_append, fetchRecords, redoAll_readRecords]
    _ = redoAll (writeRecords m.memory.cells m.registers.i.toNat (i.stores m.registers)) m.memory.cells := by
        rw [accesses, redoAll_append, redoAll_readRecords]
    _ = overlay m.memory.cells m.registers.i.toNat (i.stores m.registers) := redoAll_writeRecords

theorem faithful_records (m : Vm) (i : Instruction) :
    Faithful (m.fetchRecords ++ m.accesses i) m.memory.cells := by
  rw [accesses, faithful_append, faithful_append, fetchRecords, redoAll_readRecords, redoAll_readRecords]
  exact ⟨faithful_readRecords, faithful_readRecords, faithful_writeRecords⟩

/-! ## The cycle -/

theorem step_eq (m : Vm) : step m = (fetch >>= fun word =>
    match Instruction.ofWord? word with
    | none => throw (.illegalOpcode word.toNat)
    | some i => execute i >>= fun _ => do
      modify fun m => { m with cycles := m.cycles + 1 }
      let activity ← takeLog
      let m' ← get
      return { registers := m'.registers, operation := .ofInstruction word.toNat i, cycle := m'.cycles,
               address := m.registers.pc, activity }) m.cleared := rfl

theorem step_unfetched (hw : m.word? = none) :
    step m = .error (.addressOutOfRange (max m.registers.pc.toNat m.memory.size : Nat) m.memory.size) m.looked :=
  (step_eq m).trans (bind_error (fetch_none hw))

theorem step_illegal {w : UInt16} (hw : m.word? = some w) (hi : Instruction.ofWord? w = none) :
    step m = .error (.illegalOpcode w.toNat) m.fetched := by
  have hfetched := (step_eq m).trans (bind_ok (fetch_some hw))
  rw [hi] at hfetched
  exact hfetched

theorem refusal?_fetched (m : Vm) (i : Instruction) : m.fetched.refusal? i = m.refusal? i := by
  cases i <;> rfl

variable {w : UInt16} {i : Instruction} {fault : Fault}

theorem step_refused (hw : m.word? = some w) (hi : Instruction.ofWord? w = some i) (hf : m.refusal? i = some fault) :
    step m = .error fault (m.fetched.halfway i) := by
  have hfetched := (step_eq m).trans (bind_ok (fetch_some hw))
  rw [hi] at hfetched
  exact hfetched.trans (bind_error (execute_refused ((refusal?_fetched m i).trans hf)))

theorem step_completed (hw : m.word? = some w) (hi : Instruction.ofWord? w = some i) (hf : m.refusal? i = none) :
    step m = .ok (m.snapshot w i) (m.completed i) := by
  have hfetched := (step_eq m).trans (bind_ok (fetch_some hw))
  rw [hi] at hfetched
  exact hfetched.trans (bind_ok (execute_completed ((refusal?_fetched m i).trans hf)))

theorem step_cycle (m : Vm) : Cycle m (step m) := by
  cases hw : m.word? with
  | none =>
    rw [step_unfetched hw]
    exact .unfetched hw
  | some w =>
    cases hi : Instruction.ofWord? w with
    | none =>
      rw [step_illegal hw hi]
      exact .illegal hw hi
    | some i =>
      cases hf : m.refusal? i with
      | some fault =>
        rw [step_refused hw hi hf]
        exact .refused hw hi hf
      | none =>
        rw [step_completed hw hi hf]
        exact .completed hw hi hf

theorem step_cycles (m : Vm) :
    match step m with
    | .ok _ m' => m'.cycles = m.cycles + 1
    | .error _ m' => m'.cycles = m.cycles := by
  have hcycle := step_cycle m
  generalize step m = result at hcycle
  cases hcycle with
  | unfetched hw => rfl
  | illegal hw hi => rfl
  | refused hw hi hf => rfl
  | completed hw hi hf => exact congrArg (· + 1) (execute_cycles _ m.fetched)

theorem step_ok {s : Snapshot} {m' : Vm} (h : step m = .ok s m') : ∃ w i, m.word? = some w
    ∧ Instruction.ofWord? w = some i ∧ m.refusal? i = none ∧ s = m.snapshot w i ∧ m' = m.completed i := by
  have hcycle := step_cycle m
  rw [h] at hcycle
  cases hcycle with
  | completed hw hi hf => exact ⟨_, _, hw, hi, hf, rfl, rfl⟩

/-! ## What a cycle does not look at -/

/-- The relation is about the rest of a machine: machines that it relates share the registers, the memory and the count
of cycles, and stay related whatever they share. -/
structure OnRest (R : Vm → Vm → Prop) : Prop where
  shared : ∀ {m m' : Vm}, R m m' → ∃ display keypad random, m' = { m with display, keypad, random }
  update : ∀ {m m' : Vm}, R m m' → ∀ registers memory cycles,
    R { m with registers, memory, cycles } { m' with registers, memory, cycles }

/-- Apart from executing its instruction, a cycle goes the same way on machines that differ in the rest, with the same
fault or snapshot. -/
theorem OnRest.step {R : Vm → Vm → Prop} (hR : OnRest R) {m' : Vm} (h : R m m')
    (hexecute : ∀ w i, m.word? = some w → Instruction.ofWord? w = some i → ∀ {m m' : Vm}, R m m' →
      R (after (execute i) m) (after (execute i) m')) :
    SameEnd R (step m) (step m') := by
  obtain ⟨display, keypad, random, rfl⟩ := hR.shared h
  have hrefusal : ∀ i, Vm.refusal? { m with display, keypad, random } i = m.refusal? i :=
    fun i => refusal?_congr rfl rfl i
  -- both cycles go the same way, since all that decides it is shared
  have hcycle := step_cycle m
  generalize Vm.step m = result at hcycle
  cases hcycle with
  | unfetched hw =>
    rw [step_unfetched (m := { m with display, keypad, random }) hw]
    exact .error _ (hR.update h m.registers m.looked.memory m.cycles)
  | illegal hw hi =>
    rw [step_illegal (m := { m with display, keypad, random }) hw hi]
    exact .error _ (hR.update h m.fetched.registers m.fetched.memory m.cycles)
  | @refused w i fault hw hi hf =>
    rw [step_refused (m := { m with display, keypad, random }) hw hi ((hrefusal i).trans hf)]
    exact .error _ (hR.update h (m.fetched.halfway i).registers (m.fetched.halfway i).memory m.cycles)
  | @completed w i hw hi hf =>
    have hexecuted : R (m.executed i) (Vm.executed { m with display, keypad, random } i) :=
      hexecute w i hw hi (hR.update h m.fetched.registers m.fetched.memory m.cycles)
    obtain ⟨display', keypad', random', he⟩ := hR.shared hexecuted
    rw [he] at hexecuted
    have hsnapshot : Vm.snapshot { m with display, keypad, random } w i = m.snapshot w i := by
      rw [snapshot, he]
      rfl
    have hcompleted : Vm.completed { m with display, keypad, random } i
        = { m.completed i with display := display', keypad := keypad', random := random' } := by
      rw [Vm.completed, he]
      rfl
    rw [step_completed (m := { m with display, keypad, random }) hw hi ((hrefusal i).trans hf), hsnapshot, hcompleted]
    exact .ok _ (hR.update hexecuted (m.completed i).registers (m.completed i).memory (m.completed i).cycles)

end Chip8.Vm
