import Chip8.Instruction.Text
import Chip8.Proofs.Debugger
import Chip8.Proofs.Numeral.Writing
import Chip8.Proofs.Vm.Footprint

/-!
# Watchpoints

A step of the debugger stops if an enabled condition holds of what its instruction did: which addresses it read or
wrote, where it led, what it left in a register, whether it changed one. What was recorded before the step, and which
registers were kept then, has no part in it.

Main statement: `stepAndCheck_watched`.
-/

namespace Chip8

/-! ## The registers that can be watched -/

/-- A register that a condition can be about. -/
inductive Watched where
  | byte (x : Nibble)
  | index
  | counter
  | depth
  | delay
  | sound
  deriving DecidableEq, Repr

namespace Watched

def name : Watched → String
  | byte x => Instruction.registerName x
  | index => "I"
  | counter => "PC"
  | depth => "SP"
  | delay => "DT"
  | sound => "ST"

def value (r : Registers) : Watched → Nat
  | byte x => (r.get x).toNat
  | index => r.i.toNat
  | counter => r.pc.toNat
  | depth => r.sp
  | delay => r.dt.toNat
  | sound => r.st.toNat

variable {x y : Watched}

theorem registerName_toList (x : Nibble) : (Instruction.registerName x).toList = ['V', Numeral.digitChar x] := by
  revert x
  decide +kernel

theorem readName?_name (r : Registers) (x : Watched) : r.readName? x.name = some (.single (x.value r)) := by
  cases x with
  | byte x =>
    have hdigit : Numeral.digitValue? 16 (Numeral.digitChar x) = some x.val := Numeral.digitValue?_digitChar x.isLt
    simp only [Registers.readName?, name, registerName_toList, hdigit, Option.bind_some, x.isLt, dif_pos, value]
  | index | counter | depth | delay | sound => rfl

theorem sameUnder_name (x : Watched) (r r' : Registers) :
    Registers.sameUnder x.name r r' = true ↔ x.value r = x.value r' := by
  simp [Registers.sameUnder, readName?_name, RegisterReading.same]

theorem value_eq_of_name (h : x.name = y.name) (r : Registers) : x.value r = y.value r := by
  have hx := readName?_name r x
  rw [h, readName?_name, Option.some_inj, RegisterReading.single.injEq] at hx
  exact hx.symm

theorem match_name (x : Watched) (f : String → Bool) :
    (match some x.name with
      | none | some "" => false
      | some name => f name) = f x.name := by
  split
  · next h => cases h
  · next h =>
    have hshown := readName?_name {} x
    rw [Option.some_inj.mp h] at hshown
    cases hshown
  · next h => rw [Option.some_inj.mp h]

end Watched

/-! ## Conditions -/

namespace Breakpoint

variable {b : Breakpoint} {m m' : Vm} {w : UInt16} {i : Instruction} {kind : AccessKind}

/-- A condition about a register is about one of those that can be watched. -/
def NamesWatched (b : Breakpoint) : Prop :=
  b.kind = .registerValue ∨ b.kind = .registerChange → ∃ x : Watched, b.register = some x.name

/-- The condition holds of an instruction `i` that took the machine `m` to `m'`. -/
def Holds (b : Breakpoint) (m : Vm) (i : Instruction) (m' : Vm) : Prop :=
  match b.kind with
  | .pcMatch => b.value = some (m'.registers.pc.toNat : Int)
  | .memoryRead => ∃ a : Nat, b.address = some (a : Int) ∧ m.ReadsAt i a
  | .memoryWrite => ∃ a : Nat, b.address = some (a : Int) ∧ m.WritesAt i a
  | .registerValue => ∃ x : Watched, b.register = some x.name ∧ b.value = some (x.value m'.registers : Int)
  | .registerChange => ∃ x : Watched, b.register = some x.name ∧ x.value m.registers ≠ x.value m'.registers

theorem touches_iff {log : List Access} :
    b.touches kind log = true ↔ ∃ a : Nat, b.address = some (a : Int) ∧ Memory.Accessed log kind a := by
  simp only [touches, List.any_eq_true, Bool.and_eq_true, decide_eq_true_eq, Memory.Accessed]
  constructor
  · rintro ⟨r, hr, hkind, haddress⟩
    exact ⟨r.address, haddress, r, hr, hkind, rfl⟩
  · rintro ⟨a, haddress, r, hr, hkind, rfl⟩
    exact ⟨r, hr, hkind, haddress⟩

/-- What a register holds decides a condition about its value. -/
theorem isHit_registerValue {s : Snapshot} {before : Registers} {x : Watched} (hkind : b.kind = .registerValue)
    (hx : b.register = some x.name) : b.isHit s before = true ↔ b.value = some (x.value s.registers : Int) := by
  have hhit : b.isHit s before = meets b.value (s.registers.readName? x.name) := by
    unfold isHit
    rw [hkind, hx]
    exact x.match_name fun name => meets b.value (s.registers.readName? name)
  rw [hhit, Watched.readName?_name]
  cases b.value with
  | none => simp [meets]
  | some n => simp [meets, RegisterReading.isNumber]

/-- What a register held before and holds now decides a condition about its change. -/
theorem isHit_registerChange {s : Snapshot} {before : Registers} {x : Watched} (hkind : b.kind = .registerChange)
    (hx : b.register = some x.name) : b.isHit s before = true ↔ x.value before ≠ x.value s.registers := by
  have hhit : b.isHit s before = !Registers.sameUnder x.name before s.registers := by
    unfold isHit
    rw [hkind, hx]
    exact x.match_name fun name => !Registers.sameUnder name before s.registers
  rw [hhit, Bool.not_eq_true', ← Bool.not_eq_true, Watched.sameUnder_name]

/-- What is found out about a condition after a completed cycle is whether it holds. -/
theorem holds_iff (hw : m.word? = some w) (hf : m.refusal? i = none) (hnamed : b.NamesWatched) :
    b.isHit (m.snapshot w i) m.registers = true
        ∨ b.kind = .pcMatch ∧ b.value = some ((m.executed i).registers.pc.toNat : Int)
      ↔ b.Holds m i (m.completed i) := by
  have haccessed : ∀ kind a, Memory.Accessed (m.snapshot w i).activity kind a
      ↔ kind = .read ∧ m.ReadsAt i a ∨ kind = .write ∧ m.WritesAt i a :=
    fun _ _ => Vm.snapshot_accessed hw hf
  cases hkind : b.kind with
  | pcMatch => simp [isHit, Holds, hkind, Vm.completed, Vm.cleared]
  | memoryRead => simp [isHit, Holds, hkind, touches_iff, haccessed]
  | memoryWrite => simp [isHit, Holds, hkind, touches_iff, haccessed]
  | registerValue =>
    obtain ⟨x, hx⟩ := hnamed (.inl hkind)
    simp only [isHit_registerValue hkind hx, Holds, hkind, reduceCtorEq, false_and, or_false]
    constructor
    · exact fun hvalue => ⟨x, hx, hvalue⟩
    · rintro ⟨y, hy, hvalue⟩
      -- two registers of one name are the same one
      have hsame := Watched.value_eq_of_name (Option.some_inj.mp (hx.symm.trans hy))
      rw [hsame]
      exact hvalue
  | registerChange =>
    obtain ⟨x, hx⟩ := hnamed (.inr hkind)
    simp only [isHit_registerChange hkind hx, Holds, hkind, reduceCtorEq, false_and, or_false]
    constructor
    · exact fun hchange => ⟨x, hx, hchange⟩
    · rintro ⟨y, hy, hchange⟩
      have hsame := Watched.value_eq_of_name (Option.some_inj.mp (hx.symm.trans hy))
      rw [hsame, hsame]
      exact hchange

end Breakpoint

/-! ## What has no part in a step -/

theorem Memory.peek_withLog (m : Memory) (log : List Access) (address : Int) :
    ({ m with log } : Memory).peek address = m.peek address := by
  by_cases h : 0 ≤ address ∧ address < m.cells.size <;> simp [peek, cell?, size, h]

theorem Vm.upcoming?_withLog (m : Vm) (log : List Access) :
    ({ m with memory := { m.memory with log } } : Vm).upcoming? = m.upcoming? := by
  simp only [upcoming?, Memory.peek_withLog]

namespace Debugger

open Vm

variable {d : Debugger} {s : Snapshot} {m' : Vm}

theorem stepAndCheck_fresh (d : Debugger) (log : List Access) (before : Registers) :
    stepAndCheck { d with before, vm := { d.vm with memory := { d.vm.memory with log } } } = stepAndCheck d := by
  let e : Debugger := { d with before, vm := { d.vm with memory := { d.vm.memory with log } } }
  have hstarted : ∀ vm, { e.started with vm } = { d.started with vm } := by
    intro vm
    simp only [started, e, upcoming?_withLog]
    cases d.vm.upcoming? with
    | none => rfl
    | some operation => rfl
  have hstep : Vm.step e.vm = Vm.step d.vm := rfl
  show stepAndCheck e = stepAndCheck d
  rw [stepAndCheck_eq, stepAndCheck_eq, hstep]
  simp only [recorded, hstarted]

/-! ## Steps -/

theorem recorded_before (d : Debugger) (vm : Vm) (s : Snapshot) : (d.recorded vm s).before = d.vm.registers := by
  obtain ⟨journal, h⟩ := d.started_eq
  rw [recorded, h]
  rfl

/-- A breakpoint is met if an enabled condition is hit, or stops at the next instruction. -/
theorem isMet_iff : d.isMet s = true ↔ ∃ b ∈ d.breakpoints, b.enabled = true
    ∧ (b.isHit s d.before = true ∨ b.kind = .pcMatch ∧ b.value = some (s.registers.pc.toNat : Int)) := by
  simp only [isMet, isHit, stopsAt, Breakpoint.isAt, Bool.or_eq_true, List.any_eq_true, Bool.and_eq_true,
    decide_eq_true_eq, and_assoc, and_or_left, exists_or]

/-- A completed step stops exactly if an enabled condition holds of its instruction; what was recorded before it and
which registers were kept has no part in that. -/
theorem stepAndCheck_watched (hstep : Vm.step d.vm = .ok s m') (hnamed : ∀ b ∈ d.breakpoints, b.NamesWatched) :
    ∃ w i met d', d.vm.word? = some w ∧ Instruction.ofWord? w = some i
      ∧ stepAndCheck d = .ok met d' ∧ d'.vm = m'
      ∧ (met = true ↔ ∃ b ∈ d.breakpoints, b.enabled = true ∧ b.Holds d.vm i m')
      ∧ ∀ log before,
        stepAndCheck { d with before, vm := { d.vm with memory := { d.vm.memory with log } } } = .ok met d' := by
  obtain ⟨w, i, hw, hi, hf, rfl, rfl⟩ := step_ok hstep
  have hrun := d.stepAndCheck_eq
  rw [hstep] at hrun
  refine ⟨w, i, _, _, hw, hi, hrun, rfl, ?_, fun log before => (d.stepAndCheck_fresh log before).trans hrun⟩
  rw [isMet_iff, recorded_before, recorded_breakpoints]
  refine exists_congr fun b => and_congr_right fun hb => and_congr_right fun _ => ?_
  exact Breakpoint.holds_iff hw hf (hnamed b hb)

/-- A debugger about to store two registers over bytes that are already there. The record shows an older write, and the
registers kept are not those of the machine. A condition is about the second of the bytes, one about the next address is
disabled, and one is about the flag. -/
def watching : Debugger where
  vm :=
    { registers := { pc := 0, i := 3, v := Bank.put (.replicate 16 0) 1 7 }
      memory := { cells := #[0xF1, 0x55, 9, 0, 7], log := [{ kind := .write, address := 2, data := 9 }] }
      random := .constant 0 }
  breakpoints :=
    [{ kind := .memoryWrite, address := some 4 }, { kind := .pcMatch, value := some 2, enabled := false },
      { kind := .registerChange, register := some "VF" }]
  before := { pc := 8 }
  capacity := 1

/-- The write stops it, though it changes no byte; with a condition about the address of the older write instead, it
does not stop. -/
theorem stepAndCheck_watched_watching : (∃ d', stepAndCheck watching = .ok true d')
    ∧ ∃ d', stepAndCheck { watching with breakpoints := [{ kind := .memoryWrite, address := some 2 }] }
      = .ok false d' := by
  have hstep := step_completed (m := watching.vm) (w := 0xF155) (i := .storeRegisters 1) rfl rfl rfl
  have hnamed : ∀ b ∈ watching.breakpoints, b.NamesWatched := by
    simp only [watching, List.forall_mem_cons, Breakpoint.NamesWatched, reduceCtorEq, or_self, false_imp_iff, true_and]
    exact ⟨fun _ => ⟨.byte 15, by decide +kernel⟩, nofun⟩
  have hnone : ∀ b ∈ [({ kind := .memoryWrite, address := some 2 } : Breakpoint)], b.NamesWatched := by
    simp [Breakpoint.NamesWatched]
  constructor
  · obtain ⟨w, i, met, d', hw, hi, hrun, -, hmet, -⟩ := stepAndCheck_watched hstep hnamed
    obtain rfl : w = 0xF155 := Option.some_inj.mp (hw.symm.trans rfl)
    obtain rfl : i = .storeRegisters 1 := Option.some_inj.mp (hi.symm.trans rfl)
    have hstops : met = true := hmet.mpr ⟨_, List.mem_cons_self, rfl, 4, rfl, by decide, by decide⟩
    exact ⟨d', by rw [hrun, hstops]⟩
  · obtain ⟨w, i, met, d', -, -, hrun, -, hmet, -⟩ := stepAndCheck_watched
      (d := { watching with breakpoints := [{ kind := .memoryWrite, address := some 2 }] }) hstep hnone
    have hpasses : met = false := by
      apply Bool.eq_false_iff.mpr
      intro hstops
      obtain ⟨b, hb, -, hholds⟩ := hmet.mp hstops
      obtain rfl := List.mem_singleton.mp hb
      obtain ⟨a, ha, hlow, -⟩ := hholds
      cases ha
      exact absurd hlow (by decide)
    exact ⟨d', by rw [hrun, hpasses]⟩

end Debugger

end Chip8
