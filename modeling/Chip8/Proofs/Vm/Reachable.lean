import Chip8.Proofs.Vm.Cycle
import Chip8.Proofs.Vm.Flow

/-!
# Reachable machines

Which machines can be reached from a new one by any acts: cycles and ticks, starting over, keys going down and up,
images loaded and bytes written, completed or refused. The widths of the types bound most of what a machine holds.
That the program counter stays low has to be proved: an instruction is only fetched from the memory, so the next one
stands at most at its end; this bounds the return addresses, and all other addresses are named by instructions.

Main statement: `acts_inRange`.
-/

namespace Chip8

open Memory

def Fault.ofCycle : Fault → Bool
  | addressOutOfRange .. | illegalOpcode _ | stackOverflow | stackUnderflow | invalidKey _ => true
  | _ => false

theorem Fault.ofCycle_of_ofInstruction {fault : Fault} (h : fault.ofInstruction) : fault.ofCycle := by
  cases fault with
  | addressOutOfRange _ _ | stackOverflow | stackUnderflow | invalidKey _ => rfl
  | _ => cases h

/-- Wherever an instruction leads from the memory, it does not lead far. -/
theorem Flow.bounded {r r' : Registers} (h : Flow r r') (hlow : 2 ≤ r.pc.toNat) (hhigh : r.pc.toNat ≤ standardSize)
    (hstack : ∀ k (h : k < 16), r.stack[k].toNat ≤ standardSize) :
    r'.pc.toNat ≤ highestTarget ∧ ∀ k (h : k < 16), r'.stack[k].toNat ≤ standardSize := by
  unfold standardSize at *
  unfold highestTarget
  -- by where the instruction leads; only a call puts a new address on the stack
  cases h with
  | next hpc hs =>
    rw [hpc, hs.2]
    exact ⟨by omega, hstack⟩
  | skip hpc hs =>
    rw [hpc, hs.2, Registers.advance_pc_toNat (by omega)]
    exact ⟨by omega, hstack⟩
  | wait hpc hs =>
    rw [hpc, hs.2, Registers.rewind_pc_toNat hlow]
    exact ⟨by omega, hstack⟩
  | goto hpc hs =>
    rw [hs.2]
    exact ⟨hpc, hstack⟩
  | call hpc hsp hsp' hs =>
    refine ⟨hpc, fun k hk => ?_⟩
    simp only [hs, Vector.getElem_set]
    split
    · -- the new return address is the next instruction
      exact hhigh
    · exact hstack k hk
  | @ret n hsp hsp' hpc hs =>
    have htop : (r.stack.get ⟨n, by omega⟩).toNat ≤ 4096 := hstack n (by omega)
    rw [hs, hpc]
    exact ⟨by omega, hstack⟩

namespace Vm

/-! ## Acts -/

/-- What can be done to a machine from outside. -/
inductive Act where
  | step
  | tick
  | reset
  | setKey (key : Int) (pressed : Bool)
  | releaseKeys
  | load (offset : Int) (data : List UInt8)
  | write (address value : Int)

/-- The machine after an act. A refused cycle leaves what it did until then; any other refused act does nothing. -/
def act (m : Vm) : Act → Vm
  | .step => after step m
  | .tick => m.tick.1
  | .reset => m.reset
  | .setKey key pressed => { m with keypad := (m.keypad.set key pressed).toOption.getD m.keypad }
  | .releaseKeys => { m with keypad := .released }
  | .load offset data => { m with memory := (m.memory.load offset data).toOption.getD m.memory }
  | .write address value => { m with memory := (m.memory.write address value).toOption.getD m.memory }

def acts (m : Vm) (list : List Act) : Vm := list.foldl act m

/-! ## The invariant -/

/-- The machine has the standard memory, its program counter is low, and no return address lies past the memory. -/
structure Bounded (m : Vm) : Prop where
  pc : m.registers.pc.toNat ≤ highestTarget
  stack : ∀ k (h : k < 16), m.registers.stack[k].toNat ≤ standardSize
  size : m.memory.size = standardSize

variable {m : Vm}

theorem bounded_new (random : Source UInt8) : Bounded (new (zeros standardSize) random) where
  pc := show 0x200 ≤ highestTarget by decide
  stack := fun k h => by
    show (Vector.replicate 16 (0 : UInt16))[k].toNat ≤ standardSize
    rw [Vector.getElem_replicate]
    exact Nat.zero_le _
  size := size_zeros standardSize

/-- Acts that keep the program counter, the stack and the size of the memory keep the invariant. -/
theorem Bounded.of_same {m' : Vm} (h : Bounded m) (hpc : m'.registers.pc = m.registers.pc)
    (hstack : m'.registers.stack = m.registers.stack) (hsize : m'.memory.size = m.memory.size) : Bounded m' where
  pc := by rw [hpc]; exact h.pc
  stack := by rw [hstack]; exact h.stack
  size := hsize.trans h.size

/-! ## Cycles -/

theorem Bounded.fetched_pc (h : Bounded m) {w : UInt16} (hw : m.word? = some w) :
    m.registers.advance.pc.toNat = m.registers.pc.toNat + 2 ∧ m.registers.advance.pc.toNat ≤ standardSize := by
  have hin : m.registers.pc.toNat + 1 < m.memory.size := word?_inside hw
  have hsize := h.size
  unfold standardSize at *
  rw [Registers.advance_pc_toNat (by omega)]
  exact ⟨rfl, by omega⟩

theorem Bounded.step (h : Bounded m) : Bounded (after step m) := by
  have hcycle := step_cycle m
  generalize hrun : Vm.step m = result at hcycle
  cases hcycle with
  | unfetched hw =>
    -- only here the program counter may stand past the memory, where a jump brought it; it stays
    rw [after_error hrun]
    exact h.of_same rfl rfl rfl
  | illegal hw hi =>
    rw [after_error hrun]
    exact ⟨Nat.le_trans (h.fetched_pc hw).2 (by decide), h.stack, h.size⟩
  | refused hw hi hf =>
    have hpc := (h.fetched_pc hw).2
    rw [after_error hrun, halfway, Registers.setAll_eq]
    exact ⟨Nat.le_trans hpc (by decide), h.stack, afterWriting_size.trans h.size⟩
  | @completed w i hw hi hf =>
    -- the instruction starts from the next one, so not even waiting leads below the memory
    obtain ⟨hpc, hhigh⟩ := h.fetched_pc hw
    have hflow := (execute_flow i m.fetched).bounded (by show 2 ≤ m.registers.advance.pc.toNat; omega) hhigh h.stack
    have hsize : (m.executed i).memory.size = m.memory.size := by
      rw [executed_memory]
      exact size_overlay
    rw [after_ok hrun]
    exact ⟨hflow.1, hflow.2, hsize.trans h.size⟩

theorem ofCycle_step {fault : Fault} (h : faultOf step m = some fault) : fault.ofCycle := by
  have hcycle := step_cycle m
  unfold faultOf at h
  generalize Vm.step m = result at h hcycle
  cases hcycle with
  | unfetched hw => cases h; rfl
  | illegal hw hi => cases h; rfl
  | refused hw hi hf => cases h; exact Fault.ofCycle_of_ofInstruction (ofInstruction_refusal? hf)
  | completed hw hi hf => cases h

/-! ## All acts -/

theorem size_getD_toOption {memory : Memory} {x : Except Fault Memory}
    (h : ∀ memory', x = .ok memory' → memory'.size = memory.size) :
    (x.toOption.getD memory).size = memory.size := by
  cases x with
  | ok memory' => exact h memory' rfl
  | error fault => rfl

theorem size_write {memory memory' : Memory} {address value : Int} (h : memory.write address value = .ok memory') :
    memory'.size = memory.size := by
  unfold Memory.write at h
  split at h
  · exact size_store h
  · cases h
  · cases h

theorem Bounded.act (h : Bounded m) (a : Act) : Bounded (m.act a) := by
  cases a with
  | step => exact h.step
  | tick | setKey _ _ | releaseKeys => exact h.of_same rfl rfl rfl
  | reset =>
    -- the registers of a new machine over the old memory
    exact ⟨(bounded_new m.random).pc, (bounded_new m.random).stack, h.size⟩
  | load offset data => exact h.of_same rfl rfl (size_getD_toOption fun _ => size_load)
  | write address value => exact h.of_same rfl rfl (size_getD_toOption fun _ => size_write)

theorem Bounded.acts (h : Bounded m) (list : List Act) : Bounded (m.acts list) := by
  induction list generalizing m with
  | nil => exact h
  | cons a list ih => exact ih (h.act a)

/-- What is true of every reachable machine: all it holds is in range, going past its instruction and the one after
it and coming back never wraps around, and a cycle has no faults but its own. -/
structure InRange (m : Vm) : Prop where
  bytes : m.registers.v.toList.length = 16 ∧ ∀ b ∈ m.registers.v, b.toNat ≤ 0xFF
  stack : m.registers.stack.toList.length = 16 ∧ ∀ a ∈ m.registers.stack, a.toNat ≤ 0x1000
  sp : m.registers.sp.val ≤ 16
  pc : m.registers.pc.toNat ≤ 0x10FE
  i : m.registers.i.toNat ≤ 0xFFFF
  timers : m.registers.dt.toNat ≤ 0xFF ∧ m.registers.st.toNat ≤ 0xFF
  cells : m.memory.cells.size = 4096 ∧ ∀ b ∈ m.memory.cells, b.toNat ≤ 0xFF
  keys : m.keypad.down.toList.length = 16
  pixels : m.display.pixels.toList.length = 32 ∧ ∀ row ∈ m.display.pixels, row.toList.length = 64
  advance : m.registers.advance.pc.toNat = m.registers.pc.toNat + 2
  skip : m.registers.advance.advance.pc.toNat = m.registers.advance.pc.toNat + 2
  rewind : m.registers.advance.rewind.pc.toNat + 2 = m.registers.advance.pc.toNat
  faults : ∀ fault ∈ faultOf step m, fault.ofCycle

/-- A new machine with the standard memory stays in range whatever is done to it. -/
theorem acts_inRange (list : List Act) (random : Source UInt8) :
    InRange ((new (zeros standardSize) random).acts list) := by
  have h := (bounded_new random).acts list
  generalize (new (zeros standardSize) random).acts list = m at h
  have hpc := h.pc
  unfold highestTarget at hpc
  -- no step of the program counter goes beyond a word from where it can stand
  have hadvance := Registers.advance_pc_toNat (r := m.registers) (by omega)
  have hskip := Registers.advance_pc_toNat (r := m.registers.advance) (by omega)
  have hrewind := Registers.rewind_pc_toNat (r := m.registers.advance) (by omega)
  exact {
    bytes := ⟨m.registers.v.length_toList, fun b _ => Nat.le_of_lt_succ b.toNat_lt⟩
    stack := by
      refine ⟨m.registers.stack.length_toList, fun a ha => ?_⟩
      obtain ⟨k, hk, rfl⟩ := Vector.getElem_of_mem ha
      exact h.stack k hk
    sp := Nat.le_of_lt_succ m.registers.sp.isLt
    pc := hpc
    i := Nat.le_of_lt_succ m.registers.i.toNat_lt
    timers := ⟨Nat.le_of_lt_succ m.registers.dt.toNat_lt, Nat.le_of_lt_succ m.registers.st.toNat_lt⟩
    cells := ⟨h.size, fun b _ => Nat.le_of_lt_succ b.toNat_lt⟩
    keys := m.keypad.down.length_toList
    pixels := ⟨m.display.pixels.length_toList, fun row _ => row.length_toList⟩
    advance := hadvance
    skip := hskip
    rewind := by omega
    faults := fun fault hf => ofCycle_step hf }

end Vm

end Chip8
