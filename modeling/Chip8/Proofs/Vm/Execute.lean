import Chip8.Proofs.Vm.Transfer

/-!
# What an instruction does

Instructions are judged from three sides: why one is refused (`refusal?`), what one does to the memory (it reads
`reads` bytes and stores the bytes `stores` from the index register on), and what is left of the machine when one
is refused half way. Only four of the instructions touch the memory; the others do not look at it.

Main statements: `execute_fault` (an instruction is refused exactly for the reason `refusal?`), `execute_memory`
(what it did to the memory, completed or not), `execute_refused` (all that a refused one did), and
`execute_congr` (it depends on the memory through the bytes it reads only).
-/

namespace Chip8

namespace Instruction

/-- How many bytes the instruction reads from the index register on. -/
def reads : Instruction → Nat
  | .loadRegisters x => x + 1
  | .draw _ _ rows => rows
  | _ => 0

/-- The registers that the instruction loads. -/
def loads : Instruction → List Nibble
  | .loadRegisters x => Vm.upTo x
  | _ => []

/-- The bytes that the instruction stores from the index register on. -/
def stores (r : Registers) : Instruction → List UInt8
  | .storeDecimal x => Vm.decimalDigits (r.get x)
  | .storeRegisters x => (Vm.upTo x).map r.get
  | _ => []

/-- How many bytes the instruction stores. -/
def writes : Instruction → Nat
  | .storeDecimal _ => 3
  | .storeRegisters x => x + 1
  | _ => 0

/-- Whether the instruction touches neither the memory nor the picture. -/
def isLocal : Instruction → Bool
  | .clear | .draw .. | .storeDecimal _ | .storeRegisters _ | .loadRegisters _ => false
  | _ => true

end Instruction

def Fault.ofInstruction : Fault → Bool
  | addressOutOfRange .. | stackOverflow | stackUnderflow | invalidKey _ => true
  | _ => false

namespace Vm

/-! ## The registers of a block -/

theorem upTo_length (x : Nibble) : (upTo x).length = x + 1 := by
  simp only [upTo, List.length_take, List.length_finRange]
  omega

theorem stores_length (i : Instruction) (r : Registers) : (i.stores r).length = i.writes := by
  cases i with
  | storeRegisters x => exact (List.length_map _).trans (upTo_length x)
  | _ => rfl

theorem upTo_nodup (x : Nibble) : (upTo x).Nodup := (List.nodup_finRange 16).sublist (List.take_sublist _ _)

theorem upTo_getElem? {x k : Nibble} {j : Nat} : (upTo x)[j]? = some k ↔ j = k ∧ k ≤ x := by
  have hx := x.isLt
  simp only [upTo, List.getElem?_take, Fin.le_def]
  split
  · next hj =>
    rw [List.getElem?_eq_getElem (by rw [List.length_finRange]; omega), List.getElem_finRange, Option.some_inj]
    constructor
    · rintro rfl
      exact ⟨rfl, by simp only [Fin.cast_mk]; omega⟩
    · rintro ⟨rfl, -⟩
      rfl
  · next hj =>
    simp only [reduceCtorEq, false_iff, not_and]
    omega

theorem mem_upTo {x k : Nibble} : k ∈ upTo x ↔ k ≤ x := by
  simp only [List.mem_iff_getElem?, upTo_getElem?]
  exact ⟨fun ⟨_, _, h⟩ => h, fun h => ⟨k, rfl, h⟩⟩

/-- Each register of a block with the byte meant for it, as far as the memory reaches. -/
theorem mem_zip_upTo {cells : Array UInt8} {a : Nat} {x k : Nibble} {b : UInt8} :
    (k, b) ∈ (upTo x).zip (Memory.block cells a (x + 1)) ↔ k ≤ x ∧ cells[a + k]? = some b := by
  simp only [List.mem_iff_getElem?, List.getElem?_zip_eq_some, upTo_getElem?, Memory.block_getElem?]
  constructor
  · rintro ⟨j, ⟨rfl, hk⟩, hb⟩
    rw [if_pos (Nat.lt_succ_of_le hk)] at hb
    exact ⟨hk, hb⟩
  · rintro ⟨hk, hb⟩
    exact ⟨k, ⟨rfl, hk⟩, by rw [if_pos (Nat.lt_succ_of_le hk)]; exact hb⟩

/-- Loading registers from a block: each of them gets its byte, if the memory reaches so far. -/
theorem get_setAll_upTo (r : Registers) (cells : Array UInt8) (a : Nat) {x k : Nibble} (hk : k ≤ x) :
    (r.setAll ((upTo x).zip (Memory.block cells a (x + 1)))).get k = cells.getD (a + k) (r.get k) := by
  rw [Array.getD_eq_getD_getElem?]
  by_cases hin : a + k < cells.size
  · rw [Array.getElem?_eq_getElem hin, Option.getD_some]
    apply Registers.setAll_get
    · -- the block may be shorter than the list of registers
      rw [List.zip_eq_zip_take_min, List.map_fst_zip (by simp)]
      exact (upTo_nodup x).sublist (List.take_sublist _ _)
    · exact mem_zip_upTo.mpr ⟨hk, Array.getElem?_eq_getElem hin⟩
  · rw [Array.getElem?_eq_none (by omega), Option.getD_none]
    apply Registers.setAll_untouched
    rintro ⟨k', b⟩ hp rfl
    obtain ⟨-, hb⟩ := mem_zip_upTo.mp hp
    exact hin (Array.getElem?_eq_some_iff.mp hb).1

variable {m m' : Vm} {i : Instruction} {fault : Fault}

/-- Why a block of `n` bytes at the index register cannot be moved. -/
def missing? (m : Vm) (n : Nat) : Option Fault := m.memory.missing? m.registers.i.toNat n

/-- Why an instruction is refused: a call with a full stack, a return with an empty one, a key that the pad does
not have, or a block that does not lie in the memory. -/
def refusal? (m : Vm) : Instruction → Option Fault
  | .call _ => if m.registers.sp = 16 then some .stackOverflow else none
  | .ret => if m.registers.sp = 0 then some .stackUnderflow else none
  | .skipDown x | .skipUp x =>
    if 16 ≤ (m.registers.get x).toNat then some (.invalidKey (m.registers.get x).toNat) else none
  | .storeDecimal _ => m.missing? 3
  | .storeRegisters x | .loadRegisters x => m.missing? (x + 1)
  | .draw _ _ rows => m.missing? rows
  | _ => none

theorem ofInstruction_refusal? (h : m.refusal? i = some fault) : fault.ofInstruction := by
  have hguard : ∀ {p : Prop} [Decidable p] {f : Fault}, f.ofInstruction → (if p then some f else none) = some fault →
      fault.ofInstruction := by
    intro p _ f hf hif
    split at hif
    · cases hif
      exact hf
    · cases hif
  cases i with
  | call _ | ret | skipDown _ | skipUp _ | storeDecimal _ | storeRegisters _ | loadRegisters _ | draw _ _ _ =>
    exact hguard rfl h
  | _ => cases h

/-- The memory after the accesses of an instruction. -/
def accessed (m : Vm) (i : Instruction) : Memory :=
  (m.memory.afterReading m.registers.i.toNat i.reads).afterWriting m.registers.i.toNat (i.stores m.registers)

/-- The machine as a refused instruction leaves it: the part of its block that lies in the memory is moved. -/
def halfway (m : Vm) (i : Instruction) : Vm :=
  { m with
    registers := m.registers.setAll (i.loads.zip (Memory.block m.memory.cells m.registers.i.toNat i.reads))
    memory := m.accessed i }

def drawn (m : Vm) (x y : Nibble) (sprite : List UInt8) : Vm :=
  let (display, collision) :=
    m.display.draw (m.registers.get x).toNat (m.registers.get y).toNat (sprite.map fun row => (row.toNat : Int))
  { m with display, registers := m.registers.writeFlag collision }

/-! ## The instructions that touch the memory -/

theorem execute_storeDecimal (x : Nibble) (m : Vm) :
    execute (.storeDecimal x) m = conclude (m.missing? 3) () { m with memory := m.accessed (.storeDecimal x) } := by
  simp only [accessed, Instruction.reads, Instruction.stores, Memory.afterReading_zero]
  exact storeBytes_eq m.registers.i.toNat (decimalDigits (m.registers.get x)) m

theorem execute_storeRegisters (x : Nibble) (m : Vm) :
    execute (.storeRegisters x) m
      = conclude (m.missing? (x + 1)) () { m with memory := m.accessed (.storeRegisters x) } := by
  have h := storeBytes_eq m.registers.i.toNat ((upTo x).map m.registers.get) m
  rw [List.length_map, upTo_length] at h
  simp only [accessed, Instruction.reads, Instruction.stores, Memory.afterReading_zero]
  exact h

theorem execute_loadRegisters (x : Nibble) (m : Vm) :
    execute (.loadRegisters x) m = conclude (m.missing? (x + 1)) () (m.halfway (.loadRegisters x)) := by
  have h := loadRegisters_eq m.registers.i.toNat (upTo x) m
  rw [upTo_length] at h
  simp only [halfway, accessed, Instruction.reads, Instruction.stores, Memory.afterWriting_nil]
  exact h

theorem execute_draw (x y : Nibble) {rows : Nibble} (h : m.missing? rows = none) :
    execute (.draw x y rows) m = .ok () { m.drawn x y (Memory.block m.memory.cells m.registers.i.toNat rows) with
      memory := m.accessed (.draw x y rows) } := by
  have hread := readBytes_eq m.registers.i.toNat rows m
  rw [show m.memory.missing? m.registers.i.toNat rows = none from h] at hread
  simp only [accessed, Instruction.reads, Instruction.stores, Memory.afterWriting_nil]
  exact bind_get.trans (bind_ok hread)

theorem execute_draw_missing (x y : Nibble) {rows : Nibble} (h : m.missing? rows = some fault) :
    execute (.draw x y rows) m = .error fault { m with memory := m.accessed (.draw x y rows) } := by
  have hread := readBytes_eq m.registers.i.toNat rows m
  rw [show m.memory.missing? m.registers.i.toNat rows = some fault from h] at hread
  simp only [accessed, Instruction.reads, Instruction.stores, Memory.afterWriting_nil]
  exact bind_get.trans (bind_error hread)

/-! ## All instructions -/

/-- How an instruction ends: with the fault that refuses it, if there is one, with its accesses made, and half way
if it is refused. -/
structure Ends (i : Instruction) (m m' : Vm) : Prop where
  result : execute i m = conclude (m.refusal? i) () m'
  memory : m'.memory = m.accessed i
  halfway : m.refusal? i ≠ none → m' = m.halfway i

theorem accessed_idle (hr : i.reads = 0) (hs : i.stores m.registers = []) : m.accessed i = m.memory := by
  rw [accessed, hr, hs, Memory.afterReading_zero, Memory.afterWriting_nil]

theorem Ends.plain (hf : m.refusal? i = none) (hr : i.reads = 0) (hs : i.stores m.registers = [])
    (h : execute i m = .ok () m') (hm : m'.memory = m.memory) : Ends i m m' :=
  ⟨by rw [hf]; exact h, by rw [hm, accessed_idle hr hs], fun hne => absurd hf hne⟩

theorem Ends.untouched (hf : m.refusal? i = some fault) (hr : i.reads = 0) (hl : i.loads = [])
    (hs : i.stores m.registers = []) (h : execute i m = .error fault m) : Ends i m m := by
  refine ⟨by rw [hf]; exact h, (accessed_idle hr hs).symm, fun _ => ?_⟩
  rw [Vm.halfway, accessed_idle hr hs, hl, List.zip_nil_left, Registers.setAll_nil]

theorem execute_call (target : Address12) (m : Vm) :
    execute (.call target) m = tryRegisters (fun r => r.call target.val) m := rfl

theorem execute_ret (m : Vm) : execute .ret m = tryRegisters Registers.ret m := rfl

theorem execute_skipDown (x : Nibble) (m : Vm) :
    execute (.skipDown x) m = (keyDown x >>= fun down => skipWhen down) m := bind_get

theorem execute_skipUp (x : Nibble) (m : Vm) :
    execute (.skipUp x) m = (keyDown x >>= fun down => skipWhen !down) m := bind_get

theorem ends_call (target : Address12) (m : Vm) : ∃ m', Ends (.call target) m m' := by
  have hrefusal : m.refusal? (.call target) = if m.registers.sp = 16 then some .stackOverflow else none := rfl
  by_cases h : m.registers.sp = 16
  · rw [if_pos h] at hrefusal
    have hrun := execute_call target m
    rw [tryRegisters_error (Registers.call_full h)] at hrun
    exact ⟨m, .untouched hrefusal rfl rfl rfl hrun⟩
  · rw [if_neg h] at hrefusal
    have hrun := execute_call target m
    rw [tryRegisters_ok (Registers.call_room (Registers.sp_lt_of_ne h))] at hrun
    exact ⟨_, .plain hrefusal rfl rfl hrun rfl⟩

theorem ends_ret (m : Vm) : ∃ m', Ends .ret m m' := by
  have hrefusal : m.refusal? .ret = if m.registers.sp = 0 then some .stackUnderflow else none := rfl
  by_cases h : m.registers.sp = 0
  · rw [if_pos h] at hrefusal
    have hrun := execute_ret m
    rw [tryRegisters_error (Registers.ret_empty h)] at hrun
    exact ⟨m, .untouched hrefusal rfl rfl rfl hrun⟩
  · rw [if_neg h] at hrefusal
    obtain ⟨n, hn⟩ : ∃ n, m.registers.sp.val = n + 1 := Nat.exists_eq_succ_of_ne_zero fun he => h (Fin.ext he)
    have hrun := execute_ret m
    rw [tryRegisters_ok (Registers.ret_open hn)] at hrun
    exact ⟨_, .plain hrefusal rfl rfl hrun rfl⟩

theorem execute_awaitKey_none (x : Nibble) (h : m.keypad.firstPressed = none) :
    execute (.awaitKey x) m = .ok () { m with registers := m.registers.rewind } := by
  have hrun : execute (.awaitKey x) m = _ := bind_get.trans bind_get
  rw [h] at hrun
  exact hrun

theorem execute_awaitKey_some (x : Nibble) {key : Nibble} (h : m.keypad.firstPressed = some key) :
    execute (.awaitKey x) m = .ok () { m with registers := m.registers.set x (UInt8.ofNat key) } := by
  have hrun : execute (.awaitKey x) m = _ := bind_get.trans bind_get
  rw [h] at hrun
  exact hrun

/-- The two instructions that ask for a key: they skip by what the key says, or are refused. -/
theorem ends_keySkip {x : Nibble} {f : Bool → Bool} (hr : i.reads = 0) (hl : i.loads = [])
    (hs : i.stores m.registers = [])
    (hf : m.refusal? i
      = if 16 ≤ (m.registers.get x).toNat then some (.invalidKey (m.registers.get x).toNat) else none)
    (h : execute i m = (keyDown x >>= fun down => skipWhen (f down)) m) : ∃ m', Ends i m m' := by
  by_cases hx : 16 ≤ (m.registers.get x).toNat
  · rw [if_pos hx] at hf
    rw [keySkip_error hx] at h
    exact ⟨m, .untouched hf hr hl hs h⟩
  · rw [if_neg hx] at hf
    rw [keySkip_ok (by omega)] at h
    exact ⟨_, .plain hf hr hs h rfl⟩

theorem ends_transfer {fault : Option Fault} (hf : m.refusal? i = fault) (hm : m'.memory = m.accessed i)
    (hh : m' = m.halfway i) (h : execute i m = conclude fault () m') : ∃ m', Ends i m m' :=
  ⟨m', by rw [hf]; exact h, hm, fun _ => hh⟩

theorem ends_draw (x y rows : Nibble) (m : Vm) : ∃ m', Ends (.draw x y rows) m m' := by
  have hrefusal : m.refusal? (.draw x y rows) = m.missing? rows := rfl
  cases hm : m.missing? rows with
  | none =>
    rw [hm] at hrefusal
    exact ⟨_, by rw [hrefusal]; exact execute_draw x y hm, rfl, fun hne => absurd hrefusal hne⟩
  | some fault =>
    rw [hm] at hrefusal
    exact ⟨_, by rw [hrefusal]; exact execute_draw_missing x y hm, rfl, fun _ => rfl⟩

theorem exists_ends (i : Instruction) (m : Vm) : ∃ m', Ends i m m' := by
  cases i with
  | call target => exact ends_call target m
  | ret => exact ends_ret m
  | skipDown x => exact ends_keySkip rfl rfl rfl rfl (execute_skipDown x m)
  | skipUp x => exact ends_keySkip rfl rfl rfl rfl (execute_skipUp x m)
  | storeDecimal x => exact ends_transfer rfl rfl rfl (execute_storeDecimal x m)
  | storeRegisters x => exact ends_transfer rfl rfl rfl (execute_storeRegisters x m)
  | loadRegisters x => exact ends_transfer rfl rfl rfl (execute_loadRegisters x m)
  | draw x y rows => exact ends_draw x y rows m
  | skipEqual _ _ | skipUnequal _ _ | skipSame _ _ | skipDifferent _ _ =>
    exact ⟨_, .plain rfl rfl rfl (bind_get.trans (skipWhen_apply _ m)) rfl⟩
  | awaitKey x =>
    cases h : m.keypad.firstPressed with
    | none => exact ⟨_, .plain rfl rfl rfl (execute_awaitKey_none x h) rfl⟩
    | some key => exact ⟨_, .plain rfl rfl rfl (execute_awaitKey_some x h) rfl⟩
  | _ => exact ⟨_, .plain rfl rfl rfl rfl rfl⟩

/-- Every instruction ends as described, in the machine that it leaves. -/
theorem execute_ends (i : Instruction) (m : Vm) : Ends i m (after (execute i) m) := by
  obtain ⟨m', h⟩ := exists_ends i m
  rw [after_conclude h.result]
  exact h

theorem execute_fault (i : Instruction) (m : Vm) : faultOf (execute i) m = m.refusal? i := by
  rw [faultOf, (execute_ends i m).result]
  cases m.refusal? i <;> rfl

theorem execute_memory (i : Instruction) (m : Vm) : (after (execute i) m).memory = m.accessed i :=
  (execute_ends i m).memory

theorem execute_refused (h : m.refusal? i = some fault) : execute i m = .error fault (m.halfway i) := by
  have hends := execute_ends i m
  have hresult := hends.result
  rw [hends.halfway (by rw [h]; exact Option.some_ne_none fault), h] at hresult
  exact hresult

theorem execute_completed (h : m.refusal? i = none) : execute i m = .ok () (after (execute i) m) := by
  have hresult := (execute_ends i m).result
  rw [h] at hresult
  exact hresult

/-! ## What an instruction depends on -/

/-- Machines that are the same for all instructions that touch neither the memory nor the picture, and are related
whatever such an instruction does to both of them. -/
structure Parallel (R : Vm → Vm → Prop) (m m' : Vm) : Prop where
  registers : m'.registers = m.registers
  keypad : m'.keypad = m.keypad
  random : m'.random = m.random
  related : ∀ registers random, R { m with registers, random } { m' with registers, random }

variable {R : Vm → Vm → Prop}

theorem Parallel.eq (h : Parallel R m m') : ∃ memory display cycles, m' = { m with memory, display, cycles } :=
  ⟨m'.memory, m'.display, m'.cycles, by rw [← h.registers, ← h.keypad, ← h.random]⟩

theorem Parallel.tryRegisters (h : Parallel R m m') (f : Registers → Except Fault Registers) :
    R (after (tryRegisters f) m) (after (tryRegisters f) m') := by
  obtain ⟨memory, display, cycles, rfl⟩ := h.eq
  cases hf : f m.registers with
  | ok r => exact related_ok (tryRegisters_ok hf) (tryRegisters_ok hf) (h.related r m.random)
  | error fault => exact related_error (tryRegisters_error hf) (tryRegisters_error hf) (h.related m.registers m.random)

theorem Parallel.keySkip (h : Parallel R m m') (x : Nibble) (f : Bool → Bool) :
    R (after (keyDown x >>= fun down => skipWhen (f down)) m)
      (after (keyDown x >>= fun down => skipWhen (f down)) m') := by
  obtain ⟨memory, display, cycles, rfl⟩ := h.eq
  by_cases hx : 16 ≤ (m.registers.get x).toNat
  · exact related_error (keySkip_error hx) (keySkip_error hx) (h.related m.registers m.random)
  · have hlt : (m.registers.get x).toNat < 16 := by omega
    have hrun' := keySkip_ok (m := { m with memory, display, cycles }) (x := x) (f := f) hlt
    exact related_ok (keySkip_ok hlt) hrun' (h.related _ m.random)

/-- Instructions that touch neither the memory nor the picture do the same to both machines. -/
theorem execute_local (h : Parallel R m m') (hi : i.isLocal) : R (after (execute i) m) (after (execute i) m') := by
  obtain ⟨memory, display, cycles, rfl⟩ := h.eq
  cases i with
  | call target => exact h.tryRegisters fun r => r.call target.val
  | ret => exact h.tryRegisters Registers.ret
  | skipDown x => exact h.keySkip x id
  | skipUp x => exact h.keySkip x (!·)
  | skipEqual _ _ | skipUnequal _ _ | skipSame _ _ | skipDifferent _ _ =>
    exact related_ok (bind_get.trans (skipWhen_apply _ m)) (bind_get.trans (skipWhen_apply _ _)) (h.related _ m.random)
  | awaitKey x =>
    cases hk : m.keypad.firstPressed with
    | none =>
      exact related_ok (execute_awaitKey_none x hk) (execute_awaitKey_none x hk) (h.related m.registers.rewind m.random)
    | some key => exact related_ok (execute_awaitKey_some x hk) (execute_awaitKey_some x hk) (h.related _ m.random)
  | clear | draw _ _ _ | storeDecimal _ | storeRegisters _ | loadRegisters _ => cases hi
  | _ => exact h.related _ _

/-- No instruction touches the pad or the count of completed cycles. -/
theorem execute_rest (i : Instruction) (m : Vm) : ∃ registers memory display random,
    after (execute i) m = { m with registers, memory, display, random } := by
  cases i with
  | clear => exact ⟨_, _, _, _, rfl⟩
  | storeDecimal x => exact ⟨_, _, _, _, after_conclude (execute_storeDecimal x m)⟩
  | storeRegisters x => exact ⟨_, _, _, _, after_conclude (execute_storeRegisters x m)⟩
  | loadRegisters x => exact ⟨_, _, _, _, after_conclude (execute_loadRegisters x m)⟩
  | draw x y rows =>
    cases hm : m.missing? rows with
    | none => exact ⟨_, _, _, _, after_ok (execute_draw x y hm)⟩
    | some fault => exact ⟨_, _, _, _, after_error (execute_draw_missing x y hm)⟩
  | _ =>
    have hself : Parallel (fun m₁ _ => ∃ registers memory display random,
        m₁ = { m with registers, memory, display, random }) m m :=
      ⟨rfl, rfl, rfl, fun registers random => ⟨registers, m.memory, m.display, random, rfl⟩⟩
    exact execute_local hself rfl

theorem execute_cycles (i : Instruction) (m : Vm) : (after (execute i) m).cycles = m.cycles := by
  obtain ⟨registers, memory, display, random, hrest⟩ := execute_rest i m
  rw [hrest]

theorem execute_keypad (i : Instruction) (m : Vm) : (after (execute i) m).keypad = m.keypad := by
  obtain ⟨registers, memory, display, random, hrest⟩ := execute_rest i m
  rw [hrest]

/-- The machines differ in their memories at most. -/
def Twin (m m' : Vm) : Prop := m' = { m with memory := m'.memory }

theorem twin_memory (m : Vm) (memory : Memory) : Twin m { m with memory } := rfl

theorem Twin.registers (h : Twin m m') : m'.registers = m.registers := by rw [h]

/-- A fault depends on the registers, the keys that the pad has, and the size of the memory. -/
theorem refusal?_congr (hr : m'.registers = m.registers) (hsize : m.memory.size = m'.memory.size) (i : Instruction) :
    m.refusal? i = m'.refusal? i := by
  have hmissing : ∀ n, m.missing? n = m'.missing? n := by
    intro n
    simp only [missing?, Memory.missing?, hsize, hr]
  obtain ⟨registers, memory, display, keypad, random, cycles⟩ := m'
  cases hr
  -- the four block transfers ask the memory for its size, the others do not ask it
  cases i with
  | storeDecimal _ | storeRegisters _ | loadRegisters _ | draw _ _ _ => exact hmissing _
  | _ => rfl

theorem Twin.parallel (h : Twin m m') : Parallel Twin m m' := by
  obtain ⟨memory, rfl⟩ : ∃ memory, m' = { m with memory } := ⟨_, h⟩
  exact ⟨rfl, rfl, rfl, fun _ _ => rfl⟩

/-- An instruction does the same, the memory apart, on machines that differ in their memories only and agree on
the bytes that it reads. -/
theorem execute_congr (i : Instruction) (h : Twin m m') (hsize : m.memory.size = m'.memory.size)
    (hblock : Memory.block m.memory.cells m.registers.i.toNat i.reads
      = Memory.block m'.memory.cells m.registers.i.toNat i.reads) :
    Twin (after (execute i) m) (after (execute i) m') := by
  have hrefusal := refusal?_congr h.registers hsize i
  obtain ⟨memory, rfl⟩ : ∃ memory, m' = { m with memory } := ⟨_, h⟩
  -- only the two instructions that read look at the memory; the others run alike whatever it holds
  cases i with
  | clear => rfl
  | storeDecimal x =>
    rw [after_conclude (execute_storeDecimal x m), after_conclude (execute_storeDecimal x _)]
    rfl
  | storeRegisters x =>
    rw [after_conclude (execute_storeRegisters x m), after_conclude (execute_storeRegisters x _)]
    rfl
  | loadRegisters x =>
    rw [after_conclude (execute_loadRegisters x m), after_conclude (execute_loadRegisters x _)]
    simp only [Twin, halfway, hblock]
  | draw x y rows =>
    -- the sprite is missing from both memories or from neither
    have hmissing : ({ m with memory } : Vm).missing? rows = m.missing? rows := hrefusal.symm
    cases hm : m.missing? rows with
    | none =>
      rw [after_ok (execute_draw x y hm), after_ok (execute_draw x y (hmissing.trans hm))]
      change Memory.block m.memory.cells _ rows = Memory.block memory.cells _ rows at hblock
      simp only [Twin, drawn, hblock]
    | some fault =>
      rw [after_error (execute_draw_missing x y hm), after_error (execute_draw_missing x y (hmissing.trans hm))]
      rfl
  | _ => exact execute_local h.parallel rfl

end Vm

end Chip8
