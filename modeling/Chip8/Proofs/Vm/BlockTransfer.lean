import Chip8.Proofs.Vm.Cycle

/-!
# Block transfers

What the three instructions do that move a block between registers and memory, when the block lies in the memory: one
stores the registers up to `x`, one loads them back from where they were stored, and one stores the decimal digits of a
register. Each is completed, on its own and in a cycle, and touches nothing but the registers or the cells of its block.

Main statement: `transfers_exact`.
-/

namespace Chip8

namespace Memory

variable {cells : Array UInt8} {a k : Nat} {data : List UInt8}

theorem overlay_inside (hk : k < data.length) (h : a + k < cells.size) : (overlay cells a data)[a + k]? = data[k]? := by
  rw [overlay_getElem?, Array.getElem?_eq_getElem h, Option.map_some, if_pos (Nat.le_add_right a k),
    Nat.add_sub_cancel_left, List.getD_eq_getElem?_getD, List.getElem?_eq_getElem hk, Option.getD_some]

end Memory

namespace Vm

open Memory Registers

variable {m m' m₁ m₂ m₃ : Vm} {i : Instruction} {law law' : Vm → Vm → Prop} {x : Nibble} {n : Nat}

/-! ## On its own and in a cycle -/

/-- The machines have the same bytes in their registers, the same index register and the same cells. -/
structure SameData (m m₁ : Vm) : Prop where
  bytes : m₁.registers.v = m.registers.v
  index : m₁.registers.i = m.registers.i
  cells : m₁.memory.cells = m.memory.cells

/-- The instruction is completed, on its own and in the cycle that fetches it, and what it does obeys a law. In a cycle
it finds the machine at the next instruction; the cycle then empties the record and counts. -/
def Performs (m : Vm) (i : Instruction) (law : Vm → Vm → Prop) : Prop :=
  (∃ m', execute i m = .ok () m' ∧ law m m')
    ∧ ∀ w, m.word? = some w → Instruction.ofWord? w = some i →
      ∃ s m', step m = .ok s { m'.cleared with cycles := m.cycles + 1 } ∧ law m.fetched m'

theorem sameData_fetched (m : Vm) : SameData m m.fetched := ⟨rfl, rfl, rfl⟩

theorem Performs.of_execute (h : ∀ m₁, SameData m m₁ → ∃ m', execute i m₁ = .ok () m' ∧ law m₁ m') :
    m.Performs i law := by
  refine ⟨h m ⟨rfl, rfl, rfl⟩, ?_⟩
  intro w hw hi
  obtain ⟨m', hrun, hlaw⟩ := h m.fetched m.sameData_fetched
  have hf : m.refusal? i = none := by rw [← refusal?_fetched, ← execute_fault, faultOf_ok hrun]
  have hafter : m.executed i = m' := after_ok hrun
  have hcycles : m'.cycles = m.cycles := by
    rw [← hafter]
    exact execute_cycles i m.fetched
  have hcompleted : m.completed i = { m'.cleared with cycles := m.cycles + 1 } := by
    rw [completed, hafter, hcycles]
  exact ⟨_, m', by rw [← hcompleted]; exact step_completed hw hi hf, hlaw⟩

theorem Performs.mono (h : m.Performs i law) (himp : ∀ m₁ m', SameData m m₁ → law m₁ m' → law' m₁ m') :
    m.Performs i law' := by
  obtain ⟨⟨m', hrun, hlaw⟩, hcycle⟩ := h
  refine ⟨⟨m', hrun, himp _ _ ⟨rfl, rfl, rfl⟩ hlaw⟩, ?_⟩
  intro w hw hi
  obtain ⟨s, m', hstep, hlaw⟩ := hcycle w hw hi
  exact ⟨s, m', hstep, himp _ _ m.sameData_fetched hlaw⟩

theorem SameData.block_inside (h : SameData m m₁) (hin : m.registers.i.toNat + n ≤ m.memory.size) :
    m₁.registers.i.toNat + n ≤ m₁.memory.size := by
  rw [h.index, Memory.size, h.cells]
  exact hin

theorem missing?_inside (h : m.registers.i.toNat + n ≤ m.memory.size) : m.missing? n = none :=
  if_neg fun hout => absurd hout.2 (Nat.not_lt.mpr h)

/-! ## Storing -/

/-- The data stand in the cells from the index register on, and nothing else is different. -/
structure Wrote (data : List UInt8) (m m' : Vm) : Prop where
  inside : ∀ k < data.length, m'.memory.cells[m.registers.i.toNat + k]? = data[k]?
  elsewhere : ∀ a, ¬(m.registers.i.toNat ≤ a ∧ a < m.registers.i.toNat + data.length) →
    m'.memory.cells[a]? = m.memory.cells[a]?
  rest : m' = { m with memory := m'.memory }

/-- The registers up to `x` stand in the cells from the index register on, and nothing else is different. -/
structure Stored (x : Nibble) (m m' : Vm) : Prop where
  bytes : ∀ k ≤ x, m'.memory.cells[m.registers.i.toNat + k]? = some (m.registers.get k)
  elsewhere : ∀ a, ¬(m.registers.i.toNat ≤ a ∧ a ≤ m.registers.i.toNat + x) →
    m'.memory.cells[a]? = m.memory.cells[a]?
  rest : m' = { m with memory := m'.memory }

/-- Three decimal digits that make up the register stand in the cells from the index register on, and nothing else is
different. -/
structure StoredDecimal (x : Nibble) (m m' : Vm) : Prop where
  digits : ∃ d₀ d₁ d₂ : UInt8, m'.memory.cells[m.registers.i.toNat]? = some d₀
    ∧ m'.memory.cells[m.registers.i.toNat + 1]? = some d₁ ∧ m'.memory.cells[m.registers.i.toNat + 2]? = some d₂
    ∧ d₀.toNat ≤ 9 ∧ d₁.toNat ≤ 9 ∧ d₂.toNat ≤ 9
    ∧ 100 * d₀.toNat + 10 * d₁.toNat + d₂.toNat = (m.registers.get x).toNat
  elsewhere : ∀ a, ¬(m.registers.i.toNat ≤ a ∧ a ≤ m.registers.i.toNat + 2) →
    m'.memory.cells[a]? = m.memory.cells[a]?
  rest : m' = { m with memory := m'.memory }

theorem wrote_accessed (h : m.registers.i.toNat + i.writes ≤ m.memory.size) :
    Wrote (i.stores m.registers) m { m with memory := m.accessed i } where
  inside := fun k hk => by
    have hlength := stores_length i m.registers
    exact overlay_inside hk (show _ < m.memory.size by omega)
  elsewhere := fun a ha => overlay_elsewhere (by omega)
  rest := rfl

theorem Wrote.stored (h : Wrote ((upTo x).map m.registers.get) m m') : Stored x m m' := by
  have hlength : ((upTo x).map m.registers.get).length = x + 1 := by rw [List.length_map, upTo_length]
  refine ⟨fun k hk => ?_, fun a ha => h.elsewhere a (by omega), h.rest⟩
  have hbyte := h.inside k (by rw [hlength]; exact Nat.lt_succ_of_le hk)
  rw [hbyte, List.getElem?_map, upTo_getElem?.mpr ⟨rfl, hk⟩, Option.map_some]

theorem decimalDigits_sum (b : UInt8) : (b / 100).toNat ≤ 9 ∧ (b / 10 % 10).toNat ≤ 9 ∧ (b % 10).toNat ≤ 9
    ∧ 100 * (b / 100).toNat + 10 * (b / 10 % 10).toNat + (b % 10).toNat = b.toNat := by
  have hb := b.toNat_lt
  have hhundred : (100 : UInt8).toNat = 100 := rfl
  have hten : (10 : UInt8).toNat = 10 := rfl
  rw [UInt8.toNat_div, UInt8.toNat_mod, UInt8.toNat_mod, UInt8.toNat_div, hhundred, hten]
  omega

theorem Wrote.storedDecimal (h : Wrote (decimalDigits (m.registers.get x)) m m') : StoredDecimal x m m' := by
  have hlength : (decimalDigits (m.registers.get x)).length = 3 := rfl
  refine ⟨⟨_, _, _, h.inside 0 ?_, h.inside 1 ?_, h.inside 2 ?_, ?_⟩, fun a ha => h.elsewhere a (by omega), h.rest⟩
  · omega
  · omega
  · omega
  · exact decimalDigits_sum (m.registers.get x)

theorem performs_store (hstore : ∀ m, execute i m = conclude (m.missing? i.writes) () { m with memory := m.accessed i })
    (h : m.registers.i.toNat + i.writes ≤ m.memory.size) :
    m.Performs i fun m m' => Wrote (i.stores m.registers) m m' := by
  apply Performs.of_execute
  intro m₁ hsame
  have hin := hsame.block_inside h
  have hrun := hstore m₁
  rw [missing?_inside hin] at hrun
  exact ⟨_, hrun, wrote_accessed hin⟩

theorem performs_storeRegisters (h : m.registers.i.toNat + x < m.memory.size) :
    m.Performs (.storeRegisters x) (Stored x) :=
  (performs_store (execute_storeRegisters x) h).mono fun _ _ _ => Wrote.stored

theorem performs_storeDecimal (h : m.registers.i.toNat + 2 < m.memory.size) :
    m.Performs (.storeDecimal x) (StoredDecimal x) :=
  (performs_store (execute_storeDecimal x) h).mono fun _ _ _ => Wrote.storedDecimal

/-! ## Loading -/

/-- The registers up to `x` hold the bytes from the index register on, and nothing else is different. -/
structure Loaded (x : Nibble) (m m' : Vm) : Prop where
  bytes : ∀ k ≤ x, m.memory.cells[m.registers.i.toNat + k]? = some (m'.registers.get k)
  others : ∀ k, x < k → m'.registers.get k = m.registers.get k
  cells : m'.memory.cells = m.memory.cells
  rest : m' = { m with registers := { m.registers with v := m'.registers.v }, memory := m'.memory }

theorem loaded_halfway (h : m.registers.i.toNat + x < m.memory.size) :
    Loaded x m (m.halfway (.loadRegisters x)) := by
  refine ⟨fun k hk => ?_, fun k hk => ?_, overlay_nil, ?_⟩
  · have hin : m.registers.i.toNat + k < m.memory.cells.size := by
      have hle : k.val ≤ x.val := hk
      show _ < m.memory.size
      omega
    have hget := get_setAll_upTo m.registers m.memory.cells m.registers.i.toNat hk
    rw [Array.getD_eq_getD_getElem?, Array.getElem?_eq_getElem hin, Option.getD_some] at hget
    rw [Array.getElem?_eq_getElem hin, ← hget]
    rfl
  · apply setAll_untouched (r := m.registers)
    rintro ⟨y, b⟩ hp rfl
    exact Fin.not_le.mpr hk (mem_upTo.mp (List.of_mem_zip hp).1)
  · unfold halfway
    rw [setAll_eq]

theorem performs_loadRegisters (h : m.registers.i.toNat + x < m.memory.size) :
    m.Performs (.loadRegisters x) (Loaded x) := by
  apply Performs.of_execute
  intro m₁ hsame
  have hin := hsame.block_inside (n := x + 1) h
  have hrun := execute_loadRegisters x m₁
  rw [missing?_inside hin] at hrun
  exact ⟨_, hrun, loaded_halfway hin⟩

/-! ## There and back -/

theorem Loaded.restored (hs : Stored x m m₁) (hl : Loaded x m₂ m₃) (hcells : m₂.memory.cells = m₁.memory.cells)
    (hindex : m₂.registers.i = m.registers.i) : ∀ k ≤ x, m₃.registers.get k = m.registers.get k := by
  intro k hk
  have hloaded := hl.bytes k hk
  rw [hcells, hindex, hs.bytes k hk] at hloaded
  exact (Option.some_inj.mp hloaded).symm

theorem Stored.returned (hl : Loaded x m m₁) (hs : Stored x m₂ m₃) (hcells : m₂.memory.cells = m₁.memory.cells)
    (hindex : m₂.registers.i = m.registers.i) (hbytes : ∀ k ≤ x, m₂.registers.get k = m₁.registers.get k) :
    m₃.memory.cells = m.memory.cells := by
  apply Array.ext_getElem?
  intro a
  by_cases ha : m.registers.i.toNat ≤ a ∧ a ≤ m.registers.i.toNat + x
  · -- a cell of the block is one of the registers
    obtain ⟨k, rfl⟩ := Nat.exists_eq_add_of_le ha.1
    have hx := x.isLt
    have hk : (⟨k, by omega⟩ : Nibble) ≤ x := Nat.le_of_add_le_add_left ha.2
    have hstored := hs.bytes _ hk
    rw [hindex, hbytes _ hk] at hstored
    exact hstored.trans (hl.bytes _ hk).symm
  · rw [hs.elsewhere a (by rw [hindex]; exact ha), hcells, hl.cells]

/-- Storing the registers up to `x` and loading them restores them, also if all registers were changed in between.
Loading them and storing them leaves the memory as it was. Storing a register in decimal stores its digits. Each of
these needs its block to lie in the memory, and nothing else. -/
theorem transfers_exact (m : Vm) (x : Nibble) :
    (m.registers.i.toNat + x < m.memory.size →
      m.Performs (.storeRegisters x) (fun m m₁ => Stored x m m₁
          ∧ ∀ m₂ : Vm, m₂.memory.cells = m₁.memory.cells → m₂.registers.i = m.registers.i →
            m₂.Performs (.loadRegisters x) fun m₂ m₃ =>
              Loaded x m₂ m₃ ∧ ∀ k ≤ x, m₃.registers.get k = m.registers.get k)
        ∧ m.Performs (.loadRegisters x) (fun m m₁ => Loaded x m m₁
          ∧ ∀ m₂ : Vm, m₂.memory.cells = m₁.memory.cells → m₂.registers.i = m.registers.i →
            (∀ k ≤ x, m₂.registers.get k = m₁.registers.get k) →
            m₂.Performs (.storeRegisters x) fun _ m₃ => m₃.memory.cells = m.memory.cells))
      ∧ (m.registers.i.toNat + 2 < m.memory.size → m.Performs (.storeDecimal x) (StoredDecimal x)) := by
  refine ⟨fun h => ⟨?_, ?_⟩, performs_storeDecimal⟩
  · apply (performs_storeRegisters h).mono
    rintro m₀ m₁ - hstored
    refine ⟨hstored, fun m₂ hcells hindex => ?_⟩
    -- the block has the same place, and it lay in the memory
    have hin : m₂.registers.i.toNat + x < m₂.memory.size := by
      rw [hindex, Memory.size, hcells]
      exact (Array.getElem?_eq_some_iff.mp (hstored.bytes x (Fin.le_refl x))).1
    apply (performs_loadRegisters hin).mono
    intro m₂' m₃ hsame hloaded
    exact ⟨hloaded, hloaded.restored hstored (hsame.cells.trans hcells) (hsame.index.trans hindex)⟩
  · apply (performs_loadRegisters h).mono
    rintro m₀ m₁ - hloaded
    refine ⟨hloaded, fun m₂ hcells hindex hbytes => ?_⟩
    have hin : m₂.registers.i.toNat + x < m₂.memory.size := by
      rw [hindex, Memory.size, hcells, hloaded.cells]
      exact (Array.getElem?_eq_some_iff.mp (hloaded.bytes x (Fin.le_refl x))).1
    apply (performs_storeRegisters hin).mono
    intro m₂' m₃ hsame hstored
    refine hstored.returned hloaded (hsame.cells.trans hcells) (hsame.index.trans hindex) fun k hk => ?_
    exact (congrArg (·.entry k) hsame.bytes).trans (hbytes k hk)

/-- A machine with three bytes of room from the index register to the end of its memory. -/
def carrying : Vm :=
  { registers := { i := 2, v := Bank.put (.replicate 16 0) 2 255 }
    memory := { cells := #[1, 2, 3, 4, 5] }
    random := .constant 0 }

/-- Three registers and three digits both reach the last byte of the memory, and the registers come back from there
after all of them were cleared. -/
theorem transfers_exact_carrying : ∃ stored spelled restored,
    execute (.storeRegisters 2) carrying = .ok () stored
      ∧ stored.memory.cells[4]? = some 255
      ∧ execute (.loadRegisters 2)
        { stored with registers := { stored.registers with v := .replicate 16 0 } } = .ok () restored
      ∧ restored.registers.get 2 = 255
      ∧ execute (.storeDecimal 2) carrying = .ok () spelled
      ∧ StoredDecimal 2 carrying spelled := by
  have hregisters : carrying.registers.i.toNat + 2 < carrying.memory.size := by decide
  have hexact := transfers_exact carrying 2
  obtain ⟨⟨stored, hstore, hstored, hback⟩, -⟩ := (hexact.1 hregisters).1
  obtain ⟨⟨spelled, hspell, hspelled⟩, -⟩ := hexact.2 hregisters
  have hindex : stored.registers.i = carrying.registers.i := congrArg (·.registers.i) hstored.rest
  obtain ⟨⟨restored, hload, -, hrestored⟩, -⟩ :=
    hback { stored with registers := { stored.registers with v := .replicate 16 0 } } rfl hindex
  exact ⟨stored, spelled, restored, hstore, hstored.bytes 2 (Fin.le_refl 2), hload, hrestored 2 (Fin.le_refl 2), hspell,
    hspelled⟩

end Vm

end Chip8
