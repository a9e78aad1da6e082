import Chip8.Proofs.Memory.History
import Chip8.Proofs.Vm.BlockTransfer
import Chip8.Proofs.Vm.Reachable
import Chip8.Proofs.Vm.ReadLog

/-!
# Glyphs of the font

A font stands at the bottom of the memory, five bytes for each digit. Acts that write nothing below an address leave
what stands there, so as long as nothing is written into the font, pointing to a glyph and drawing five rows from there
reads the five bytes of the digit, one after the other, and nothing else.

Main statements: `act_below` (one act), `acts_below` (a run), `glyph_read`.
-/

namespace Chip8

open Memory

namespace Vm

variable {m : Vm} {list : List Act} {limit k : Nat} {font : List UInt8}

/-! ## Writing from an address on -/

/-- The act writes nothing below an address: a cycle by its record, an image or a byte by where it goes. -/
def WritesFrom (limit : Nat) (m : Vm) : Act → Prop
  | .step => ∀ r ∈ m.recorded, r.isWrite → limit ≤ r.address
  | .load offset _ => limit ≤ offset
  | .write address _ => limit ≤ address
  | .tick | .reset | .setKey .. | .releaseKeys => True

/-- None of the acts, one after the other, writes below an address. -/
def AllWriteFrom (limit : Nat) : (m : Vm) → (list : List Act) → Prop
  | _, [] => True
  | m, a :: list => WritesFrom limit m a ∧ AllWriteFrom limit (m.act a) list

theorem step_cells (m : Vm) : (after step m).memory.cells = redoAll m.recorded m.memory.cells := by
  have hcycle := step_cycle m
  generalize hrun : step m = result at hcycle
  cases hcycle with
  | unfetched hw =>
    rw [after_error hrun, recorded_unfetched hw, fetchRecords, redoAll_readRecords, looked_eq]
  | illegal hw hi =>
    rw [after_error hrun, recorded_illegal hw hi, fetchRecords, redoAll_readRecords, fetched_eq]
  | refused hw hi hf =>
    rw [after_error hrun, recorded_refused hw hi hf, redoAll_records, halfway, accessed_fetched]
  | completed hw hi hf =>
    rw [after_ok hrun, recorded_completed hw hi hf, redoAll_records, completed, cleared, executed_memory]

theorem getD_toOption_below {memory : Memory} {x : Except Fault Memory}
    (h : ∀ memory', x = .ok memory' → memory'.cells[k]? = memory.cells[k]?) :
    (x.toOption.getD memory).cells[k]? = memory.cells[k]? := by
  cases x with
  | ok memory' => exact h memory' rfl
  | error fault => rfl

theorem load_below {memory memory' : Memory} {offset : Int} {data : List UInt8}
    (h : memory.load offset data = .ok memory') (hk : k < offset) : memory'.cells[k]? = memory.cells[k]? := by
  unfold load at h
  split at h
  · cases h
  · next hin =>
    cases h
    have hfits : offset.toNat + data.length ≤ memory.cells.size := by
      unfold Memory.size at hin
      omega
    rw [splice_getElem? k hfits, if_neg (by omega)]

theorem write_below {memory memory' : Memory} {address value : Int} (h : memory.write address value = .ok memory')
    (hk : k < address) : memory'.cells[k]? = memory.cells[k]? := by
  unfold Memory.write at h
  split at h
  · next i data hcell hbyte =>
    unfold Memory.store at h
    rw [hcell] at h
    cases h
    unfold cell? at hcell
    split at hcell
    · next hin =>
      cases hcell
      have hcell : address.toNat < memory.cells.size := by omega
      have hother : address.toNat ≠ k := by omega
      exact Array.getElem?_set_ne hcell hother
    · cases hcell
  · cases h
  · cases h

/-- What stands below the address stays in one act. -/
theorem act_below {a : Act} (h : WritesFrom limit m a) (hk : k < limit) :
    (m.act a).memory.cells[k]? = m.memory.cells[k]? := by
  cases a with
  | step =>
    show (after step m).memory.cells[k]? = _
    rw [step_cells]
    refine redoAll_untouched fun r hr hwrite => ?_
    have hfrom := h r hr hwrite
    omega
  | load offset data =>
    have hoffset : (limit : Int) ≤ offset := h
    exact getD_toOption_below fun _ hload => load_below hload (by omega)
  | write address value =>
    have haddress : (limit : Int) ≤ address := h
    exact getD_toOption_below fun _ hwrite => write_below hwrite (by omega)
  | tick | reset | setKey _ _ | releaseKeys => rfl

/-- What stands below the address stays in a run. -/
theorem acts_below (h : AllWriteFrom limit m list) (hk : k < limit) :
    (m.acts list).memory.cells[k]? = m.memory.cells[k]? := by
  induction list generalizing m with
  | nil => rfl
  | cons a list ih =>
    obtain ⟨ha, hlist⟩ := h
    exact (ih hlist).trans (act_below ha hk)

/-! ## Reading a glyph -/

/-- The font stands at the bottom of the memory. -/
def HoldsFont (m : Vm) (font : List UInt8) : Prop := block m.memory.cells 0 font.length = font

theorem HoldsFont.acts (h : HoldsFont m font) (hlist : AllWriteFrom font.length m list) :
    HoldsFont (m.acts list) font := by
  have hsame : block (m.acts list).memory.cells 0 font.length = block m.memory.cells 0 font.length := by
    apply block_congr
    intro k hk
    rw [Nat.zero_add]
    exact acts_below hlist hk
  exact hsame.trans h

/-- The instruction that the next cycle executes. -/
def next? (m : Vm) : Option Instruction := m.word?.bind Instruction.ofWord?

theorem step_next {i : Instruction} (h : m.next? = some i) (hf : m.refusal? i = none) :
    ∃ w, m.word? = some w ∧ step m = .ok (m.snapshot w i) (m.completed i) := by
  obtain ⟨w, hw, hi⟩ := Option.bind_eq_some_iff.mp h
  exact ⟨w, hw, step_completed hw hi hf⟩

theorem completed_cells {i : Instruction} (h : i.stores m.registers = []) :
    (m.completed i).memory.cells = m.memory.cells := by
  show (m.executed i).memory.cells = _
  rw [executed_memory, h]
  exact overlay_nil

/-- A cycle that completes an instruction without stores writes nothing anywhere. -/
theorem act_storeless {i : Instruction} (hi : m.next? = some i) (hf : m.refusal? i = none)
    (h : i.stores m.registers = []) : m.act .step = m.completed i ∧ WritesFrom limit m .step := by
  obtain ⟨w, hw, hstep⟩ := step_next hi hf
  constructor
  · exact after_ok hstep
  · intro r hr hwrite
    have hread : m.recorded = m.fetchRecords
        ++ (readRecords m.registers.i.toNat (block m.memory.cells m.registers.i.toNat i.reads) ++ []) := by
      rw [recorded, hstep]
      show (m.snapshot w i).activity = _
      rw [snapshot_activity, accesses, h, writeRecords_nil]
    rw [hread, List.append_nil, List.mem_append] at hr
    have hnot : r.isWrite = false := hr.elim isWrite_readRecords isWrite_readRecords
    rw [hnot] at hwrite
    cases hwrite

theorem toNat_glyph (b : UInt8) : (glyphSize * (b % 16).toUInt16).toNat = 5 * (b.toNat % 16) := by
  have hdigit : b.toNat % 16 < 16 := Nat.mod_lt _ (by decide)
  rw [UInt16.toNat_mul, UInt8.toNat_toUInt16, UInt8.toNat_mod]
  show 5 * (b.toNat % 16) % 65536 = _
  omega

variable {x : Nibble}

/-- Drawing rows from inside the font is completed, and the cycle reads the word and those bytes of the font. -/
theorem draw_read {a b rows : Nibble} (hfont : HoldsFont m font) (hin : m.registers.i.toNat + rows ≤ font.length)
    (hi : m.next? = some (.draw a b rows)) : ∃ s m', step m = .ok s m'
      ∧ s.activity = m.fetchRecords
        ++ readRecords m.registers.i.toNat ((font.drop m.registers.i.toNat).take rows) := by
  have hroom : font.length ≤ m.memory.cells.size := by
    have hblock := congrArg List.length hfont
    rw [block_length] at hblock
    omega
  have hinside : m.registers.i.toNat + rows ≤ m.memory.size := Nat.le_trans hin hroom
  obtain ⟨w, -, hstep⟩ := step_next hi (missing?_inside hinside)
  have hrows : (font.drop m.registers.i.toNat).take rows = block m.memory.cells m.registers.i.toNat rows := by
    rw [← Nat.zero_add m.registers.i.toNat, ← block_block hin, hfont, Nat.zero_add]
  refine ⟨_, _, hstep, ?_⟩
  rw [snapshot_activity, hrows]
  show _ ++ (_ ++ writeRecords _ _ []) = _
  rw [writeRecords_nil, List.append_nil]
  rfl

/-- Pointing to the glyph of the digit in a register is completed. If then, after acts that leave the index register and
the font alone, five rows are drawn, that cycle is completed too, and after its fetch it reads the five bytes of the
digit and makes no other access. -/
def ReadsGlyph (font : List UInt8) (m : Vm) (x : Nibble) : Prop :=
  ∃ s m₁, step m = .ok s m₁ ∧ ∀ list a b, AllWriteFrom 80 m₁ list →
    (m₁.acts list).registers.i = m₁.registers.i → (m₁.acts list).next? = some (.draw a b 5) →
      ∃ s' m', step (m₁.acts list) = .ok s' m'
        ∧ s'.activity = (m₁.acts list).fetchRecords ++ readRecords (5 * ((m.registers.get x).toNat % 16))
          ((font.drop (5 * ((m.registers.get x).toNat % 16))).take 5)

theorem glyph_read (hfont : HoldsFont m font) (hlength : font.length = 80) (hi : m.next? = some (.pointToGlyph x)) :
    ReadsGlyph font m x := by
  obtain ⟨w, -, hstep⟩ := step_next hi rfl
  have hfont₁ : HoldsFont (m.completed (.pointToGlyph x)) font := by
    unfold HoldsFont
    rw [completed_cells rfl]
    exact hfont
  have hindex : (m.completed (.pointToGlyph x)).registers.i = glyphSize * (m.registers.get x % 16).toUInt16 := rfl
  refine ⟨_, _, hstep, ?_⟩
  intro list a b hlist hsame hdraw
  have hplace : ((m.completed (.pointToGlyph x)).acts list).registers.i.toNat
      = 5 * ((m.registers.get x).toNat % 16) := by
    rw [hsame, hindex, toNat_glyph]
  have hdigit : (m.registers.get x).toNat % 16 < 16 := Nat.mod_lt _ (by decide)
  have hread := draw_read (hfont₁.acts (hlength ▸ hlist)) (by rw [hplace, hlength]; show _ + 5 ≤ 80; omega) hdraw
  rw [hplace] at hread
  exact hread

end Vm

end Chip8
