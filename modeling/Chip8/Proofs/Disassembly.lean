import Chip8.Disassembly
import Chip8.Proofs.Operation
import Chip8.Proofs.Vm.ReadLog

/-!
# Disassembly and execution

A disassembly looks at the memory on its own, past the record and past the machine. It lists every second address of
its range, as long as the word there ends inside the memory, and each line shows what a machine that stands there
would fetch: the same two bytes, the same operation, or a data word exactly if the machine would find no instruction.

Main statement: `disassemble_agrees`.
-/

namespace Chip8

open Numeral

namespace Instruction

/-- The first two letters of the verb tell an instruction from a data word. -/
theorem mnemonic_letters (i : Instruction) :
    2 ≤ i.mnemonic.toList.length ∧ i.mnemonic.toList.take 2 ≠ ['D', 'W'] := by
  cases i <;> simp [mnemonic]

theorem text_ne_data (i : Instruction) (s : String) : i.text ≠ "DW" ++ s := by
  obtain ⟨hlength, hletters⟩ := i.mnemonic_letters
  obtain ⟨rest, htext⟩ : ∃ rest, i.text = i.mnemonic ++ rest := by
    unfold text write
    split
    · exact ⟨"", by simp⟩
    · exact ⟨_, String.append_assoc⟩
  intro h
  apply hletters
  calc i.mnemonic.toList.take 2
    _ = (i.mnemonic ++ rest).toList.take 2 := by rw [String.toList_append, List.take_append_of_le_length hlength]
    _ = ("DW" ++ s).toList.take 2 := by rw [← htext, h]
    _ = ['D', 'W'] := by simp

end Instruction

theorem Word.ofInt_toNat (w : UInt16) : Word.ofInt w.toNat = w := by
  apply UInt16.toNat_inj.mp
  have h := Instruction.toNat_ofInt w.toNat
  have hlt := w.toNat_lt
  omega

namespace Operation

theorem decode_toNat (w : UInt16) : decode w.toNat = match Instruction.ofWord? w with
    | some i => .ok (ofInstruction w.toNat i)
    | none => .error (.illegalOpcode w.toNat) := by
  cases hi : Instruction.ofWord? w with
  | some i => rw [decode, Word.ofInt_toNat, hi]
  | none => rw [decode, Word.ofInt_toNat, hi]

end Operation

namespace Memory

variable {m : Memory} {a : Nat}

theorem peek_inside (h : a < m.cells.size) : m.peek a = .ok m.cells[a] := by
  simp [peek, cell?_inside h]

theorem peek_negative {address : Int} (h : address < 0) :
    m.peek address = .error (.addressOutOfRange address m.size) := by
  have hcell : m.cell? address = none := cell?_eq_none_iff.mpr (by omega)
  rw [peek, hcell]

end Memory

namespace Vm

variable {m : Vm} {w : UInt16} {i : Instruction}

theorem faultOf_illegal_iff (hw : m.word? = some w) :
    (∃ n, faultOf step m = some (.illegalOpcode n)) ↔ Instruction.ofWord? w = none := by
  cases hi : Instruction.ofWord? w with
  | none => simp [faultOf_error (step_illegal hw hi)]
  | some i =>
    refine iff_of_false ?_ (by simp)
    rintro ⟨n, hn⟩
    cases hf : m.refusal? i with
    | none => simp [faultOf_ok (step_completed hw hi hf)] at hn
    | some fault =>
      rw [faultOf_error (step_refused hw hi hf), Option.some_inj] at hn
      have hfault := ofInstruction_refusal? hf
      rw [hn] at hfault
      cases hfault

end Vm

namespace Disassembly

variable {m : Memory} {a n j : Nat} {start length : Int} {l : Line}

/-! ## The lines of a range -/

/-- The line shows the word at an address. -/
structure Line.Shows (l : Line) (m : Memory) (a : Nat) : Prop where
  address : l.address = a
  high : m.cells[a]? = some l.high
  low : m.cells[a + 1]? = some l.low

theorem line_shows (h : a + 1 < m.cells.size) : ∃ l, line m a = .ok l ∧ l.Shows m a := by
  have hhigh : m.peek a = .ok m.cells[a] := Memory.peek_inside (by omega)
  have hlow : m.peek ((a : Int) + 1) = .ok m.cells[a + 1] := Memory.peek_inside h
  refine ⟨⟨a, m.cells[a], m.cells[a + 1]⟩, ?_, rfl, Array.getElem?_eq_getElem _, Array.getElem?_eq_getElem h⟩
  simp only [line, hhigh, hlow]
  rfl

/-- As many lines as fit into the memory, two bytes apart. -/
theorem lines_show (h : ∀ j < n, a + 2 * j + 1 < m.cells.size) :
    ∃ ls, lines m a n = .ok ls ∧ ls.length = n ∧ ∀ j (hj : j < ls.length), (ls[j]).Shows m (a + 2 * j) := by
  induction n generalizing a with
  | zero => exact ⟨[], rfl, rfl, fun j hj => absurd hj (Nat.not_lt_zero j)⟩
  | succ n ih =>
    obtain ⟨l, hline, hl⟩ := line_shows (h 0 (Nat.zero_lt_succ n))
    obtain ⟨ls, hlines, hlength, hls⟩ := ih (a := a + 2) fun j hj => by
      have := h (j + 1) (Nat.succ_lt_succ hj)
      omega
    have hrest : lines m ((a : Int) + 2) n = .ok ls := hlines
    refine ⟨l :: ls, ?_, by rw [List.length_cons, hlength], ?_⟩
    · simp only [lines, hline, hrest]
      rfl
    · intro j hj
      cases j with
      | zero => exact hl
      | succ j =>
        have hshows := hls j (Nat.lt_of_succ_lt_succ hj)
        rwa [show a + 2 + 2 * j = a + 2 * (j + 1) by omega] at hshows

theorem lt_count_iff : j < count m start length ↔ start + 2 * j < limit m start length := by
  unfold count
  omega

/-! ## What a machine would fetch -/

variable {vm : Vm} {w : UInt16}

theorem Line.Shows.word? (h : l.Shows vm.memory vm.registers.pc.toNat) : vm.word? = some l.word := by
  obtain ⟨hin, hlow⟩ := Array.getElem?_eq_some_iff.mp h.low
  obtain ⟨_, hhigh⟩ := Array.getElem?_eq_some_iff.mp h.high
  rw [Vm.word?, dif_pos hin, hhigh, hlow]
  rfl

theorem Line.Shows.fetchRecords (h : l.Shows vm.memory vm.registers.pc.toNat) : vm.fetchRecords =
    [{ kind := .read, address := vm.registers.pc.toNat, data := l.high },
      { kind := .read, address := vm.registers.pc.toNat + 1, data := l.low }] := by
  obtain ⟨hin, hlow⟩ := Array.getElem?_eq_some_iff.mp h.low
  obtain ⟨_, hhigh⟩ := Array.getElem?_eq_some_iff.mp h.high
  rw [Vm.fetchRecords_eq hin, hhigh, hlow]

theorem Line.Shows.upcoming? (h : l.Shows vm.memory vm.registers.pc.toNat) :
    vm.upcoming? = (Operation.decode l.word.toNat).toOption := by
  obtain ⟨hin, hlow⟩ := Array.getElem?_eq_some_iff.mp h.low
  obtain ⟨_, hhigh⟩ := Array.getElem?_eq_some_iff.mp h.high
  have hpeek : vm.memory.peek vm.registers.pc.toNat = .ok l.high := by
    rw [Memory.peek_inside (by omega), hhigh]
  have hpeek' : vm.memory.peek ((vm.registers.pc.toNat : Int) + 1) = .ok l.low :=
    (Memory.peek_inside hin).trans (by rw [hlow])
  simp only [Vm.upcoming?, hpeek, hpeek']
  rfl

theorem Line.text_eq (l : Line) : l.text = match Instruction.ofWord? l.word with
    | some i => i.text
    | none => "DW #" ++ hex 4 l.word.toNat := by
  rw [Line.text, Operation.decode_toNat]
  cases Instruction.ofWord? l.word <;> rfl

/-- A line tells what the next cycle of a machine does with its word. -/
structure Line.Agrees (l : Line) (vm : Vm) : Prop where
  /-- It is a data word exactly if the cycle finds no instruction there. -/
  data : l.text = "DW #" ++ hex 4 l.word.toNat ↔ ∃ n, Vm.faultOf Vm.step vm = some (.illegalOpcode n)
  /-- Else it is the operation that the cycle finds: the snapshot is of it, or executing it is what is refused. -/
  operation : l.text ≠ "DW #" ++ hex 4 l.word.toNat → ∃ op, op.text = l.text ∧ vm.upcoming? = some op
    ∧ match Vm.step vm with
      | .ok s _ => s.operation = op
      | .error fault vm' => Vm.perform op vm.fetched = .error fault vm'
  /-- Its bytes are those that the cycle reads first. -/
  bytes : ∃ high low, vm.recorded.take 2 = [{ kind := .read, address := vm.registers.pc.toNat, data := high },
      { kind := .read, address := vm.registers.pc.toNat + 1, data := low }]
    ∧ l.bytes = hex 2 high.toNat ++ " " ++ hex 2 low.toNat ∧ l.word = Word.ofBytes high low

theorem Line.Shows.operation (h : l.Shows vm.memory vm.registers.pc.toNat) {i : Instruction}
    (hi : Instruction.ofWord? l.word = some i) :
    vm.upcoming? = some (.ofInstruction l.word.toNat i) ∧ match Vm.step vm with
      | .ok s _ => s.operation = .ofInstruction l.word.toNat i
      | .error fault vm' => Vm.perform (.ofInstruction l.word.toNat i) vm.fetched = .error fault vm' := by
  have hdecode := Operation.decode_toNat l.word
  rw [hi] at hdecode
  refine ⟨by rw [h.upcoming?, hdecode]; rfl, ?_⟩
  cases hf : vm.refusal? i with
  | none => rw [Vm.step_completed h.word? hi hf]; rfl
  | some fault =>
    have hword : Word.ofInt l.word.toNat = l.word := Word.ofInt_toNat l.word
    have hpattern : Instruction.ofPattern? i.pattern (Word.ofInt l.word.toNat) = some i :=
      Instruction.ofPattern?_pattern (by rw [hword]; exact hi)
    rw [Vm.step_refused h.word? hi hf]
    exact (Operation.perform_ofInstruction (Operation.instruction_ofInstruction hpattern) vm.fetched).trans
      (Vm.execute_refused ((Vm.refusal?_fetched vm i).trans hf))

theorem Line.Shows.agrees (h : l.Shows vm.memory vm.registers.pc.toNat) : l.Agrees vm := by
  have htext := l.text_eq
  have hdata : l.text = "DW #" ++ hex 4 l.word.toNat ↔ Instruction.ofWord? l.word = none := by
    cases hi : Instruction.ofWord? l.word with
    | none => simpa [hi] using htext
    | some i =>
      rw [htext, hi]
      have hne : i.text ≠ "DW" ++ (" #" ++ hex 4 l.word.toNat) := i.text_ne_data _
      rw [← String.append_assoc] at hne
      exact iff_of_false hne (by simp)
  refine ⟨hdata.trans (Vm.faultOf_illegal_iff h.word?).symm, fun hne => ?_, ?_⟩
  · obtain ⟨i, hi⟩ := Option.ne_none_iff_exists'.mp fun hnone => hne (hdata.mpr hnone)
    rw [hi] at htext
    have hop : (Operation.ofInstruction l.word.toNat i).text = l.text := htext.symm
    exact ⟨_, hop, h.operation hi⟩
  · obtain ⟨rest, hrest⟩ := vm.fetchRecords_prefix
    rw [← hrest, h.fetchRecords]
    exact ⟨l.high, l.low, rfl, rfl, rfl⟩

end Disassembly

open Disassembly

/-- From an address that is not negative, a disassembly has one line for each second address of its range at which a
word lies in the memory, in order, and each line agrees with every machine that stands at it over this memory. From a
negative address it is refused at once, unless its range is empty. Looking at the memory gives no new one, so neither
its bytes nor its record change. -/
theorem disassemble_agrees (m : Memory) (start length : Int) :
    (0 ≤ start → ∃ ls, disassemble m start length = .ok ls
      ∧ (∀ j : Nat, (ls[j]?).map Line.address
        = if start + 2 * j < min (start + length) (m.size - 1) then some (start + 2 * j) else none)
      ∧ ∀ l ∈ ls, ∀ vm : Vm, vm.memory.cells = m.cells → (vm.registers.pc.toNat : Int) = l.address → l.Agrees vm)
    ∧ (start < 0 → disassemble m start length
      = if start < min (start + length) (m.size - 1) then .error (.addressOutOfRange start m.size) else .ok []) := by
  constructor
  · intro hstart
    obtain ⟨a, rfl⟩ := Int.eq_ofNat_of_zero_le hstart
    -- every line of the range lies in the memory, so none is refused
    obtain ⟨ls, hlines, hlength, hls⟩ := lines_show (m := m) (a := a) (n := count m a length) fun j hj => by
      have hlimit := lt_count_iff.mp hj
      unfold limit Memory.size at hlimit
      omega
    refine ⟨ls, hlines, fun j => ?_, fun l hl vm hcells hpc => ?_⟩
    · have hcount : j < ls.length ↔ (a : Int) + 2 * j < limit m a length := by rw [hlength, lt_count_iff]
      by_cases hj : j < ls.length
      · rw [List.getElem?_eq_getElem hj, Option.map_some, (hls j hj).address]
        exact (if_pos (hcount.mp hj)).symm
      · rw [List.getElem?_eq_none (Nat.le_of_not_lt hj)]
        exact (if_neg (mt hcount.mpr hj)).symm
    -- a machine with the same bytes reads the word that the line shows
    · obtain ⟨j, hj, rfl⟩ := List.getElem_of_mem hl
      obtain ⟨haddress, hhigh, hlow⟩ := hls j hj
      have hat : vm.registers.pc.toNat = a + 2 * j := by omega
      apply Line.Shows.agrees
      rw [hat]
      exact ⟨haddress, by rw [hcells]; exact hhigh, by rw [hcells]; exact hlow⟩
  · intro hstart
    -- if the range has a line at all, its first one is refused
    have hcount : 0 < count m start length ↔ start + 2 * (0 : Nat) < limit m start length := lt_count_iff
    rw [Int.natCast_zero, Int.mul_zero, Int.add_zero] at hcount
    show _ = if start < limit m start length then _ else _
    cases hn : count m start length with
    | zero =>
      rw [if_neg fun h => absurd (hcount.mpr h) (by omega), disassemble, hn]
      rfl
    | succ n =>
      rw [if_pos (hcount.mp (by omega)), disassemble, hn, lines, line, Memory.peek_negative hstart]
      rfl

/-- An instruction and a data word, both at odd addresses, and a last byte that is no word. -/
def oddWords : Memory := { cells := #[0x12, 0x60, 0x05, 0xFF, 0xFF, 0xE0] }

theorem disassemble_agrees_oddWords : ∃ l₁ l₂ : Line, disassemble oddWords 1 9 = .ok [l₁, l₂]
    ∧ l₁.text = "LD V0, #05" ∧ l₂.text = "DW #FFFF" ∧ disassemble oddWords (-1) 9 = .error (.addressOutOfRange (-1) 6)
    ∧ ∀ vm : Vm, vm.memory.cells = oddWords.cells → vm.registers.pc = 3 → l₂.Agrees vm := by
  have hlines : disassemble oddWords 1 9 = .ok [⟨1, 0x60, 0x05⟩, ⟨3, 0xFF, 0xFF⟩] := rfl
  obtain ⟨ls, hls, -, hagree⟩ := (disassemble_agrees oddWords 1 9).1 (by decide)
  have hnegative := (disassemble_agrees oddWords (-1) 9).2 (by decide)
  rw [hlines] at hls
  cases hls
  refine ⟨_, _, hlines, by decide +kernel, by decide +kernel, hnegative, fun vm hcells hpc => ?_⟩
  exact hagree _ (by simp) vm hcells (by rw [hpc]; rfl)

end Chip8
