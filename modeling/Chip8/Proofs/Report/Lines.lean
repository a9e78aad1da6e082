import Chip8.Proofs.Disassembly
import Chip8.Proofs.Instruction.Reading
import Chip8.Report

/-!
# The lines of a report

A report is one text, and its lines are its rows again: no numeral, no instruction and no heading has an end of line in
it. Only the history could bring in text from elsewhere, but each of its entries is of a completed cycle.

Main statement: `lines_report`.
-/

namespace Chip8

open Numeral

/-- A text without an end of line. -/
def IsLine (s : String) : Prop := '\n' ∉ s.toList

instance (s : String) : Decidable (IsLine s) := inferInstanceAs (Decidable (_ ∉ _))

variable {s : String} {parts : List String}

@[simp] theorem isLine_append {s t : String} : IsLine (s ++ t) ↔ IsLine s ∧ IsLine t := by
  simp only [IsLine, String.toList_append, List.mem_append, not_or]

@[simp] theorem isLine_ofList {cs : List Char} : IsLine (String.ofList cs) ↔ '\n' ∉ cs := by
  rw [IsLine, String.toList_ofList]

def lines (s : String) : List String := (s.toList.splitOn '\n').map String.ofList

theorem lines_intercalate (hne : parts ≠ []) (h : ∀ part ∈ parts, IsLine part) :
    lines ("\n".intercalate parts) = parts := by
  have hlist : ("\n".intercalate parts).toList = ['\n'].intercalate (parts.map String.toList) :=
    String.toList_intercalate ..
  rw [lines, hlist, List.splitOn_intercalate, List.map_map]
  · simp
  · intro part hpart
    obtain ⟨s, hs, rfl⟩ := List.mem_map.mp hpart
    exact h s hs
  · simpa using hne

theorem isLine_intercalate {sep : String} (hsep : IsLine sep) (h : ∀ part ∈ parts, IsLine part) :
    IsLine (sep.intercalate parts) := by
  induction parts with
  | nil => simp [IsLine]
  | cons part parts ih =>
    have hpart := h part List.mem_cons_self
    have hparts := ih fun s hs => h s (List.mem_cons_of_mem part hs)
    cases parts with
    | nil => simpa using hpart
    | cons part' parts =>
      rw [String.intercalate_cons_cons]
      exact isLine_append.mpr ⟨isLine_append.mpr ⟨hpart, hsep⟩, hparts⟩

/-! ## Numerals -/

theorem digitChar_ne_newline {d : Nat} (h : d < 16) : digitChar d ≠ '\n' ∧ (digitChar d).toLower ≠ '\n' := by
  have hall : ∀ d : Fin 16, digitChar d ≠ '\n' ∧ (digitChar d).toLower ≠ '\n' := by decide +kernel
  exact hall ⟨d, h⟩

theorem newline_not_mem_natChars {base : Nat} (hlow : 2 ≤ base) (hhigh : base ≤ 16) (n : Nat) :
    '\n' ∉ natChars base n ∧ '\n' ∉ (natChars base n).map Char.toLower := by
  obtain ⟨row, hrow, hspells⟩ := natChars_spells hlow n
  have hdigit : ∀ d ∈ row, digitChar d ≠ '\n' ∧ (digitChar d).toLower ≠ '\n' := fun d hd =>
    digitChar_ne_newline (Nat.lt_of_lt_of_le (hspells.digits d hd) hhigh)
  rw [hrow, List.map_map]
  constructor
  · intro h
    obtain ⟨d, hd, hc⟩ := List.mem_map.mp h
    exact (hdigit d hd).1 hc
  · intro h
    obtain ⟨d, hd, hc⟩ := List.mem_map.mp h
    exact (hdigit d hd).2 hc

theorem isLine_write {f : Format} (hlow : 2 ≤ f.base) (hhigh : f.base ≤ 16) (hlead : IsLine f.lead) (n : Int) :
    IsLine (f.write n) := by
  obtain ⟨hplain, hsmall⟩ := newline_not_mem_natChars hlow hhigh n.natAbs
  have hsign : IsLine (if n < 0 then "-" else "") := by split <;> decide
  have hbody : '\n' ∉ (if f.capital then natChars f.base n.natAbs
      else (natChars f.base n.natAbs).map Char.toLower) := by
    split
    · exact hplain
    · exact hsmall
  simp only [Format.write, isLine_append, isLine_ofList, List.mem_append, List.mem_replicate, not_or]
  exact ⟨⟨hsign, hlead⟩, by simp, hbody⟩

@[simp] theorem isLine_decimal (n : Int) : IsLine (decimal n) := isLine_write (by decide) (by decide) (by decide) n

@[simp] theorem isLine_hex (width : Nat) (n : Int) : IsLine (hex width n) :=
  isLine_write (show 2 ≤ 16 by decide) (show 16 ≤ 16 by decide) (show IsLine "" by decide) n

@[simp] theorem isLine_hex0x (width : Nat) (n : Int) : IsLine (hex0x width n) :=
  isLine_write (show 2 ≤ 16 by decide) (show 16 ≤ 16 by decide) (show IsLine "0x" by decide) n

/-! ## Instructions -/

namespace Instruction

theorem isLine_operand {o : Operand} (h : o.Known) : IsLine o.text := by
  cases o with
  | register x => exact isLine_append.mpr ⟨by decide, isLine_hex 1 x⟩
  | byte value => exact isLine_append.mpr ⟨by decide, isLine_hex 2 value.toNat⟩
  | address target => exact isLine_append.mpr ⟨by decide, isLine_hex 3 target⟩
  | rows count => exact isLine_decimal count
  | name s =>
    have hall : ∀ s ∈ Operand.names, IsLine s := by decide
    exact hall s h

@[simp] theorem isLine_text (i : Instruction) : IsLine i.text := by
  have hmnemonic : IsLine i.mnemonic := by cases i <;> simp [mnemonic, IsLine]
  have hoperands : ∀ s ∈ i.operands, IsLine s := by
    intro s hs
    rw [operands_eq] at hs
    obtain ⟨o, ho, rfl⟩ := List.mem_map.mp hs
    exact isLine_operand (i.parts_known o ho)
  unfold text write
  split
  · exact hmnemonic
  · exact isLine_append.mpr ⟨isLine_append.mpr ⟨hmnemonic, by decide⟩, isLine_intercalate (by decide) hoperands⟩

end Instruction

/-- What a completed cycle leaves behind is told in one line. -/
theorem Snapshot.isLine_symbol {s : Snapshot} {m m' : Vm} (h : Vm.step m = .ok s m') : IsLine s.symbol := by
  obtain ⟨w, i, -, -, -, rfl, -⟩ := Vm.step_ok h
  have htext : (m.snapshot w i).operation.text = i.text := rfl
  rw [symbol, htext]
  simp only [isLine_append, isLine_hex0x, Instruction.isLine_text, true_and, and_true]
  decide

namespace Report

variable {d : Debugger} {context : Int} {empty : String} {words : List String}

/-! ## Rows -/

theorem isLine_heading (h : IsLine s) : IsLine (heading s) :=
  isLine_append.mpr ⟨h, isLine_ofList.mpr fun hmem => absurd (List.eq_of_mem_replicate hmem) (by decide)⟩

theorem isLine_listed (hempty : IsLine empty) (h : ∀ word ∈ words, IsLine word) : IsLine (listed empty words) := by
  unfold listed
  split
  · exact hempty
  · exact isLine_intercalate (by decide) h

theorem isLine_groupRow {group : RegisterGroup} (hname : IsLine group.name)
    (hregisters : ∀ info ∈ group.registers, IsLine info.name) (r : Registers) : IsLine (groupRow r group) := by
  refine isLine_append.mpr ⟨isLine_heading hname, isLine_intercalate (by decide) ?_⟩
  intro word hword
  obtain ⟨info, hinfo, rfl⟩ := List.mem_map.mp hword
  simp only [cell, cellOf, isLine_append, isLine_hex, and_true]
  exact ⟨hregisters info hinfo, by decide⟩

theorem isLine_layout : ∀ group ∈ layout, IsLine group.name ∧ ∀ info ∈ group.registers, IsLine info.name := by
  decide +kernel

theorem isLine_stackRow (r : Registers) : IsLine (stackRow r) := by
  refine isLine_append.mpr ⟨isLine_heading (by decide), isLine_listed (by decide) ?_⟩
  simp

theorem isLine_keyRow (k : Keypad) : IsLine (keyRow k) := by
  refine isLine_append.mpr ⟨isLine_heading (by decide), isLine_listed (by decide) ?_⟩
  simp

theorem isLine_memoryRow (pc : UInt16) (line : Disassembly.Line) : IsLine (memoryRow pc line) := by
  have harrow : IsLine (if line.address = pc.toNat then "->" else "  ") := by split <;> decide
  have hbytes : IsLine line.bytes := by
    simp only [Disassembly.Line.bytes, isLine_append, isLine_hex, true_and, and_true]
    decide
  have htext : IsLine line.text := by
    rw [line.text_eq]
    split
    · exact Instruction.isLine_text _
    · exact isLine_append.mpr ⟨by decide, isLine_hex 4 _⟩
  simp only [memoryRow, isLine_append, isLine_hex, harrow, hbytes, htext, true_and, and_true]
  decide

theorem mem_recent {history : List Snapshot} {s : Snapshot} (h : s ∈ recent history context) : s ∈ history := by
  unfold recent at h
  split at h <;> exact List.mem_of_mem_drop h

/-- A row about the history is its heading, or tells one of its entries. -/
theorem mem_historyRows {history : List Snapshot} {row : String} (h : row ∈ historyRows history context) :
    row = "Recent:" ∨ ∃ s ∈ history, row = "   " ++ s.symbol := by
  unfold historyRows at h
  split at h
  · simp at h
  · rcases List.mem_cons.mp h with hhead | hrow
    · exact .inl hhead
    · obtain ⟨s, hs, htold⟩ := List.mem_map.mp hrow
      exact .inr ⟨s, mem_recent hs, htold.symm⟩

theorem isLine_historyRows {history : List Snapshot} (h : ∀ s ∈ history, IsLine s.symbol) :
    ∀ row ∈ historyRows history context, IsLine row := by
  intro row hrow
  obtain rfl | ⟨s, hs, rfl⟩ := mem_historyRows hrow
  · decide
  · exact isLine_append.mpr ⟨by decide, h s hs⟩

theorem isLine_title (cycles : Nat) : IsLine (title cycles) := by
  have hlead : IsLine "--- CHIP-8 state (cycle " := by decide +kernel
  exact isLine_append.mpr ⟨isLine_append.mpr ⟨hlead, isLine_decimal cycles⟩, by decide⟩

theorem isLine_row (h : ∀ s ∈ d.history.toList, IsLine s.symbol) : ∀ row ∈ rows d context, IsLine row := by
  simp only [rows, assemble, List.cons_append, List.forall_mem_cons, List.forall_mem_append, List.forall_mem_map]
  refine ⟨isLine_title _, ⟨⟨⟨fun group hgroup => ?_, isLine_stackRow _, isLine_keyRow _, by simp⟩, fun line _ =>
    isLine_memoryRow _ line⟩, isLine_historyRows h⟩⟩
  exact isLine_groupRow (isLine_layout group hgroup).1 (isLine_layout group hgroup).2 _

end Report

/-- The lines of a report are its rows, if its history is of completed cycles. -/
theorem Debugger.lines_report {d : Debugger} {context : Int}
    (h : ∀ s ∈ d.history.toList, ∃ m m', Vm.step m = .ok s m') : lines (d.report context) = Report.rows d context := by
  refine lines_intercalate (List.cons_ne_nil _ _) (Report.isLine_row fun s hs => ?_)
  obtain ⟨m, m', hstep⟩ := h s hs
  exact Snapshot.isLine_symbol hstep

end Chip8
