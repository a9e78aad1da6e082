import Chip8.Operation
import Chip8.Proofs.Instruction.Grammar
import Chip8.Proofs.Numeral.Grammar
import Chip8.Proofs.Vm.Execute
import Chip8.Vm.Cycle

/-!
# Decoding and executing agree

The record of a decoded word names a template and holds the word as a numeral. Executing a record goes by these two
alone, and finds the very instruction whose text the record shows: the numeral reads back as the integer that was
decoded, and the template takes the same fields out of it.

Main statement: `decode_exact`.
-/

namespace Chip8

open Instruction

namespace Vm

variable {m : Vm} {i : Instruction}

theorem eq_awaitKey_of_pattern (h : i.pattern = (Instruction.awaitKey 0).pattern) : ∃ x, i = .awaitKey x := by
  cases i with
  | awaitKey x => exact ⟨x, rfl⟩
  | _ => exact absurd h (by simp [pattern])

end Vm

namespace Operation

variable {n : Int} {i : Instruction}

theorem word_ofInstruction (n : Int) (i : Instruction) : (ofInstruction n i).word = .ok n := by
  rw [word, ofInstruction, Numeral.readInt?_hex]

theorem instruction_ofInstruction (h : ofPattern? i.pattern (Word.ofInt n) = some i) :
    (ofInstruction n i).instruction = .ok i := by
  unfold instruction
  split
  · next hclear =>
    rw [show i.pattern = "00E0" from hclear] at h
    cases h
    rfl
  · next hret =>
    rw [show i.pattern = "00EE" from hret] at h
    cases h
    rfl
  · rw [word_ofInstruction, show (ofInstruction n i).pattern = i.pattern from rfl]
    simp only [bind, Except.bind, h]
    rfl

/-- Executing a record executes its instruction, also while it waits for a key. -/
theorem perform_ofInstruction (h : (ofInstruction n i).instruction = .ok i) (m : Vm) :
    Vm.perform (ofInstruction n i) m = Vm.execute i m := by
  have hrun : Vm.perform (ofInstruction n i) m = _ := bind_get
  rw [h] at hrun
  rw [hrun]
  split
  · next hwaits =>
    simp only [Vm.waits, Bool.and_eq_true, decide_eq_true_eq, Option.isNone_iff_eq_none] at hwaits
    obtain ⟨x, rfl⟩ := Vm.eq_awaitKey_of_pattern hwaits.1
    rw [Vm.execute_awaitKey_none 0 hwaits.2, Vm.execute_awaitKey_none x hwaits.2]
  · rfl

/-- What the record of the word `n` shows and does. -/
structure Decoded (n : Int) (op : Operation) : Prop where
  /-- Its template is the one that the word matches. -/
  template : op.pattern ∈ templates ∧ Fits op.pattern n
  only : ∀ t ∈ templates, Fits t n → t = op.pattern
  /-- Its numeral reads as the word. -/
  word : op.word = .ok n
  /-- Executing it executes the instruction that it shows, with the fields of the word as operands. -/
  executes : ∃ i, ofPattern? op.pattern (Word.ofInt n) = some i ∧ op.mnemonic = i.mnemonic ∧ op.operands = i.operands
    ∧ op.instruction = .ok i ∧ Vm.perform op = Vm.execute i
  /-- Executing it never finds that the word is no instruction. -/
  legal : ∀ m k, Vm.faultOf (Vm.perform op) m ≠ some (.illegalOpcode k)

theorem decoded (h : ofWord? (Word.ofInt n) = some i) : Decoded n (ofInstruction n i) := by
  have hpattern := ofPattern?_pattern h
  have hperform := perform_ofInstruction (instruction_ofInstruction hpattern)
  exact {
    template := ⟨ofPattern?_isSome.mp (Option.isSome_iff_exists.mpr ⟨i, hpattern⟩), fits_of_ofWord? h⟩
    only := fun t ht hfits => fits_unique ht hfits h
    word := word_ofInstruction n i
    executes := ⟨i, hpattern, rfl, rfl, instruction_ofInstruction hpattern, funext hperform⟩
    legal := fun m k => by
      rw [Vm.faultOf, hperform m, ← Vm.faultOf, Vm.execute_fault]
      exact fun hf => Bool.noConfusion (Vm.ofInstruction_refusal? hf) }

theorem not_fits_of_ofWord?_none (h : ofWord? (Word.ofInt n) = none) : ∀ t ∈ templates, ¬Fits t n := by
  intro t ht hfits
  obtain ⟨i, hi⟩ := Option.isSome_iff_exists.mp (ofPattern?_isSome.mpr ht)
  rw [ofWord?_of_fits hi hfits] at h
  cases h

/-- What a record shows of a word, its numeral apart. -/
def form (op : Operation) : String × List String × String := (op.mnemonic, op.operands, op.pattern)

theorem ofInt_add_mul (n k : Int) : Word.ofInt (n + 65536 * k) = Word.ofInt n := by
  apply UInt16.toNat_inj.mp
  have h := toNat_ofInt n
  have h' := toNat_ofInt (n + 65536 * k)
  omega

/-- The templates are the names under which instructions are executed. An integer is decoded exactly if it matches one
of them, and its record is then as described; else it is refused by the fault that carries it. Apart from the numeral,
the record is the same for integers that are congruent modulo 2^16. -/
theorem decode_exact (n : Int) :
    (∀ t w, (ofPattern? t w).isSome ↔ t ∈ templates)
      ∧ ((∃ op, decode n = .ok op) ↔ ∃ t ∈ templates, Fits t n)
      ∧ (match decode n with
        | .ok op => Decoded n op
        | .error fault => fault = .illegalOpcode n)
      ∧ ∀ k, (decode (n + 65536 * k)).toOption.map form = (decode n).toOption.map form := by
  refine ⟨fun t w => ofPattern?_isSome, ?_, ?_, fun k => ?_⟩
  · unfold decode
    cases h : ofWord? (Word.ofInt n) with
    | some i =>
      have htemplate := (decoded h).template
      exact ⟨fun _ => ⟨_, htemplate.1, htemplate.2⟩, fun _ => ⟨_, rfl⟩⟩
    | none =>
      constructor
      · rintro ⟨op, hop⟩
        cases hop
      · rintro ⟨t, ht, hfits⟩
        exact absurd hfits (not_fits_of_ofWord?_none h t ht)
  · unfold decode
    cases h : ofWord? (Word.ofInt n) with
    | some i => exact decoded h
    | none => rfl
  · unfold decode
    -- a multiple of 2^16 does not change the word
    rw [ofInt_add_mul]
    cases ofWord? (Word.ofInt n) <;> rfl

end Operation

end Chip8
