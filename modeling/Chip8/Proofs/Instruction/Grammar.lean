import Chip8.Instruction
import Chip8.Numeral.Radix

/-!
# The grammar of words

A template is four characters, each of them a hexadecimal digit or a letter that stands for an operand. A word is an
instruction exactly if its four digits match one of the thirty-four templates. It never matches two of them, and the
instruction is the one that the template names, with the fields of the word as operands.

Main statements: `fits_of_ofWord?` and `ofWord?_of_fits`, the two directions, and `fits_unique`.
-/

namespace Chip8.Instruction

open Numeral

/-- The templates of all instructions. -/
def templates : List String :=
  [ "00E0", "00EE", "1NNN", "2NNN", "3XKK", "4XKK", "5XY0", "6XKK", "7XKK", "8XY0", "8XY1", "8XY2", "8XY3", "8XY4",
    "8XY5", "8XY6", "8XY7", "8XYE", "9XY0", "ANNN", "BNNN", "CXKK", "DXYN", "EX9E", "EXA1", "FX07", "FX0A", "FX15",
    "FX18", "FX1E", "FX29", "FX33", "FX55", "FX65" ]

/-- The templates whose last digit is not looked at. -/
def lenient : List String := ["5XY0", "9XY0"]

def operandLetters : List Char := ['X', 'Y', 'K', 'N']

/-- The hexadecimal digit of an integer at a place, counted from the right; a negative integer has the digits of its
two's complement. -/
def digitAt (n : Int) (place : Nat) : Nibble := ⟨(n / (Nat.pow 16 place : Nat) % 16).toNat, by omega⟩

/-- Whether a character of a template allows a digit: the letter of an operand allows all, a digit itself only. -/
def Allows (c : Char) (digit : Nibble) : Prop := c ∈ operandLetters ∨ c = digitChar digit

instance (c : Char) (digit : Nibble) : Decidable (Allows c digit) := inferInstanceAs (Decidable (_ ∨ _))

/-- Whether the last four digits of an integer match a template. -/
def Fits (t : String) (n : Int) : Prop :=
  match t.toList with
  | [a, b, c, d] =>
    Allows a (digitAt n 3) ∧ Allows b (digitAt n 2) ∧ Allows c (digitAt n 1) ∧ (t ∈ lenient ∨ Allows d (digitAt n 0))
  | _ => False

variable {t t' : String} {w : UInt16} {i : Instruction} {n : Int}

/-! ## The fields of a word as digits -/

theorem toNat_ofInt (n : Int) : ((Word.ofInt n).toNat : Int) = n % 65536 := by
  rw [Word.ofInt, UInt16.ofInt, UInt16.toNat_ofNat']
  omega

theorem digitAt_eq (n : Int) : digitAt n 3 = Word.family (Word.ofInt n) ∧ digitAt n 2 = Word.x (Word.ofInt n)
    ∧ digitAt n 1 = Word.y (Word.ofInt n) ∧ digitAt n 0 = Word.n (Word.ofInt n) := by
  have h := toNat_ofInt n
  simp only [digitAt, Nat.pow_eq, Word.family, Word.x, Word.y, Word.n, Fin.mk.injEq]
  omega

theorem kk_toNat (w : UInt16) : (Word.kk w).toNat = 16 * (Word.y w).val + (Word.n w).val := by
  simp only [Word.kk, Word.y, Word.n, UInt8.toNat_ofNat']
  omega

theorem nnn_val (w : UInt16) :
    (Word.nnn w).val = 256 * (Word.x w).val + 16 * (Word.y w).val + (Word.n w).val := by
  simp only [Word.nnn, Word.x, Word.y, Word.n]
  omega

/-! ## Templates -/

theorem allows_iff (d : Nibble) :
    (Allows '0' d ↔ d.val = 0) ∧ (Allows '1' d ↔ d.val = 1) ∧ (Allows '2' d ↔ d.val = 2) ∧ (Allows '3' d ↔ d.val = 3)
      ∧ (Allows '4' d ↔ d.val = 4) ∧ (Allows '5' d ↔ d.val = 5) ∧ (Allows '6' d ↔ d.val = 6)
      ∧ (Allows '7' d ↔ d.val = 7) ∧ (Allows '8' d ↔ d.val = 8) ∧ (Allows '9' d ↔ d.val = 9)
      ∧ (Allows 'A' d ↔ d.val = 10) ∧ (Allows 'B' d ↔ d.val = 11) ∧ (Allows 'C' d ↔ d.val = 12)
      ∧ (Allows 'D' d ↔ d.val = 13) ∧ (Allows 'E' d ↔ d.val = 14) ∧ (Allows 'F' d ↔ d.val = 15)
      ∧ Allows 'X' d ∧ Allows 'Y' d ∧ Allows 'K' d ∧ Allows 'N' d := by
  revert d
  decide +kernel

theorem ofPattern?_isSome : (ofPattern? t w).isSome ↔ t ∈ templates := by
  constructor
  · intro h
    unfold ofPattern? at h
    split at h
    all_goals first | decide | cases h
  · have hall : (templates.all fun t => (ofPattern? t w).isSome) = true := rfl
    exact List.all_eq_true.mp hall t

theorem pattern_of_ofPattern? (h : ofPattern? t w = some i) : i.pattern = t := by
  unfold ofPattern? at h
  split at h
  all_goals cases h
  all_goals rfl

/-! ## Words and templates -/

/-- A word that is an instruction matches its template. -/
theorem fits_of_ofWord? (h : ofWord? (Word.ofInt n) = some i) : Fits i.pattern n := by
  obtain ⟨h3, h2, h1, h0⟩ := digitAt_eq n
  have hkk := kk_toNat (Word.ofInt n)
  have hnnn := nnn_val (Word.ofInt n)
  -- one case for each family, and in four of them one for each value of the field that tells its members apart
  unfold ofWord? at h
  split at h
  all_goals try split at h
  all_goals cases h
  all_goals simp [Fits, pattern, lenient, h3, h2, h1, h0, allows_iff]
  all_goals omega

/-- A word that matches a template is the instruction of that template. -/
theorem ofWord?_of_fits (hi : ofPattern? t (Word.ofInt n) = some i) (h : Fits t n) :
    ofWord? (Word.ofInt n) = some i := by
  obtain ⟨h3, h2, h1, h0⟩ := digitAt_eq n
  obtain rfl := pattern_of_ofPattern? hi
  rw [← hi]
  cases i
  all_goals simp [Fits, pattern, lenient, h3, h2, h1, h0, allows_iff] at h
  all_goals simp only [ofWord?, kk_toNat, nnn_val, h]
  all_goals rfl

theorem ofPattern?_pattern (h : ofWord? (Word.ofInt n) = some i) : ofPattern? i.pattern (Word.ofInt n) = some i := by
  have hmem : i.pattern ∈ templates := by cases i <;> simp [pattern, templates]
  obtain ⟨j, hj⟩ := Option.isSome_iff_exists.mp (ofPattern?_isSome.mpr hmem)
  have heq := ofWord?_of_fits hj (fits_of_ofWord? h)
  rw [hj, ← heq, h]

/-- No word matches two templates. -/
theorem fits_unique (ht : t ∈ templates) (h : Fits t n) (hi : ofWord? (Word.ofInt n) = some i) : t = i.pattern := by
  obtain ⟨j, hj⟩ := Option.isSome_iff_exists.mp (ofPattern?_isSome.mpr ht)
  have heq := (ofWord?_of_fits hj h).symm.trans hi
  rw [← Option.some_inj.mp heq, pattern_of_ofPattern? hj]

end Chip8.Instruction
