import Chip8.Numeral.Radix
import Chip8.Text.Blank
import Chip8.Text.DecimalDigit

/-!
# Reading integers

The written form of an integer: blanks around it, a sign, in base two, eight or sixteen the lead of the base
(`0b`, `0o`, `0x`), and digits of any script, between any two of which one underscore may stand (also after a
lead). Decimal numerals are read up to a fixed number of digits.
-/

namespace Chip8.Numeral

open Text

/-- The longest piece of a bad numeral that a fault shows. -/
def shownLimit : Nat := 200

/-- The value of a digit in a base: a letter counts from ten. -/
def digitValue? (base : Nat) (c : Char) : Option Nat :=
  let value :=
    if 'a' ≤ c ∧ c ≤ 'z' then some (c.toNat - 'a'.toNat + 10)
    else if 'A' ≤ c ∧ c ≤ 'Z' then some (c.toNat - 'A'.toNat + 10)
    else decimalValue? c
  value.filter (· < base)

/-- A row of digits, most significant first, with at most one underscore between two of them. -/
def digitRow? (base : Nat) : List Char → Option (List Nat)
  | [] => none
  | [c] => (digitValue? base c).map ([·])
  | c :: '_' :: rest => do
    let d ← digitValue? base c
    let ds ← digitRow? base rest
    return d :: ds
  | c :: rest => do
    let d ← digitValue? base c
    let ds ← digitRow? base rest
    return d :: ds

/-- The number that a row of digits, most significant first, stands for. -/
def ofRow (base : Nat) (row : List Nat) : Nat := row.foldl (fun n d => n * base + d) 0

def leadLetter? : (base : Nat) → Option Char
  | 2 => some 'b'
  | 8 => some 'o'
  | 16 => some 'x'
  | _ => none

/-- Takes the lead of the base, with one underscore after it, off a numeral that has it. -/
def dropLead (base : Nat) : List Char → List Char
  | zero :: letter :: rest =>
    if decimalValue? zero = some 0 ∧ leadLetter? base = some letter.toLower then
      match rest with
      | '_' :: rest => rest
      | rest => rest
    else zero :: letter :: rest
  | s => s

/-- The natural number that a numeral without sign stands for. -/
def readNat? (base : Nat) (s : List Char) : Option Nat := do
  let row ← digitRow? base (dropLead base s)
  if base = 10 ∧ maxDecimalDigits < row.length then none else return ofRow base row

/-- Whether a numeral has a minus sign, and the numeral without its sign. -/
def takeSign : List Char → Bool × List Char
  | '-' :: rest => (true, rest)
  | '+' :: rest => (false, rest)
  | s => (false, s)

/-- The integer that a text stands for. -/
def readInt? (base : Nat) (s : List Char) : Option Int :=
  let (negative, s) := takeSign (trim s)
  (readNat? base s).map fun (n : Nat) => if negative then -(n : Int) else n

example : readInt? 10 " -1_000 ".toList = some (-1000) ∧ readInt? 16 "0x_1f".toList = some 31
    ∧ readInt? 8 "0o17".toList = some 15 ∧ readInt? 10 "1__0".toList = none ∧ readInt? 10 "٣".toList = some 3 := by
  decide +kernel

end Chip8.Numeral
