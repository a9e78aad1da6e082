/-!
# Numerals in a base

Integers as text in a base from 2 to 16. A numeral is a sign, a lead such as `0x`, and digits; a format
may ask for a least width, which the sign and the lead count towards and zeros before the digits fill.

`digits` lists the digits of a natural number, least significant first, and `ofDigits` reads them back:
`ofDigits_digits` says that nothing is lost.
-/

namespace Chip8.Numeral

/-- The digits of `n` in `base`, least significant first; zero has none, and neither has a base below two. -/
def digits (base n : Nat) : List Nat :=
  if _ : base < 2 ∨ n = 0 then [] else n % base :: digits base (n / base)
termination_by n
decreasing_by exact Nat.div_lt_self (by omega) (by omega)

/-- The number that digits, least significant first, stand for. -/
def ofDigits (base : Nat) : List Nat → Nat
  | [] => 0
  | d :: rest => d + base * ofDigits base rest

theorem ofDigits_digits {base : Nat} (hb : 2 ≤ base) (n : Nat) : ofDigits base (digits base n) = n := by
  fun_induction digits base n with
  | case1 n h => simp [ofDigits]; omega
  | case2 n h ih => rw [ofDigits, ih]; exact Nat.mod_add_div n base

theorem lt_of_mem_digits {base : Nat} (hb : 2 ≤ base) {n d : Nat} (h : d ∈ digits base n) : d < base := by
  fun_induction digits base n with
  | case1 n => simp at h
  | case2 n _ ih =>
    rcases List.mem_cons.1 h with rfl | h
    · exact Nat.mod_lt n (by omega)
    · exact ih h

/-- The capital digit of a value below sixteen. -/
def digitChar (d : Nat) : Char :=
  if d < 10 then Char.ofNat (48 + d) else Char.ofNat (55 + d)

/-- The digits of `n` as characters, most significant first; zero is written `0`. -/
def natChars (base n : Nat) : List Char :=
  if n = 0 then ['0'] else ((digits base n).map digitChar).reverse

/-- How an integer is written: the base, capital or small digits, the lead between sign and digits, and the
least width of the whole numeral. -/
structure Format where
  base : Nat := 10
  capital : Bool := false
  lead : String := ""
  width : Nat := 0

/-- The numeral of an integer: sign, lead, zeros up to the width, digits. -/
def Format.write (f : Format) (n : Int) : String :=
  let sign := if n < 0 then "-" else ""
  let body := natChars f.base n.natAbs
  let body := if f.capital then body else body.map Char.toLower
  let head := sign ++ f.lead
  head ++ String.ofList (List.replicate (f.width - head.length - body.length) '0' ++ body)

/-- The greatest number of digits of decimal numerals that are read from documents or written into messages
about them. -/
def maxDecimalDigits : Nat := 4300

def decimal (n : Int) : String := ({} : Format).write n

/-- Capital hexadecimal digits filled with zeros to `width`. -/
def hex (width : Nat) (n : Int) : String := { base := 16, capital := true, width : Format }.write n

/-- Small hexadecimal digits after `0x`, filled with zeros to `width` in all. -/
def hex0x (width : Nat) (n : Int) : String := { base := 16, lead := "0x", width : Format }.write n

example : decimal (-12) = "-12" ∧ hex 4 0x1f = "001F" ∧ hex 4 (-1) = "-001" ∧ hex0x 6 (-1) = "-0x001" := by
  decide +kernel

end Chip8.Numeral
