/-!
# Base 64

Bytes written with sixty-four characters, four of them for three bytes. Reading passes over every character
that is no digit. A quartet that ends early is filled with padding, and nothing after the padding counts.
-/

namespace Chip8.Text.Base64

def sextet? (c : Char) : Option Nat :=
  if 'A' ≤ c ∧ c ≤ 'Z' then some (c.toNat - 'A'.toNat)
  else if 'a' ≤ c ∧ c ≤ 'z' then some (c.toNat - 'a'.toNat + 26)
  else if '0' ≤ c ∧ c ≤ '9' then some (c.toNat - '0'.toNat + 52)
  else if c = '+' then some 62
  else if c = '/' then some 63
  else none

/-- The digits up to the end of the text or to the padding that fills a quartet; `place` digits of the quartet
and `pads` of its padding were read. Without padding the last quartet must be full. -/
def sextets? (place pads : Nat) : List Char → Option (List Nat)
  | [] => if place = 0 then some [] else none
  | c :: rest =>
    if c = '=' then
      if place < 2 then sextets? place pads rest
      else if 4 ≤ place + (pads + 1) then some []
      else sextets? place (pads + 1) rest
    else
      match sextet? c with
      | none => sextets? place pads rest
      | some v => (sextets? ((place + 1) % 4) 0 rest).map (v :: ·)

/-- The bytes that digits make; bits that fill no byte are dropped. -/
def bytes : List Nat → List UInt8
  | a :: b :: c :: d :: rest =>
    .ofNat (a * 4 + b / 16) :: .ofNat (b % 16 * 16 + c / 4) :: .ofNat (c % 4 * 64 + d) :: bytes rest
  | [a, b, c] => [.ofNat (a * 4 + b / 16), .ofNat (b % 16 * 16 + c / 4)]
  | [a, b] => [.ofNat (a * 4 + b / 16)]
  | _ => []

def decode? (s : List Char) : Option (List UInt8) := (sextets? 0 0 s).map bytes

example : decode? "TWFu".toList = some [77, 97, 110] ∧ decode? "TW==Fu".toList = some [77]
    ∧ decode? "TWF".toList = none := by decide +kernel

end Chip8.Text.Base64
