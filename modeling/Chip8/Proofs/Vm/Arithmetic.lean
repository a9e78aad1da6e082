import Chip8.Proofs.Vm.Cycle

/-!
# Arithmetic

What the arithmetic instructions compute, in integers without bounds: a value for a register and, for five of them, a
condition for the flag, both from the registers as they were. The value goes to its register first, so that an
instruction whose register is the flag leaves the condition there. No value is ever refused as a byte.

Main statement: `arithmetic_exact`.
-/

namespace Chip8

open Registers

/-- What an instruction computes: an integer for a register and, of some instructions, a condition for the flag. -/
structure Computation where
  target : Nibble
  value : Int
  flag : Option Bool := none

/-- What an instruction computes from the registers before it, given the random byte that it may draw. -/
def Instruction.computation? (r : Registers) (drawn : UInt8) (i : Instruction) : Option Computation :=
  let v (x : Nibble) : Nat := (r.get x).toNat
  match i with
  | .increase x value => some { target := x, value := (v x + value.toNat) % 256 }
  | .copy x y => some { target := x, value := v y }
  | .bitOr x y => some { target := x, value := (v x ||| v y : Nat) }
  | .bitAnd x y => some { target := x, value := (v x &&& v y : Nat) }
  | .bitXor x y => some { target := x, value := (v x ^^^ v y : Nat) }
  | .add x y => some { target := x, value := (v x + v y) % 256, flag := some (255 < v x + v y) }
  | .sub x y => some { target := x, value := (v x - v y) % 256, flag := some (v y < v x) }
  | .shiftRight x _ => some { target := x, value := v x / 2, flag := some (v x % 2 = 1) }
  | .subFrom x y => some { target := x, value := (v y - v x) % 256, flag := some (v x < v y) }
  | .shiftLeft x _ => some { target := x, value := 2 * v x % 256, flag := some (128 ≤ v x) }
  | .random x mask => some { target := x, value := (drawn.toNat &&& mask.toNat : Nat) }
  | _ => none

namespace Computation

variable {c : Computation} {r : Registers} {byte : UInt8}

/-- The registers `r'` are `r` with the value in its register and then the condition in the flag, and nothing else is
different. -/
structure Settles (c : Computation) (r r' : Registers) : Prop where
  /-- The value passes the check of a register write, and only the flag is written after it. -/
  checked : ∃ written, r.write c.target c.value = .ok written ∧ r' = c.flag.elim written written.writeFlag
  target : c.flag = none ∨ c.target ≠ flagIndex → ((r'.get c.target).toNat : Int) = c.value
  flag : ∀ condition, c.flag = some condition → (r'.get flagIndex).toNat = if condition then 1 else 0
  kept : ∀ k, k ≠ c.target → c.flag = none ∨ k ≠ flagIndex → r'.get k = r.get k
  rest : r' = { r with v := r'.v }

/-- The registers with the value, as a byte, written first and the condition second. -/
def written (c : Computation) (r : Registers) (byte : UInt8) : Registers :=
  match c.flag with
  | none => r.set c.target byte
  | some condition => (r.set c.target byte).writeFlag condition

theorem write_byte (r : Registers) (x : Nibble) (byte : UInt8) :
    r.write (x.val : Nat) (byte.toNat : Nat) = .ok (r.set x byte) := by
  have hx : Nibble.ofInt? (x.val : Nat) = some x := dif_pos ⟨by omega, by omega⟩
  have hlt := byte.toNat_lt
  have hbyte : UInt8.ofInt (byte.toNat : Nat) = byte := by
    apply UInt8.toNat_inj.mp
    rw [UInt8.ofInt, UInt8.toNat_ofNat']
    omega
  simp only [write, hx]
  rw [if_pos (by omega), hbyte]

theorem settles_written (h : (byte.toNat : Int) = c.value) : c.Settles r (c.written r byte) := by
  obtain ⟨x, value, flag⟩ := c
  obtain rfl : (byte.toNat : Int) = value := h
  have hwrite := write_byte r x byte
  cases flag with
  | none => exact {
      checked := ⟨_, hwrite, rfl⟩
      target := fun _ => by
        show (((r.set x byte).get x).toNat : Int) = byte.toNat
        rw [get_set_self]
      flag := fun condition h => by cases h
      kept := fun k hk _ => get_set_ne hk.symm
      rest := rfl }
  -- the flag is written last, so the target keeps its value only if it is another register
  | some condition => exact {
      checked := ⟨_, hwrite, rfl⟩
      target := fun h => by
        have hx : flagIndex ≠ x := (h.resolve_left (Option.some_ne_none condition)).symm
        show ((((r.set x byte).set flagIndex _).get x).toNat : Int) = byte.toNat
        rw [get_set_ne hx, get_set_self]
      flag := fun condition' h => by
        cases h
        show (((r.set x byte).set flagIndex _).get flagIndex).toNat = _
        rw [get_set_self]
        cases condition <;> rfl
      kept := fun k hk hflag => by
        have hk' : flagIndex ≠ k := (hflag.resolve_left (Option.some_ne_none condition)).symm
        show ((r.set x byte).set flagIndex _).get k = r.get k
        rw [get_set_ne hk', get_set_ne hk.symm]
      rest := rfl }

end Computation

namespace Vm

variable {m m' : Vm} {i : Instruction} {c : Computation}

theorem toNat_sub_emod (a b : UInt8) : ((a - b).toNat : Int) = ((a.toNat : Int) - b.toNat) % 256 := by
  have ha := a.toNat_lt
  have hb := b.toNat_lt
  rw [UInt8.toNat_sub]
  omega

theorem toNat_double (a : UInt8) : ((a + a).toNat : Int) = 2 * (a.toNat : Int) % 256 := by
  rw [UInt8.toNat_add]
  omega

/-- The last bit of a byte, read off the byte or the number. -/
theorem decide_odd (a : UInt8) : decide (a % 2 = 1) = decide (a.toNat % 2 = 1) := by
  rw [decide_eq_decide, ← UInt8.toNat_inj, UInt8.toNat_mod]
  rfl

theorem execute_computation (h : i.computation? m.registers m.random.next.1 = some c) :
    ∃ byte random, (byte.toNat : Int) = c.value
      ∧ execute i m = .ok () { m with registers := c.written m.registers byte, random } := by
  -- each instruction computes in bytes what the computation says in integers
  cases i with
  | increase x value =>
    cases h
    exact ⟨m.registers.get x + value, m.random, by rw [UInt8.toNat_add]; rfl, rfl⟩
  | copy x y =>
    cases h
    exact ⟨m.registers.get y, m.random, rfl, rfl⟩
  | bitOr x y =>
    cases h
    exact ⟨m.registers.get x ||| m.registers.get y, m.random, by rw [UInt8.toNat_or], rfl⟩
  | bitAnd x y =>
    cases h
    exact ⟨m.registers.get x &&& m.registers.get y, m.random, by rw [UInt8.toNat_and], rfl⟩
  | bitXor x y =>
    cases h
    exact ⟨m.registers.get x ^^^ m.registers.get y, m.random, by rw [UInt8.toNat_xor], rfl⟩
  | add x y =>
    cases h
    exact ⟨m.registers.get x + m.registers.get y, m.random, by rw [UInt8.toNat_add]; rfl, rfl⟩
  | sub x y =>
    cases h
    exact ⟨m.registers.get x - m.registers.get y, m.random, toNat_sub_emod _ _, rfl⟩
  | shiftRight x y =>
    cases h
    have hrun : execute (.shiftRight x y) m = result x (m.registers.get x / 2) (m.registers.get x % 2 = 1) m := rfl
    rw [decide_odd] at hrun
    exact ⟨m.registers.get x / 2, m.random, by rw [UInt8.toNat_div]; rfl, hrun⟩
  | subFrom x y =>
    cases h
    exact ⟨m.registers.get y - m.registers.get x, m.random, toNat_sub_emod _ _, rfl⟩
  | shiftLeft x y =>
    cases h
    exact ⟨m.registers.get x + m.registers.get x, m.random, toNat_double _, rfl⟩
  | random x mask =>
    cases h
    exact ⟨m.random.next.1 &&& mask, m.random.next.2, by rw [UInt8.toNat_and], rfl⟩
  | _ => cases h

/-! ## On its own and in a cycle -/

variable {law law' : Registers → Registers → Prop}

/-- The instruction is completed, on its own and in the cycle that fetches it, and what it does to the registers, in the
cycle to those that stand at the next instruction, obeys a law. -/
def Completes (m : Vm) (i : Instruction) (law : Registers → Registers → Prop) : Prop :=
  (∃ m', execute i m = .ok () m' ∧ law m.registers m'.registers)
    ∧ ∀ w, m.word? = some w → Instruction.ofWord? w = some i →
      ∃ s m', step m = .ok s m' ∧ law m.registers.advance m'.registers

theorem Completes.of_execute (h : ∃ m', execute i m = .ok () m' ∧ law m.registers m'.registers)
    (h' : ∃ m', execute i m.fetched = .ok () m' ∧ law m.fetched.registers m'.registers) : m.Completes i law := by
  refine ⟨h, ?_⟩
  intro w hw hi
  obtain ⟨m', hrun, hlaw⟩ := h'
  have hf : m.refusal? i = none := by rw [← refusal?_fetched, ← execute_fault, faultOf_ok hrun]
  refine ⟨_, _, step_completed hw hi hf, ?_⟩
  have hafter : (m.completed i).registers = m'.registers := by
    rw [← after_ok hrun]
    rfl
  rw [hafter]
  exact hlaw

theorem Completes.mono (h : m.Completes i law) (himp : ∀ r r', r.v = m.registers.v → law r r' → law' r r') :
    m.Completes i law' := by
  obtain ⟨⟨m', hrun, hlaw⟩, hcycle⟩ := h
  refine ⟨⟨m', hrun, himp _ _ rfl hlaw⟩, ?_⟩
  intro w hw hi
  obtain ⟨s, m', hstep, hlaw⟩ := hcycle w hw hi
  exact ⟨s, m', hstep, himp _ _ rfl hlaw⟩

theorem computation?_advance (r : Registers) (drawn : UInt8) (i : Instruction) :
    i.computation? r.advance drawn = i.computation? r drawn := by
  cases i <;> rfl

theorem completes_computation (h : i.computation? m.registers m.random.next.1 = some c) :
    m.Completes i c.Settles := by
  have hsettles : ∀ m : Vm, i.computation? m.registers m.random.next.1 = some c →
      ∃ m', execute i m = .ok () m' ∧ c.Settles m.registers m'.registers := by
    intro m h
    obtain ⟨byte, random, hbyte, hrun⟩ := execute_computation h
    exact ⟨_, hrun, Computation.settles_written hbyte⟩
  exact .of_execute (hsettles m h) (hsettles m.fetched ((computation?_advance _ _ _).trans h))

theorem completes_addIndex (m : Vm) (x : Nibble) : m.Completes (.addIndex x) fun r r' =>
    r' = { r with i := r'.i } ∧ r'.i.toNat = (r.i.toNat + (r.get x).toNat) % 65536 := by
  have hsum : ∀ r : Registers, (r.i + (r.get x).toUInt16).toNat = (r.i.toNat + (r.get x).toNat) % 65536 := by
    intro r
    rw [UInt16.toNat_add, UInt8.toNat_toUInt16]
  exact .of_execute ⟨_, rfl, rfl, hsum _⟩ ⟨_, rfl, rfl, hsum _⟩

/-- Each arithmetic instruction is completed, leaves the value that it computes in its register and then its condition
in the flag, and changes no other register; the value is always a byte. The one that adds to the index register wraps
around at 2^16 and leaves the flag alone. And flag and register of an addition make up the sum, unless they are one.
-/
theorem arithmetic_exact (m : Vm) (i : Instruction) :
    (∀ c, i.computation? m.registers m.random.next.1 = some c → m.Completes i c.Settles)
      ∧ (∀ x, i = .addIndex x → m.Completes i fun r r' =>
        r' = { r with i := r'.i } ∧ r'.i.toNat = (r.i.toNat + (r.get x).toNat) % 65536)
      ∧ ∀ x y, i = .add x y → x ≠ flagIndex → m.Completes i fun r r' =>
        (r.get x).toNat + (r.get y).toNat = 256 * (r'.get flagIndex).toNat + (r'.get x).toNat := by
  refine ⟨fun c h => completes_computation h, ?_, ?_⟩
  · rintro x rfl
    exact completes_addIndex m x
  · rintro x y rfl hx
    apply (completes_computation rfl).mono
    intro r r' hv hsettles
    have hget : ∀ k, r.get k = m.registers.get k := fun k => congrArg (·.entry k) hv
    have htarget : ((r'.get x).toNat : Int) = ((m.registers.get x).toNat + (m.registers.get y).toNat) % 256 :=
      hsettles.target (.inr hx)
    have hflag := hsettles.flag _ rfl
    have hx' := (m.registers.get x).toNat_lt
    have hy' := (m.registers.get y).toNat_lt
    simp only [decide_eq_true_eq] at hflag
    rw [hget, hget]
    -- the flag tells the two cases apart
    split at hflag
    · omega
    · omega

end Vm

end Chip8
