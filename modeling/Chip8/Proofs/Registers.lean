import Chip8.Registers

/-!
# Registers, as their readers see them

What the operations on registers leave in each register, in the program counter and on the call stack.
-/

namespace Chip8.Registers

variable {r : Registers} {x y : Nibble} {b : UInt8} {address : Int}

/-! ## Byte registers -/

theorem get_set : (r.set x b).get y = if x = y then b else r.get y := by
  simp only [get, set, Bank.entry, Bank.put, Fin.getElem_fin, Vector.getElem_set, Fin.ext_iff]

@[simp] theorem get_set_self : (r.set x b).get x = b := by
  rw [get_set, if_pos rfl]

theorem get_set_ne (h : x ≠ y) : (r.set x b).get y = r.get y := by
  rw [get_set, if_neg h]

def setAll (r : Registers) (values : List (Nibble × UInt8)) : Registers := values.foldl (fun r p => r.set p.1 p.2) r

@[simp] theorem setAll_nil : r.setAll [] = r := rfl

theorem setAll_cons {values : List (Nibble × UInt8)} :
    r.setAll ((x, b) :: values) = (r.set x b).setAll values := rfl

/-- Putting values into byte registers changes nothing but those. -/
theorem setAll_eq (r : Registers) (values : List (Nibble × UInt8)) :
    r.setAll values = { r with v := (r.setAll values).v } := by
  induction values generalizing r with
  | nil => rfl
  | cons p values ih => exact ih (r.set p.1 p.2)

theorem setAll_untouched {values : List (Nibble × UInt8)} (h : ∀ p ∈ values, p.1 ≠ y) :
    (r.setAll values).get y = r.get y := by
  induction values generalizing r with
  | nil => rfl
  | cons p values ih =>
    rw [setAll_cons, ih fun q hq => h q (List.mem_cons_of_mem p hq), get_set_ne (h p List.mem_cons_self)]

theorem setAll_get {values : List (Nibble × UInt8)} (hd : (values.map Prod.fst).Nodup) (h : (y, b) ∈ values) :
    (r.setAll values).get y = b := by
  induction values generalizing r with
  | nil => cases h
  | cons p values ih =>
    rw [List.map_cons, List.nodup_cons] at hd
    rw [setAll_cons]
    rcases List.mem_cons.mp h with rfl | h
    · rw [setAll_untouched, get_set_self]
      intro q hq he
      exact hd.1 (List.mem_map.mpr ⟨q, hq, he⟩)
    · exact ih hd.2 h

/-! ## The program counter -/

theorem goto_pc_toNat {n : Nat} (h : n < 0x10000) : (r.goto n).pc.toNat = n := by
  show (UInt16.ofInt n).toNat = n
  rw [UInt16.ofInt, UInt16.toNat_ofNat']
  omega

theorem advance_pc_toNat (h : r.pc.toNat + 2 < 0x10000) : r.advance.pc.toNat = r.pc.toNat + 2 := by
  show (r.pc + instructionLength).toNat = r.pc.toNat + 2
  rw [UInt16.toNat_add]
  exact Nat.mod_eq_of_lt h

theorem rewind_pc_toNat (h : 2 ≤ r.pc.toNat) : r.rewind.pc.toNat = r.pc.toNat - 2 :=
  UInt16.toNat_sub_of_le r.pc instructionLength (UInt16.le_iff_toNat_le.mpr h)

/-! ## The call stack -/

theorem call_room (h : r.sp < 16) :
    r.call address
      = .ok ({ r with stack := r.stack.set r.sp r.pc h, sp := ⟨r.sp + 1, Nat.succ_lt_succ h⟩ }.goto address) :=
  dif_pos h

theorem call_full (h : r.sp = 16) : r.call address = .error .stackOverflow :=
  dif_neg fun hlt => by rw [h] at hlt; exact absurd hlt (by decide)

/-- There is room for a call unless the stack is full. -/
theorem sp_lt_of_ne (h : r.sp ≠ 16) : r.sp < 16 := by
  have hlt := r.sp.isLt
  have hne : r.sp.val ≠ 16 := fun he => h (Fin.ext he)
  show r.sp.val < 16
  omega

theorem ret_empty (h : r.sp = 0) : r.ret = .error .stackUnderflow := by
  unfold ret
  split
  · rfl
  · next n hn => rw [h] at hn; cases hn

theorem ret_open {n : Nat} (h : r.sp.val = n + 1) :
    r.ret = .ok { r with sp := ⟨n, by omega⟩, pc := r.stack.get ⟨n, by omega⟩ } := by
  unfold ret
  split
  · next hz => rw [h] at hz; cases hz
  · next k hk =>
    obtain rfl : n = k := by omega
    rfl

/-- A call changes nothing but the stack and the program counter. -/
theorem call_eq {r' : Registers} (h : r.call address = .ok r') :
    r' = { r with stack := r'.stack, sp := r'.sp, pc := r'.pc } := by
  unfold call at h
  split at h
  · cases h
    rfl
  · cases h

/-- A return changes nothing but the depth of the stack and the program counter. -/
theorem ret_eq {r' : Registers} (h : r.ret = .ok r') : r' = { r with sp := r'.sp, pc := r'.pc } := by
  unfold ret at h
  split at h
  · cases h
  · cases h
    rfl

end Chip8.Registers
