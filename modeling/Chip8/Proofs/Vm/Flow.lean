import Chip8.Proofs.Vm.Execute

/-!
# The flow of control

Where an instruction leads and what it does to the call stack. There are six ways to go: on to the next
instruction, past it, back to the instruction itself, to an address, into a call, and back from one; only the last
two touch the stack. The machine that executes already stands at the next instruction.

Main statement: `execute_flow`.
-/

namespace Chip8

/-- Every address that an instruction can name, alone or with a register added. -/
def highestTarget : Nat := 0x10FE

def Registers.SameStack (r r' : Registers) : Prop := r'.sp = r.sp ∧ r'.stack = r.stack

/-- How an instruction leads from the registers before it to those after it. -/
inductive Flow (r r' : Registers) : Prop where
  /-- On to the next instruction. -/
  | next (hpc : r'.pc = r.pc) (hs : r.SameStack r')
  /-- Past the next instruction. -/
  | skip (hpc : r'.pc = r.advance.pc) (hs : r.SameStack r')
  /-- Back to the instruction itself. -/
  | wait (hpc : r'.pc = r.rewind.pc) (hs : r.SameStack r')
  /-- To an address. -/
  | goto (hpc : r'.pc.toNat ≤ highestTarget) (hs : r.SameStack r')
  /-- Into a call: the next instruction goes on the stack. -/
  | call (hpc : r'.pc.toNat ≤ highestTarget) (hsp : r.sp < 16) (hsp' : r'.sp.val = r.sp.val + 1)
    (hs : r'.stack = r.stack.set r.sp r.pc)
  /-- Back from a call: to the address that went on the stack last. -/
  | ret {n : Nat} (hsp : r.sp.val = n + 1) (hsp' : r'.sp.val = n) (hpc : r'.pc = r.stack.get ⟨n, by omega⟩)
    (hs : r'.stack = r.stack)

namespace Registers

variable {r : Registers}

theorem SameStack.refl (r : Registers) : r.SameStack r := ⟨rfl, rfl⟩

theorem flow_set {x : Nibble} {b : UInt8} : Flow r (r.set x b) := .next rfl (.refl r)

theorem flow_goto {n : Nat} (h : n ≤ highestTarget) : Flow r (r.goto n) := by
  have hlt : n < 0x10000 := by unfold highestTarget at h; omega
  exact .goto (by rw [goto_pc_toNat hlt]; exact h) (.refl r)

theorem flow_setAll (values : List (Nibble × UInt8)) : Flow r (r.setAll values) := by
  rw [setAll_eq]
  exact .next rfl (.refl r)

end Registers

namespace Vm

variable {m m' : Vm} {r : Registers}

theorem flow_of_ok {x : Action Unit} (h : x m = .ok () m') (hf : Flow m.registers m'.registers) :
    Flow m.registers (after x m).registers := by
  rw [after_ok h]
  exact hf

theorem flow_of_error {x : Action Unit} {fault : Fault} (h : x m = .error fault m) :
    Flow m.registers (after x m).registers := by
  rw [after_error h]
  exact .next rfl (.refl _)

theorem flow_skip (condition : Bool) :
    Flow m.registers (if condition then m.registers.advance else m.registers) := by
  cases condition with
  | true => exact .skip rfl (.refl _)
  | false => exact .next rfl (.refl _)

theorem flow_keySkip {x : Nibble} {f : Bool → Bool} {a : Action Unit}
    (h : a m = (keyDown x >>= fun down => skipWhen (f down)) m) : Flow m.registers (after a m).registers := by
  by_cases hx : 16 ≤ (m.registers.get x).toNat
  · exact flow_of_error (h.trans (keySkip_error hx))
  · exact flow_of_ok (h.trans (keySkip_ok (by omega))) (flow_skip _)

theorem flow_call (target : Address12) (m : Vm) : Flow m.registers (after (execute (.call target)) m).registers := by
  have hrun := execute_call target m
  by_cases h : m.registers.sp = 16
  · exact flow_of_error (hrun.trans (tryRegisters_error (Registers.call_full h)))
  · have hlt := Registers.sp_lt_of_ne h
    refine flow_of_ok (hrun.trans (tryRegisters_ok (Registers.call_room hlt))) (.call ?_ hlt rfl rfl)
    have htarget := target.isLt
    rw [Registers.goto_pc_toNat (by omega)]
    unfold highestTarget
    omega

theorem flow_ret (m : Vm) : Flow m.registers (after (execute .ret) m).registers := by
  have hrun := execute_ret m
  by_cases h : m.registers.sp = 0
  · exact flow_of_error (hrun.trans (tryRegisters_error (Registers.ret_empty h)))
  · obtain ⟨n, hn⟩ : ∃ n, m.registers.sp.val = n + 1 := Nat.exists_eq_succ_of_ne_zero fun he => h (Fin.ext he)
    exact flow_of_ok (hrun.trans (tryRegisters_ok (Registers.ret_open hn))) (.ret hn rfl rfl rfl)

theorem flow_draw (x y rows : Nibble) (m : Vm) :
    Flow m.registers (after (execute (.draw x y rows)) m).registers := by
  cases hm : m.missing? rows with
  | none => exact flow_of_ok (execute_draw x y hm) Registers.flow_set
  | some fault =>
    rw [after_error (execute_draw_missing x y hm)]
    exact .next rfl (.refl _)

/-- Every instruction goes one of the six ways. -/
theorem execute_flow (i : Instruction) (m : Vm) : Flow m.registers (after (execute i) m).registers := by
  cases i with
  | call target => exact flow_call target m
  | ret => exact flow_ret m
  | skipDown x => exact flow_keySkip (execute_skipDown x m)
  | skipUp x => exact flow_keySkip (execute_skipUp x m)
  | jump target => exact flow_of_ok rfl (Registers.flow_goto (by have h := target.isLt; unfold highestTarget; omega))
  | jumpFrom target =>
    refine flow_of_ok rfl (Registers.flow_goto (n := target.val + (m.registers.get 0).toNat) ?_)
    have htarget := target.isLt
    have hbyte := (m.registers.get 0).toNat_lt
    unfold highestTarget
    omega
  | skipEqual _ _ | skipUnequal _ _ | skipSame _ _ | skipDifferent _ _ =>
    exact flow_of_ok (bind_get.trans (skipWhen_apply _ m)) (flow_skip _)
  | awaitKey x =>
    cases hk : m.keypad.firstPressed with
    | none => exact flow_of_ok (execute_awaitKey_none x hk) (.wait rfl (.refl _))
    | some key => exact flow_of_ok (execute_awaitKey_some x hk) Registers.flow_set
  | storeDecimal x => rw [after_conclude (execute_storeDecimal x m)]; exact .next rfl (.refl _)
  | storeRegisters x => rw [after_conclude (execute_storeRegisters x m)]; exact .next rfl (.refl _)
  | loadRegisters x => rw [after_conclude (execute_loadRegisters x m)]; exact Registers.flow_setAll _
  | draw x y rows => exact flow_draw x y rows m
  | _ => exact flow_of_ok rfl (.next rfl (.refl _))

end Vm

end Chip8
