import Chip8.Proofs.Action
import Chip8.Vm.Execute

/-!
# Actions of the machine

What the small actions of the machine do. An action is looked at from two sides: the fault that refuses it, if one
does, and the machine that it leaves in any case.
-/

namespace Chip8.Vm

variable {α β : Type} {m m' : Vm}

/-- The machine that an action leaves, completed or refused. -/
def after (x : Action α) (m : Vm) : Vm :=
  match x m with
  | .ok _ m' | .error _ m' => m'

/-- Why an action is refused, if it is. -/
def faultOf (x : Action α) (m : Vm) : Option Fault :=
  match x m with
  | .ok _ _ => none
  | .error fault _ => some fault

/-- The result that leaves a machine: a value, unless there is a fault. -/
def conclude (fault : Option Fault) (value : α) (m : Vm) : EStateM.Result Fault Vm α :=
  match fault with
  | none => .ok value m
  | some fault => .error fault m

theorem after_ok {x : Action α} {a : α} (h : x m = .ok a m') : after x m = m' := by
  rw [after, h]

theorem after_error {x : Action α} {fault : Fault} (h : x m = .error fault m') : after x m = m' := by
  rw [after, h]

theorem faultOf_ok {x : Action α} {a : α} (h : x m = .ok a m') : faultOf x m = none := by
  rw [faultOf, h]

theorem faultOf_error {x : Action α} {fault : Fault} (h : x m = .error fault m') : faultOf x m = some fault := by
  rw [faultOf, h]

theorem after_conclude {x : Action α} {fault : Option Fault} {a : α} (h : x m = conclude fault a m') :
    after x m = m' := by
  rw [after, h]
  cases fault <;> rfl

theorem related_ok {R : Vm → Vm → Prop} {x : Action α} {a b : α} {m₁ m₁' : Vm} (h : x m = .ok a m₁)
    (h' : x m' = .ok b m₁') (hr : R m₁ m₁') : R (after x m) (after x m') := by
  rw [after_ok h, after_ok h']
  exact hr

theorem related_error {R : Vm → Vm → Prop} {x : Action α} {f g : Fault} {m₁ m₁' : Vm} (h : x m = .error f m₁)
    (h' : x m' = .error g m₁') (hr : R m₁ m₁') : R (after x m) (after x m') := by
  rw [after_error h, after_error h']
  exact hr

/-! ## Small actions -/

@[simp] theorem skipWhen_apply (condition : Bool) (m : Vm) :
    skipWhen condition m
      = .ok () { m with registers := if condition then m.registers.advance else m.registers } := by
  cases condition <;> rfl

theorem tryRegisters_ok {f : Registers → Except Fault Registers} {r : Registers} (h : f m.registers = .ok r) :
    tryRegisters f m = .ok () { m with registers := r } := by
  rw [tryRegisters, bind_get, h]
  rfl

theorem tryRegisters_error {f : Registers → Except Fault Registers} {fault : Fault}
    (h : f m.registers = .error fault) : tryRegisters f m = .error fault m := by
  rw [tryRegisters, bind_get, h]
  rfl

/-- A register names a key of the pad if its byte is below sixteen. -/
theorem keyDown_ok {x : Nibble} (h : (m.registers.get x).toNat < 16) :
    keyDown x m = .ok (m.keypad.down.entry ⟨(m.registers.get x).toNat, h⟩) m := by
  have hkey : m.keypad.isDown (m.registers.get x).toNat
      = .ok (m.keypad.down.entry ⟨(m.registers.get x).toNat, h⟩) := by
    rw [Keypad.isDown, Nibble.ofInt?, dif_pos (by omega)]
    rfl
  rw [keyDown, bind_get, hkey]
  rfl

theorem keyDown_error {x : Nibble} (h : 16 ≤ (m.registers.get x).toNat) :
    keyDown x m = .error (.invalidKey (m.registers.get x).toNat) m := by
  have hkey : m.keypad.isDown (m.registers.get x).toNat = .error (.invalidKey (m.registers.get x).toNat) := by
    rw [Keypad.isDown, Nibble.ofInt?, dif_neg (by omega)]
  rw [keyDown, bind_get, hkey]
  rfl

theorem keySkip_ok {x : Nibble} {f : Bool → Bool} (h : (m.registers.get x).toNat < 16) :
    (keyDown x >>= fun down => skipWhen (f down)) m
      = .ok () { m with registers := if f (m.keypad.down.entry ⟨(m.registers.get x).toNat, h⟩)
                                     then m.registers.advance else m.registers } :=
  (bind_ok (keyDown_ok h)).trans (skipWhen_apply _ m)

theorem keySkip_error {x : Nibble} {f : Bool → Bool} (h : 16 ≤ (m.registers.get x).toNat) :
    (keyDown x >>= fun down => skipWhen (f down)) m = .error (.invalidKey (m.registers.get x).toNat) m :=
  bind_error (keyDown_error h)

end Chip8.Vm
