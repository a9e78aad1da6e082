import Chip8.Proofs.Vm.Flow
import Chip8.Proofs.Vm.Cycle

/-!
# The next instruction

Where each instruction leads, counted from the address that it stands at: to an address that it names, past the next
instruction if its condition holds, back to itself while it waits, and else on. A cycle is ahead of that address by one
instruction when it executes, and so each case has to be counted back.

Which keys are down only matters to the three instructions that ask for keys.

Main statement: `step_destination`.
-/

namespace Chip8

/-- By how much an instruction changes the depth of the call stack. -/
def Instruction.depth : Instruction → Int
  | .call _ => 1
  | .ret => -1
  | _ => 0

/-- Whether an instruction asks which keys are down. -/
def Instruction.asksKeys : Instruction → Bool
  | .skipDown _ | .skipUp _ | .awaitKey _ => true
  | _ => false

namespace Vm

open Registers

variable {m m' : Vm} {i : Instruction} {w : UInt16} {condition : Bool}

/-- Whether an instruction skips the next one, by the registers and the keys before it. -/
def skips (m : Vm) : Instruction → Bool
  | .skipEqual x value => m.registers.get x = value
  | .skipUnequal x value => m.registers.get x ≠ value
  | .skipSame x y => m.registers.get x = m.registers.get y
  | .skipDifferent x y => m.registers.get x ≠ m.registers.get y
  | .skipDown x => m.keypad.down[(m.registers.get x).toNat]? = some true
  | .skipUp x => m.keypad.down[(m.registers.get x).toNat]? = some false
  | _ => false

/-- Where an instruction at the program counter leads, not yet modulo 2^16. -/
def destination (m : Vm) (i : Instruction) : Nat :=
  let p := m.registers.pc.toNat
  match i with
  | .jump target | .call target => target
  | .jumpFrom target => target + (m.registers.get 0).toNat
  | .ret => (m.registers.stack.get ⟨m.registers.sp - 1, by omega⟩).toNat
  | .awaitKey _ => if m.keypad.pressed = [] then p else p + 2
  | i => if m.skips i then p + 4 else p + 2

/-- The machine `m'` stands where the instruction `i` of `m` leads, and its call stack is that of `m`, with the address
of the next instruction on top after a call and without the top after a return. -/
structure Arrives (m : Vm) (i : Instruction) (m' : Vm) : Prop where
  pc : m'.registers.pc.toNat = m.destination i % 65536
  sp : (m'.registers.sp.val : Int) = m.registers.sp.val + i.depth
  pushed : ∀ target, i = .call target → m'.registers.stack[m.registers.sp.val]? = some (m.registers.pc + 2)
  kept : ∀ k : Fin 16, (∀ target, i = .call target → k.val ≠ m.registers.sp) →
    m'.registers.stack.get k = m.registers.stack.get k

/-! ## Counting back -/

theorem toNat_advance (r : Registers) : r.advance.pc.toNat = (r.pc.toNat + 2) % 65536 := UInt16.toNat_add _ _

theorem toNat_advance_advance (r : Registers) : r.advance.advance.pc.toNat = (r.pc.toNat + 4) % 65536 := by
  rw [toNat_advance, toNat_advance]
  omega

theorem toNat_rewind_advance (r : Registers) : r.advance.rewind.pc.toNat = r.pc.toNat % 65536 := by
  have hback : r.pc + 2 - 2 = r.pc := UInt16.add_sub_cancel r.pc 2
  show (r.pc + 2 - 2).toNat = r.pc.toNat % 65536
  rw [hback, Nat.mod_eq_of_lt r.pc.toNat_lt]

namespace Arrives

theorem of_sameStack (hi : i.depth = 0) (hs : m.registers.SameStack m'.registers)
    (hpc : m'.registers.pc.toNat = m.destination i % 65536) : m.Arrives i m' where
  pc := hpc
  sp := by rw [hs.1, hi, Int.add_zero]
  pushed := by
    rintro target rfl
    cases hi
  kept := fun k _ => by rw [hs.2]

theorem of_next (hi : i.depth = 0) (hd : m.destination i = m.registers.pc.toNat + 2)
    (hpc : m'.registers.pc = m.registers.advance.pc) (hs : m.registers.SameStack m'.registers) : m.Arrives i m' :=
  of_sameStack hi hs (by rw [hpc, toNat_advance, hd])

/-- An instruction that leads past the next one if its condition holds. -/
theorem of_skip (hi : i.depth = 0)
    (hd : m.destination i = if m.skips i then m.registers.pc.toNat + 4 else m.registers.pc.toNat + 2)
    (h : m'.registers = if m.skips i then m.registers.advance.advance else m.registers.advance) : m.Arrives i m' := by
  cases hskips : m.skips i with
  | true =>
    rw [hskips, if_pos rfl] at hd h
    exact of_sameStack hi (by rw [h]; exact ⟨rfl, rfl⟩) (by rw [h, hd, toNat_advance_advance])
  | false =>
    rw [hskips, if_neg Bool.false_ne_true] at hd h
    exact of_next hi hd (by rw [h]) (by rw [h]; exact ⟨rfl, rfl⟩)

theorem of_goto {n : Nat} (hi : i.depth = 0) (hd : m.destination i = n) (hn : n < 0x10000)
    (h : m'.registers = m.registers.advance.goto n) : m.Arrives i m' :=
  of_sameStack hi (by rw [h]; exact ⟨rfl, rfl⟩) (by rw [h, hd, goto_pc_toNat hn, Nat.mod_eq_of_lt hn])

end Arrives

/-! ## Instructions -/

theorem arrives_of_ok (h : execute i m.fetched = .ok () m') (ha : m.Arrives i m') :
    m.Arrives i (after (execute i) m.fetched) := by
  rw [after_ok h]
  exact ha

theorem not_of_accepted {p : Prop} [Decidable p] {fault : Fault} (h : (if p then some fault else none) = none) :
    ¬p := by
  intro hp
  rw [if_pos hp] at h
  cases h

theorem arrives_call {target : Address12} (h : m.registers.sp < 16) :
    m.Arrives (.call target) (after (execute (.call target)) m.fetched) := by
  have htarget : target.val < 0x10000 := Nat.lt_trans target.isLt (by decide)
  refine arrives_of_ok
    ((execute_call target m.fetched).trans (tryRegisters_ok (call_room (r := m.fetched.registers) h))) {
      pc := ?_
      sp := rfl
      pushed := fun _ _ => Vector.getElem?_set_self h
      kept := fun k hk => Vector.getElem_set_ne h k.isLt (hk target rfl).symm }
  exact (goto_pc_toNat htarget).trans (Nat.mod_eq_of_lt htarget).symm

theorem destination_ret {n : Nat} (h : m.registers.sp.val = n + 1) :
    m.destination .ret = (m.registers.stack.get ⟨n, by omega⟩).toNat := by
  have hindex : m.registers.sp.val - 1 = n := by omega
  have htop : (⟨m.registers.sp - 1, by omega⟩ : Fin 16) = ⟨n, by omega⟩ := Fin.ext hindex
  exact congrArg (fun k => (m.registers.stack.get k).toNat) htop

theorem arrives_ret {n : Nat} (h : m.registers.sp.val = n + 1) : m.Arrives .ret (after (execute .ret) m.fetched) := by
  have hdestination := destination_ret h
  refine arrives_of_ok
    ((execute_ret m.fetched).trans (tryRegisters_ok (ret_open (r := m.fetched.registers) h))) {
      pc := ?_
      sp := ?_
      pushed := fun _ h => by cases h
      kept := fun _ _ => rfl }
  · rw [hdestination, Nat.mod_eq_of_lt (UInt16.toNat_lt _)]
    rfl
  · show (n : Int) = m.registers.sp.val + -1
    omega

/-- The two instructions that ask for one key skip by what the pad says of it. -/
theorem arrives_keySkip {x : Nibble} {f : Bool → Bool} (hi : i.depth = 0)
    (hd : m.destination i = if m.skips i then m.registers.pc.toNat + 4 else m.registers.pc.toNat + 2)
    (hx : (m.registers.get x).toNat < 16)
    (hskips : m.skips i = f (m.keypad.down.entry ⟨(m.registers.get x).toNat, hx⟩))
    (h : execute i m.fetched = (keyDown x >>= fun down => skipWhen (f down)) m.fetched) :
    m.Arrives i (after (execute i) m.fetched) := by
  refine arrives_of_ok (h.trans (keySkip_ok (m := m.fetched) hx)) (.of_skip hi hd ?_)
  rw [hskips]
  rfl

theorem down_getElem? {n : Nat} (h : n < 16) : m.keypad.down[n]? = some (m.keypad.down.entry ⟨n, h⟩) :=
  Vector.getElem?_eq_getElem h

theorem pressed_eq_nil_iff {k : Keypad} : k.pressed = [] ↔ k.firstPressed = none := by
  rw [k.firstPressed_eq_head?, List.head?_eq_none_iff]

theorem arrives_awaitKey (x : Nibble) (m : Vm) : m.Arrives (.awaitKey x) (after (execute (.awaitKey x)) m.fetched) := by
  have hdestination : m.destination (.awaitKey x)
      = if m.keypad.pressed = [] then m.registers.pc.toNat else m.registers.pc.toNat + 2 := rfl
  cases hk : m.keypad.firstPressed with
  | none =>
    rw [if_pos (pressed_eq_nil_iff.mpr hk)] at hdestination
    refine arrives_of_ok (execute_awaitKey_none (m := m.fetched) x hk) (.of_sameStack rfl ⟨rfl, rfl⟩ ?_)
    rw [hdestination]
    exact toNat_rewind_advance m.registers
  | some key =>
    have hpressed : m.keypad.pressed ≠ [] := fun he => by
      rw [pressed_eq_nil_iff.mp he] at hk
      cases hk
    rw [if_neg hpressed] at hdestination
    exact arrives_of_ok (execute_awaitKey_some (m := m.fetched) x hk) (.of_next rfl hdestination rfl ⟨rfl, rfl⟩)

theorem execute_arrives (hf : m.refusal? i = none) : m.Arrives i (after (execute i) m.fetched) := by
  -- what changes the stack, goes to an address, skips or waits has a case of its own; the others lead on
  cases i with
  | call target => exact arrives_call (sp_lt_of_ne (not_of_accepted hf))
  | ret =>
    have hopen : m.registers.sp ≠ 0 := not_of_accepted hf
    obtain ⟨n, hn⟩ : ∃ n, m.registers.sp.val = n + 1 := Nat.exists_eq_succ_of_ne_zero fun he => hopen (Fin.ext he)
    exact arrives_ret hn
  | jump target => exact arrives_of_ok rfl (.of_goto rfl rfl (Nat.lt_trans target.isLt (by decide)) rfl)
  | jumpFrom target =>
    have hbyte := (m.registers.get 0).toNat_lt
    have hlt : target.val + (m.registers.get 0).toNat < 0x10000 := by omega
    exact arrives_of_ok rfl (.of_goto rfl rfl hlt rfl)
  | skipEqual _ _ | skipUnequal _ _ | skipSame _ _ | skipDifferent _ _ =>
    exact arrives_of_ok (bind_get.trans (skipWhen_apply _ m.fetched)) (.of_skip rfl rfl rfl)
  | skipDown x =>
    have hx : ¬16 ≤ (m.registers.get x).toNat := not_of_accepted hf
    refine arrives_keySkip rfl rfl (Nat.lt_of_not_le hx) ?_ (execute_skipDown x m.fetched)
    simp [skips, down_getElem? (Nat.lt_of_not_le hx)]
  | skipUp x =>
    have hx : ¬16 ≤ (m.registers.get x).toNat := not_of_accepted hf
    refine arrives_keySkip rfl rfl (Nat.lt_of_not_le hx) ?_ (execute_skipUp x m.fetched)
    simp [skips, down_getElem? (Nat.lt_of_not_le hx)]
  | awaitKey x => exact arrives_awaitKey x m
  | storeDecimal x =>
    rw [after_conclude (execute_storeDecimal x m.fetched)]
    exact .of_next rfl rfl rfl ⟨rfl, rfl⟩
  | storeRegisters x =>
    rw [after_conclude (execute_storeRegisters x m.fetched)]
    exact .of_next rfl rfl rfl ⟨rfl, rfl⟩
  | loadRegisters x =>
    rw [after_conclude (execute_loadRegisters x m.fetched), halfway, setAll_eq]
    exact .of_next rfl rfl rfl ⟨rfl, rfl⟩
  | draw x y rows =>
    have hmissing : m.fetched.missing? rows = none := hf
    exact arrives_of_ok (execute_draw x y hmissing) (.of_next rfl rfl rfl ⟨rfl, rfl⟩)
  | _ => exact arrives_of_ok rfl (.of_next rfl rfl rfl ⟨rfl, rfl⟩)

/-! ## Keys -/

/-- The machines are the same, except that other keys may be down. -/
def Rekeyed (m m' : Vm) : Prop := m' = { m with keypad := m'.keypad }

namespace Rekeyed

theorem exists_keypad (h : Rekeyed m m') : ∃ keypad, m' = { m with keypad } := ⟨_, h⟩

theorem tryRegisters (h : Rekeyed m m') (f : Registers → Except Fault Registers) :
    Rekeyed (after (tryRegisters f) m) (after (tryRegisters f) m') := by
  obtain ⟨keypad, rfl⟩ := h.exists_keypad
  cases hf : f m.registers with
  | ok r => exact related_ok (tryRegisters_ok hf) (tryRegisters_ok hf) rfl
  | error fault => exact related_error (tryRegisters_error hf) (tryRegisters_error hf) rfl

theorem execute (h : Rekeyed m m') (hi : i.asksKeys = false) :
    Rekeyed (after (execute i) m) (after (execute i) m') := by
  have hrekeyed := h
  obtain ⟨keypad, rfl⟩ := h.exists_keypad
  cases i with
  | skipDown x | skipUp x | awaitKey x => cases hi
  | call target => exact hrekeyed.tryRegisters fun r => r.call target.val
  | ret => exact hrekeyed.tryRegisters Registers.ret
  | skipEqual _ _ | skipUnequal _ _ | skipSame _ _ | skipDifferent _ _ =>
    exact related_ok (bind_get.trans (skipWhen_apply _ m)) (bind_get.trans (skipWhen_apply _ _)) rfl
  | storeDecimal x =>
    rw [after_conclude (execute_storeDecimal x m), after_conclude (execute_storeDecimal x _)]
    rfl
  | storeRegisters x =>
    rw [after_conclude (execute_storeRegisters x m), after_conclude (execute_storeRegisters x _)]
    rfl
  | loadRegisters x =>
    rw [after_conclude (execute_loadRegisters x m), after_conclude (execute_loadRegisters x _)]
    rfl
  | draw x y rows =>
    cases hm : m.missing? rows with
    | none => exact related_ok (execute_draw x y hm) (execute_draw x y hm) rfl
    | some fault => exact related_error (execute_draw_missing x y hm) (execute_draw_missing x y hm) rfl
  | _ => rfl

end Rekeyed

theorem rekeyed_onRest : OnRest Rekeyed where
  shared := fun h => ⟨_, _, _, h⟩
  update := fun h _ _ _ => by
    obtain ⟨keypad, rfl⟩ := h.exists_keypad
    rfl

/-! ## Cycles -/

/-- A completed cycle leads where its instruction leads, and does to the call stack what that does. If the instruction
asks for no key, or the cycle is refused before there is one, then the cycle ends the same way whichever keys are
down. -/
theorem step_destination (m : Vm) :
    (∀ s m', step m = .ok s m' →
        ∃ w i, m.word? = some w ∧ Instruction.ofWord? w = some i ∧ m.Arrives i m')
      ∧ ∀ keypad, (∀ w i, m.word? = some w → Instruction.ofWord? w = some i → i.asksKeys = false) →
        SameEnd Rekeyed (step m) (step { m with keypad }) := by
  constructor
  · intro s m' h
    obtain ⟨w, i, hw, hi, hf, -, rfl⟩ := step_ok h
    have harrives := execute_arrives hf
    exact ⟨w, i, hw, hi, harrives.pc, harrives.sp, harrives.pushed, harrives.kept⟩
  · intro keypad hdeaf
    have hrekeyed : Rekeyed m { m with keypad } := rfl
    apply rekeyed_onRest.step hrekeyed
    intro w i hw hi m₁ m₂ h
    exact h.execute (hdeaf w i hw hi)

/-- A machine that stands at a call, with one call open. -/
def aboutToCall : Vm :=
  { registers := { pc := 0, sp := 1 }
    memory := { cells := #[0x22, 0x08] }
    random := .constant 0 }

/-- The call leads to its address whichever keys are down, and the next one is on the call stack. -/
theorem step_destination_calling :
    (∃ s m', step aboutToCall = .ok s m' ∧ m'.registers.pc.toNat = 0x208 ∧ m'.registers.stack[1]? = some 2)
    ∧ ∀ keypad, SameEnd Rekeyed (step aboutToCall) (step { aboutToCall with keypad }) := by
  have hstep := step_completed (m := aboutToCall) (w := 0x2208) (i := .call 0x208) rfl rfl rfl
  obtain ⟨harrives, hdeaf⟩ := step_destination aboutToCall
  constructor
  · obtain ⟨w, i, hw, hi, h⟩ := harrives _ _ hstep
    cases hw
    cases hi
    exact ⟨_, _, hstep, h.pc, h.pushed _ rfl⟩
  · refine fun keypad => hdeaf keypad fun w i hw hi => ?_
    cases hw
    cases hi
    rfl

end Vm

end Chip8
