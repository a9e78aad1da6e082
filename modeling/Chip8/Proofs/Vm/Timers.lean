import Chip8.Proofs.Vm.Cycle
import Mathlib.Logic.Function.Iterate
import Mathlib.Tactic.SplitIfs

/-!
# Instructions and the timers

A tick lowers both timers, and many ticks lower them by their number. Of the instructions only two set a timer; all the
others, and those that are refused, leave both alone.

Main statements: `Timers.tick_iterate`, `execute_sameTimers`, `step_timers`.
-/

namespace Chip8

/-- The instruction sets the delay timer. -/
def Operation.setsDelay (op : Operation) : Bool := op.pattern = "FX15"

/-- The instruction sets the sound timer. -/
def Operation.setsSound (op : Operation) : Bool := op.pattern = "FX18"

/-- What there is to see of the timers: their values, and how often the sound timer ran out. -/
structure Timers where
  delay : Nat
  sound : Nat
  beeps : Nat
  deriving DecidableEq, Repr

namespace Timers

variable {t t₁ t₂ : Timers} {ran : Option Operation}

def tick (t : Timers) : Timers :=
  { delay := t.delay - 1, sound := t.sound - 1, beeps := t.beeps + if t.sound = 1 then 1 else 0 }

/-- Many ticks lower both timers by their number, and the sound timer runs out once if that is on the way. -/
theorem tick_iterate (k : Nat) (t : Timers) : tick^[k] t =
    { delay := t.delay - k
      sound := t.sound - k
      beeps := t.beeps + if 0 < t.sound ∧ t.sound ≤ k then 1 else 0 } := by
  induction k generalizing t with
  | zero =>
    have hnever : ¬(0 < t.sound ∧ t.sound ≤ 0) := by omega
    rw [if_neg hnever]
    rfl
  | succ k ih =>
    have hbeeps : (t.beeps + if t.sound = 1 then 1 else 0) + (if 0 < t.sound - 1 ∧ t.sound - 1 ≤ k then 1 else 0)
        = t.beeps + if 0 < t.sound ∧ t.sound ≤ k + 1 then 1 else 0 := by
      -- the first tick sounds, or one of the others does, and not both
      split_ifs <;> omega
    have hdelay : t.delay - 1 - k = t.delay - (k + 1) := by omega
    have hsound : t.sound - 1 - k = t.sound - (k + 1) := by omega
    rw [Function.iterate_succ_apply, ih]
    exact (Timers.mk.injEq ..).mpr ⟨hdelay, hsound, hbeeps⟩

/-- An instruction, if one is completed, changes no timer that it does not set, and does not sound. -/
structure Spared (ran : Option Operation) (t t' : Timers) : Prop where
  delay : (∀ op ∈ ran, op.setsDelay = false) → t'.delay = t.delay
  sound : (∀ op ∈ ran, op.setsSound = false) → t'.sound = t.sound
  beeps : t'.beeps = t.beeps

theorem Spared.of_eq (h : t₁ = t) : Spared ran t t₁ := by
  subst h
  exact ⟨fun _ => rfl, fun _ => rfl, rfl⟩

theorem Spared.eq (h : Spared none t t₁) : t₁ = t := by
  obtain ⟨delay, sound, beeps⟩ := t
  obtain ⟨delay₁, sound₁, beeps₁⟩ := t₁
  obtain rfl : delay₁ = delay := h.delay nofun
  obtain rfl : sound₁ = sound := h.sound nofun
  obtain rfl : beeps₁ = beeps := h.beeps
  rfl

end Timers

namespace Vm

variable {m m' : Vm} {i : Instruction}

theorem lowered_toNat (b : UInt8) : (if b = 0 then 0 else b - 1).toNat = b.toNat - 1 := by
  split
  · next h => rw [h]; rfl
  · next h =>
    have hne : b.toNat ≠ 0 := fun h0 => h (UInt8.toNat_inj.mp h0)
    exact UInt8.toNat_sub_of_le b 1 (UInt8.le_iff_toNat_le.mpr (Nat.one_le_iff_ne_zero.mpr hne))

/-- The timers of the first machine are those of the second one. -/
def SameTimers (m' m : Vm) : Prop := m'.registers.dt = m.registers.dt ∧ m'.registers.st = m.registers.st

theorem sameTimers_ok {x : Action Unit} (h : x m = .ok () m') (hm : SameTimers m' m) : SameTimers (after x m) m := by
  rw [after_ok h]
  exact hm

theorem sameTimers_error {x : Action Unit} {fault : Fault} (h : x m = .error fault m') (hm : SameTimers m' m) :
    SameTimers (after x m) m := by
  rw [after_error h]
  exact hm

theorem sameTimers_halfway (m : Vm) (i : Instruction) : SameTimers (m.halfway i) m := by
  unfold halfway
  rw [Registers.setAll_eq]
  exact ⟨rfl, rfl⟩

theorem sameTimers_skip (condition : Bool) :
    SameTimers { m with registers := if condition then m.registers.advance else m.registers } m := by
  cases condition <;> exact ⟨rfl, rfl⟩

theorem sameTimers_keySkip {x : Nibble} {f : Bool → Bool} {a : Action Unit}
    (h : a m = (keyDown x >>= fun down => skipWhen (f down)) m) : SameTimers (after a m) m := by
  by_cases hx : 16 ≤ (m.registers.get x).toNat
  · exact sameTimers_error (h.trans (keySkip_error hx)) ⟨rfl, rfl⟩
  · exact sameTimers_ok (h.trans (keySkip_ok (by omega))) (sameTimers_skip _)

theorem sameTimers_tryRegisters {f : Registers → Except Fault Registers}
    (hf : ∀ r, f m.registers = .ok r → r.dt = m.registers.dt ∧ r.st = m.registers.st) :
    SameTimers (after (tryRegisters f) m) m := by
  cases hrun : f m.registers with
  | ok r => exact sameTimers_ok (tryRegisters_ok hrun) (hf r hrun)
  | error fault => exact sameTimers_error (tryRegisters_error hrun) ⟨rfl, rfl⟩

/-- Instructions that set no timer leave both timers alone. -/
theorem execute_sameTimers (hdelay : ∀ x, i ≠ .setDelay x) (hsound : ∀ x, i ≠ .setSound x) (m : Vm) :
    SameTimers (after (execute i) m) m := by
  -- only two instructions set a timer, and they are excluded
  cases i with
  | setDelay x => exact absurd rfl (hdelay x)
  | setSound x => exact absurd rfl (hsound x)
  | call target =>
    rw [after, execute_call]
    refine sameTimers_tryRegisters fun r hcall => ?_
    rw [Registers.call_eq hcall]
    exact ⟨rfl, rfl⟩
  | ret =>
    rw [after, execute_ret]
    refine sameTimers_tryRegisters fun r hret => ?_
    rw [Registers.ret_eq hret]
    exact ⟨rfl, rfl⟩
  | skipDown x => exact sameTimers_keySkip (execute_skipDown x m)
  | skipUp x => exact sameTimers_keySkip (execute_skipUp x m)
  | skipEqual _ _ | skipUnequal _ _ | skipSame _ _ | skipDifferent _ _ =>
    exact sameTimers_ok (bind_get.trans (skipWhen_apply _ m)) (sameTimers_skip _)
  | awaitKey x =>
    cases hk : m.keypad.firstPressed with
    | none => exact sameTimers_ok (execute_awaitKey_none x hk) ⟨rfl, rfl⟩
    | some key => exact sameTimers_ok (execute_awaitKey_some x hk) ⟨rfl, rfl⟩
  | storeDecimal x =>
    rw [after_conclude (execute_storeDecimal x m)]
    exact ⟨rfl, rfl⟩
  | storeRegisters x =>
    rw [after_conclude (execute_storeRegisters x m)]
    exact ⟨rfl, rfl⟩
  | loadRegisters x =>
    rw [after_conclude (execute_loadRegisters x m)]
    exact sameTimers_halfway m _
  | draw x y rows =>
    cases hmissing : m.missing? rows with
    | none => exact sameTimers_ok (execute_draw x y hmissing) ⟨rfl, rfl⟩
    | some fault => exact sameTimers_error (execute_draw_missing x y hmissing) ⟨rfl, rfl⟩
  | _ => exact ⟨rfl, rfl⟩

/-- A completed cycle changes no timer that its instruction does not set, and a refused one changes none. -/
theorem step_timers (m : Vm) :
    match step m with
    | .ok s m' => (s.operation.setsDelay = false → m'.registers.dt = m.registers.dt)
        ∧ (s.operation.setsSound = false → m'.registers.st = m.registers.st)
    | .error _ m' => SameTimers m' m := by
  have hcycle := step_cycle m
  generalize step m = result at hcycle
  cases hcycle with
  | unfetched hw => exact ⟨rfl, rfl⟩
  | illegal hw hi => exact ⟨rfl, rfl⟩
  | refused hw hi hf => exact sameTimers_halfway m.fetched _
  | @completed w i hw hi hf =>
    by_cases hdelay : ∃ x, i = .setDelay x
    · obtain ⟨x, rfl⟩ := hdelay
      exact ⟨nofun, fun _ => rfl⟩
    · by_cases hsound : ∃ x, i = .setSound x
      · obtain ⟨x, rfl⟩ := hsound
        exact ⟨fun _ => rfl, nofun⟩
      · have hsame : SameTimers (m.executed i) m.fetched :=
          execute_sameTimers (fun x h => hdelay ⟨x, h⟩) (fun x h => hsound ⟨x, h⟩) m.fetched
        exact ⟨fun _ => hsame.1, fun _ => hsame.2⟩

end Vm

end Chip8
