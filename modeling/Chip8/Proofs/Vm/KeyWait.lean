import Chip8.Proofs.Vm.Destination
import Chip8.Proofs.Vm.Reachable
import Chip8.Proofs.Vm.Timers
import Mathlib.Data.List.OfFn

/-!
# Waiting for a key

An instruction that waits for a key leads back to itself while no key is down. It can wait for any number of cycles:
they are counted, and nothing else is different after them. In the meantime ticks lower the timers and keys go down and
up, and that is all they do. The first cycle that finds keys down puts the least of them into the register and goes on.

Main statement: `acts_awaitKey`.
-/

namespace Chip8

theorem Keypad.firstPressed_eq_some_iff {k : Keypad} {key : Nibble} :
    k.firstPressed = some key ↔ k.down.entry key = true ∧ ∀ j < key, k.down.entry j = false := by
  have hleast := List.find?_ofFn_eq_some_of_injective (p := k.down.entry) (i := key) Function.injective_id
  simp only [Bool.not_eq_true] at hleast
  exact hleast

namespace Vm

/-! ## Acts during a wait -/

namespace Act

def isStep : Act → Bool
  | .step => true
  | _ => false

def isTick : Act → Bool
  | .tick => true
  | _ => false

/-- The act can come while a program waits: a cycle, a tick, or a key going down or up. -/
def meanwhile : Act → Bool
  | .step | .tick | .setKey _ _ | .releaseKeys => true
  | .reset | .load _ _ | .write _ _ => false

def pad (k : Keypad) : Act → Keypad
  | .setKey key pressed => (k.set key pressed).toOption.getD k
  | .reset | .releaseKeys => .released
  | .step | .tick | .load _ _ | .write _ _ => k

end Act

variable {m m' m₁ m₂ : Vm} {w : UInt16} {x key : Nibble} {a : Act} {list list₁ list₂ before : List Act}

/-- At none of the cycles among the acts a key is down. -/
def Unanswered (m : Vm) (list : List Act) : Prop :=
  ∀ before, before ++ [.step] <+: list → (m.acts before).keypad.pressed = []

theorem unanswered_nil (m : Vm) : m.Unanswered [] := fun _ h => by simp at h

theorem unanswered_cons :
    m.Unanswered (a :: list) ↔ (a = .step → m.keypad.pressed = []) ∧ (m.act a).Unanswered list := by
  constructor
  · intro h
    refine ⟨?_, fun before hbefore => h (a :: before) (List.cons_prefix_cons.mpr ⟨rfl, hbefore⟩)⟩
    rintro rfl
    exact h [] (List.prefix_append [Act.step] list)
  · rintro ⟨hnow, hlater⟩ before hbefore
    cases before with
    | nil => exact hnow (List.cons_prefix_cons.mp hbefore).1.symm
    | cons b before =>
      obtain ⟨rfl, hrest⟩ := List.cons_prefix_cons.mp hbefore
      exact hlater before hrest

/-- All that acts during a wait change: each tick lowers the timers, key events change the pad, and the cycles are
counted. -/
structure Waited (m : Vm) (list : List Act) (m' : Vm) : Prop where
  delay : m'.registers.dt.toNat = m.registers.dt.toNat - list.countP Act.isTick
  sound : m'.registers.st.toNat = m.registers.st.toNat - list.countP Act.isTick
  registers : m'.registers = { m.registers with dt := m'.registers.dt, st := m'.registers.st }
  keypad : m'.keypad = list.foldl Act.pad m.keypad
  memory : m'.memory = { m.memory with log := m'.memory.log }
  rest : m' = { m with
    registers := m'.registers
    memory := m'.memory
    keypad := m'.keypad
    cycles := m.cycles + list.countP Act.isStep }

namespace Waited

theorem refl (m : Vm) : Waited m [] m := ⟨rfl, rfl, rfl, rfl, rfl, rfl⟩

theorem trans (h₁ : Waited m list₁ m₁) (h₂ : Waited m₁ list₂ m₂) : Waited m (list₁ ++ list₂) m₂ where
  delay := by rw [h₂.delay, h₁.delay, List.countP_append, Nat.sub_sub]
  sound := by rw [h₂.sound, h₁.sound, List.countP_append, Nat.sub_sub]
  registers := by rw [h₂.registers, h₁.registers]
  keypad := by rw [h₂.keypad, h₁.keypad, List.foldl_append]
  memory := by rw [h₂.memory, h₁.memory]
  rest := by rw [h₂.rest, h₁.rest, List.countP_append, Nat.add_assoc]

theorem word? (h : Waited m list m') : m'.word? = m.word? := by
  rw [word?_eq_block, word?_eq_block, h.memory, h.registers]

theorem sameRegisters (h : Waited m list m') (hticks : list.countP Act.isTick = 0) : m'.registers = m.registers := by
  have hdelay := h.delay
  have hsound := h.sound
  rw [hticks, Nat.sub_zero, UInt8.toNat_inj] at hdelay hsound
  rw [h.registers, hdelay, hsound]

end Waited

/-! ## Single cycles -/

/-- A waiting cycle is completed and only counts: going back undoes that the fetch went on, wherever the instruction
stands. -/
theorem step_waiting (hw : m.word? = some w) (hi : Instruction.ofWord? w = some (.awaitKey x))
    (hup : m.keypad.pressed = []) : ∃ s, step m = .ok s { m.cleared with cycles := m.cycles + 1 } := by
  have hrun : execute (.awaitKey x) m.fetched = .ok () { m.fetched with registers := m.registers.advance.rewind } :=
    execute_awaitKey_none x (m := m.fetched) (pressed_eq_nil_iff.mp hup)
  have hback : m.registers.advance.rewind = m.registers := by
    have hpc : m.registers.pc + 2 - 2 = m.registers.pc := UInt16.add_sub_cancel m.registers.pc 2
    show { m.registers with pc := m.registers.pc + 2 - 2 } = m.registers
    rw [hpc]
  have hcompleted : m.completed (.awaitKey x) = { m.cleared with cycles := m.cycles + 1 } := by
    rw [completed, executed, after_ok hrun, hback]
    rfl
  exact ⟨_, by rw [← hcompleted]; exact step_completed hw hi rfl⟩

/-- A cycle that finds keys down puts the least of them into the register, and goes on. -/
theorem step_answered (hw : m.word? = some w) (hi : Instruction.ofWord? w = some (.awaitKey x))
    (hkey : m.keypad.firstPressed = some key) : ∃ s, step m = .ok s { m.cleared with
      registers := { m.registers.set x (UInt8.ofNat key) with pc := m.registers.pc + 2 }
      cycles := m.cycles + 1 } := by
  have hrun := execute_awaitKey_some x (m := m.fetched) hkey
  have hcompleted : m.completed (.awaitKey x) = { m.cleared with
      registers := { m.registers.set x (UInt8.ofNat key) with pc := m.registers.pc + 2 }
      cycles := m.cycles + 1 } := by
    rw [completed, executed, after_ok hrun]
    rfl
  exact ⟨_, by rw [← hcompleted]; exact step_completed hw hi rfl⟩

/-! ## Waiting -/

theorem waited_act (hw : m.word? = some w) (hi : Instruction.ofWord? w = some (.awaitKey x)) (ha : a.meanwhile)
    (hup : a = .step → m.keypad.pressed = []) : Waited m [a] (m.act a) := by
  cases a with
  | step =>
    obtain ⟨s, hstep⟩ := step_waiting hw hi (hup rfl)
    rw [act, after_ok hstep]
    exact ⟨rfl, rfl, rfl, rfl, rfl, rfl⟩
  | tick => exact ⟨lowered_toNat m.registers.dt, lowered_toNat m.registers.st, rfl, rfl, rfl, rfl⟩
  | setKey _ _ | releaseKeys => exact ⟨rfl, rfl, rfl, rfl, rfl, rfl⟩
  | reset | load _ _ | write _ _ => cases ha

/-- What acts do during a wait, by induction on the acts: after each of them the machine still waits. -/
theorem waited_acts (hw : m.word? = some w) (hi : Instruction.ofWord? w = some (.awaitKey x))
    (hlist : ∀ a ∈ list, a.meanwhile) (hup : m.Unanswered list) : Waited m list (m.acts list) := by
  induction list generalizing m with
  | nil => exact .refl m
  | cons a list ih =>
    obtain ⟨hnow, hlater⟩ := unanswered_cons.mp hup
    have hact := waited_act hw hi (hlist a List.mem_cons_self) hnow
    exact hact.trans (ih (hact.word?.trans hw) (fun a ha => hlist a (List.mem_cons_of_mem _ ha)) hlater)

theorem Unanswered.initial (h : m.Unanswered list) (hbefore : before <+: list) : m.Unanswered before :=
  fun earlier hearlier => h earlier (hearlier.trans hbefore)

theorem acts_append (m : Vm) (list₁ list₂ : List Act) : m.acts (list₁ ++ list₂) = (m.acts list₁).acts list₂ :=
  List.foldl_append

theorem pad_cycles (k : Keypad) (n : Nat) : (List.replicate n Act.step).foldl Act.pad k = k := by
  induction n with
  | zero => rfl
  | succ n ih => exact ih

/-- A machine waits for a key, and at none of its cycles one is down. Then every cycle is completed, and all acts
together only lower the timers with the ticks, change the pad with the key events and count the cycles. Cycles alone
only count. The first cycle with keys down puts the least of them into the register, goes on to the next instruction
and changes no other register. -/
theorem acts_awaitKey (hw : m.word? = some w) (hi : Instruction.ofWord? w = some (.awaitKey x))
    (hlist : ∀ a ∈ list, a.meanwhile) (hup : m.Unanswered list) :
    (∀ before, before ++ [.step] <+: list →
        ∃ s, step (m.acts before) = .ok s (m.acts (before ++ [.step])))
      ∧ Waited m list (m.acts list)
      ∧ (∀ n, list = List.replicate n .step →
        m.acts list = { m with
          memory := { m.memory with log := (m.acts list).memory.log }
          cycles := m.cycles + n })
      ∧ ((m.acts list).keypad.pressed ≠ [] → ∃ s key,
        (m.acts list).keypad.down.entry key = true
          ∧ (∀ j < key, (m.acts list).keypad.down.entry j = false)
          ∧ step (m.acts list) = .ok s { (m.acts list).cleared with
              registers := { (m.acts list).registers.set x (UInt8.ofNat key) with pc := m.registers.pc + 2 }
              cycles := m.cycles + list.countP Act.isStep + 1 }) := by
  have hwaited := waited_acts hw hi hlist hup
  refine ⟨?_, hwaited, ?_, ?_⟩
  -- up to each cycle the wait has lasted, so that cycle is one more of it
  · intro before hcycle
    have hbefore : before <+: list := (List.prefix_append before [.step]).trans hcycle
    have hwaiting := waited_acts hw hi (fun a ha => hlist a (hbefore.subset ha)) (hup.initial hbefore)
    obtain ⟨s, hstep⟩ := step_waiting (hwaiting.word?.trans hw) hi (hup before hcycle)
    refine ⟨s, ?_⟩
    rw [acts_append]
    show _ = EStateM.Result.ok s (after step (m.acts before))
    rw [after_ok hstep, hstep]
  -- nothing but cycles: no tick, and no key event
  · rintro n rfl
    have hticks : (List.replicate n Act.step).countP Act.isTick = 0 := by simp [List.countP_replicate, Act.isTick]
    have hsteps : (List.replicate n Act.step).countP Act.isStep = n := by simp [List.countP_replicate, Act.isStep]
    have hrest := hwaited.rest
    rw [hwaited.sameRegisters hticks, hwaited.keypad, pad_cycles, hsteps, hwaited.memory] at hrest
    exact hrest
  -- the machine still stands at the instruction, and now finds a key down
  · intro hdown
    obtain ⟨key, hkey⟩ := Option.ne_none_iff_exists'.mp (fun h => hdown (pressed_eq_nil_iff.mpr h))
    obtain ⟨s, hstep⟩ := step_answered (hwaited.word?.trans hw) hi hkey
    have hleast := Keypad.firstPressed_eq_some_iff.mp hkey
    have hpc : (m.acts list).registers.pc = m.registers.pc := congrArg (·.pc) hwaited.registers
    have hcycles : (m.acts list).cycles = m.cycles + list.countP Act.isStep := congrArg (·.cycles) hwaited.rest
    rw [hpc, hcycles] at hstep
    exact ⟨s, key, hleast.1, hleast.2, hstep⟩

/-- A machine that waits for a key at an odd address, with both timers running. -/
def awaiting : Vm :=
  { registers := { pc := 1, dt := 2, st := 1 }, memory := { cells := #[0, 0xF3, 0x0A] }, random := .constant 0 }

/-- It waits twice with a tick in between, then two keys go down, and the lesser one is taken. -/
theorem acts_awaitKey_awaiting :
    ∃ s m', step (awaiting.acts [.step, .tick, .step, .setKey 5 true, .setKey 2 true]) = .ok s m'
      ∧ m'.registers.get 3 = 2 ∧ m'.registers.pc = 3 ∧ m'.registers.dt = 1 ∧ m'.cycles = 3 := by
  have hup : awaiting.Unanswered [.step, .tick, .step, .setKey 5 true, .setKey 2 true] := by
    simp only [unanswered_cons, unanswered_nil, reduceCtorEq, forall_const, false_imp_iff, true_and, and_true]
    decide +kernel
  obtain ⟨-, -, -, hanswered⟩ := acts_awaitKey (w := 0xF30A) (x := 3) rfl rfl (by decide) hup
  obtain ⟨s, key, hdown, hleast, hstep⟩ := hanswered (by decide +kernel)
  have hkey : (awaiting.acts [.step, .tick, .step, .setKey 5 true, .setKey 2 true]).keypad.firstPressed = some 2 := by
    decide +kernel
  obtain rfl : key = 2 := Option.some_inj.mp ((Keypad.firstPressed_eq_some_iff.mpr ⟨hdown, hleast⟩).symm.trans hkey)
  exact ⟨s, _, hstep, rfl, rfl, by decide +kernel, rfl⟩

end Vm

end Chip8
