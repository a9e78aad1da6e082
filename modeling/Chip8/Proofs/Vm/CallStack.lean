import Chip8.Proofs.Vm.Reachable

/-!
# Calls and returns

The live return addresses, oldest first, are a list that only calls and returns change: a cycle leaves it as it is,
appends the address after its own, or takes the last one away and goes there. So while the stack stays deeper than
it was before a call, the return address of the call stays where it was put, and the cycle that brings the stack back
to that depth goes to it.

Main statements: `step_callers` (the three ways of a cycle) and `call_returns` (a call is answered by its return).
-/

namespace Chip8

namespace Registers

variable {r r' : Registers} {a back : UInt16} {base : List UInt16}

/-! ## Live return addresses -/

@[simp] theorem callers_length (r : Registers) : r.callers.length = r.sp := by
  have hsp := r.sp.isLt
  simp only [callers, List.length_take, Vector.length_toList]
  omega

theorem callers_getElem? {k : Nat} (h : k < r.sp.val) : r.callers[k]? = r.stack[k]? := by
  rw [callers, List.getElem?_take_of_lt h, Vector.getElem?_toList]

theorem SameStack.callers (h : r.SameStack r') : r'.callers = r.callers := by
  rw [Registers.callers, Registers.callers, h.1, h.2]

theorem callers_push (hsp : r.sp < 16) (hsp' : r'.sp.val = r.sp.val + 1) (hs : r'.stack = r.stack.set r.sp a hsp) :
    r'.callers = r.callers ++ [a] := by
  have hlt : r.sp.val < 16 := hsp
  rw [callers, callers, hsp', hs, Vector.toList_set, List.take_succ_eq_append_getElem (by simpa using hlt),
    List.take_set_of_le (Nat.le_refl _), List.getElem_set_self]

theorem callers_pop {n : Nat} (hn : n < 16) (hsp : r.sp.val = n + 1) (hsp' : r'.sp.val = n)
    (hs : r'.stack = r.stack) : r.callers = r'.callers ++ [r.stack.get ⟨n, hn⟩] := by
  have hlt : n < r.stack.toList.length := by
    rw [Vector.length_toList]
    exact hn
  rw [callers, callers, hsp, hsp', hs, List.take_succ_eq_append_getElem hlt]
  rfl

/-! ## What a cycle does to them -/

/-- How the live return addresses change: not at all, by the address of the next instruction coming on top, or by the
top one going to the program counter. -/
inductive Called (r r' : Registers) : Prop where
  | keep (h : r'.callers = r.callers)
  | push (h : r'.callers = r.callers ++ [r.pc + instructionLength])
  | pop (h : r.callers = r'.callers ++ [r'.pc])

theorem Called.of_flow (h : Flow r.advance r') : Called r r' := by
  cases h with
  | next _ hs | skip _ hs | wait _ hs | goto _ hs => exact .keep hs.callers
  | call _ hsp hsp' hs => exact .push (callers_push hsp hsp' hs)
  | ret hsp hsp' hpc hs =>
    have hpop := callers_pop (by omega) hsp hsp' hs
    rw [← hpc] at hpop
    exact .pop hpop

/-- Return addresses stay while the stack is deeper than they reach. -/
theorem Called.keeps (h : Called r r') (hpre : base <+: r.callers) (hdeep : base.length ≤ r'.sp) :
    base <+: r'.callers := by
  cases h with
  | keep h =>
    rw [h]
    exact hpre
  | push h =>
    rw [h]
    exact hpre.trans (List.prefix_append _ _)
  | pop h =>
    rw [h] at hpre
    exact List.prefix_of_prefix_length_le hpre (List.prefix_append _ _) (by rw [callers_length]; exact hdeep)

/-- If the stack comes down to below a return address, that is where the program goes on. -/
theorem Called.returns (h : Called r r') (hpre : base ++ [back] <+: r.callers) (hback : r'.sp = base.length) :
    r'.pc = back ∧ r'.callers = base := by
  have hlength := hpre.length_le
  rw [List.length_append, List.length_singleton] at hlength
  have hlength' : r'.callers.length = base.length := by rw [callers_length, hback]
  cases h with
  | keep h =>
    rw [h] at hlength'
    omega
  | push h =>
    rw [h, List.length_append] at hlength'
    omega
  | pop h =>
    rw [h] at hpre
    have heq := hpre.eq_of_length (by simp only [List.length_append, List.length_singleton, hlength'])
    obtain ⟨hbase, htop⟩ := List.append_inj heq hlength'.symm
    exact ⟨(List.singleton_inj.mp htop).symm, hbase.symm⟩

end Registers

namespace Vm

open Registers

variable {m m₁ : Vm} {s : Snapshot}

/-- A cycle, completed or refused, keeps the return addresses, pushes the one after its own, or pops one. -/
theorem step_callers (m : Vm) : Called m.registers (after step m).registers := by
  have hcycle := step_cycle m
  generalize hrun : step m = result at hcycle
  cases hcycle with
  | unfetched hw =>
    rw [after_error hrun]
    exact .keep rfl
  | illegal hw hi =>
    rw [after_error hrun]
    exact .keep rfl
  | refused hw hi hf =>
    rw [after_error hrun, halfway, setAll_eq]
    exact .keep rfl
  | completed hw hi hf =>
    rw [after_ok hrun]
    exact .of_flow (execute_flow _ m.fetched)

/-- Acts from outside, starting over apart, leave the registers but for the timers. -/
theorem act_callers (m : Vm) {a : Act} (ha : a ≠ .reset) : Called m.registers (m.act a).registers := by
  cases a with
  | step => exact step_callers m
  | reset => exact absurd rfl ha
  | tick | setKey _ _ | releaseKeys | load _ _ | write _ _ => exact .keep rfl

theorem eq_call_of_pattern {i : Instruction} (h : i.pattern = "2NNN") : ∃ target, i = .call target := by
  cases i with
  | call target => exact ⟨target, rfl⟩
  | _ => exact absurd h (by simp [Instruction.pattern])

/-- A completed call puts the address of the instruction after it on top. -/
theorem callers_of_call (h : step m = .ok s m₁) (hs : s.operation.pattern = "2NNN") :
    m₁.registers.callers = m.registers.callers ++ [m.registers.pc + instructionLength] := by
  obtain ⟨w, i, -, -, hf, hsnapshot, hm⟩ := step_ok h
  have hpattern : i.pattern = "2NNN" := by
    rw [hsnapshot] at hs
    exact hs
  obtain ⟨target, rfl⟩ := eq_call_of_pattern hpattern
  have hroom : m.registers.sp < 16 := by
    apply sp_lt_of_ne
    intro hfull
    have hfault : m.refusal? (.call target) = some .stackOverflow := if_pos hfull
    rw [hfault] at hf
    cases hf
  have hrun : execute (.call target) m.fetched = _ :=
    (execute_call target m.fetched).trans (tryRegisters_ok (call_room (r := m.fetched.registers) hroom))
  rw [hm, completed, executed, after_ok hrun]
  exact callers_push (r := m.fetched.registers) hroom rfl rfl

/-- Return addresses stay through acts during which the stack stays deeper than they reach. -/
theorem acts_keep {base : List UInt16} {list : List Act} (hreset : Act.reset ∉ list)
    (hpre : base <+: m.registers.callers)
    (hdeep : ∀ n < list.length, base.length ≤ (m.acts (list.take (n + 1))).registers.sp) :
    base <+: (m.acts list).registers.callers := by
  induction list generalizing m with
  | nil => exact hpre
  | cons a list ih =>
    have ha : a ≠ .reset := fun he => hreset (by rw [he]; exact List.mem_cons_self)
    have hfirst : base <+: (m.act a).registers.callers :=
      (act_callers m ha).keeps hpre (hdeep 0 (Nat.zero_lt_succ _))
    exact ih (fun h => hreset (List.mem_cons_of_mem a h)) hfirst fun n hn => hdeep (n + 1) (Nat.succ_lt_succ hn)

/-- After a call, whatever is done short of starting over: if the stack stays deeper than before the call until a
cycle brings it back to that depth, then this cycle leads to the instruction after the call, and the return addresses
of the calls around it are what they were. -/
theorem call_returns (hcall : step m = .ok s m₁) (hs : s.operation.pattern = "2NNN") {list : List Act}
    (hreset : Act.reset ∉ list)
    (hdeep : ∀ n < list.length, m.registers.sp < (m₁.acts (list.take (n + 1))).registers.sp)
    (hback : (after step (m₁.acts list)).registers.sp = m.registers.sp) :
    (after step (m₁.acts list)).registers.pc = m.registers.pc + 2
      ∧ ∀ k < m.registers.sp.val, (after step (m₁.acts list)).registers.stack[k]? = m.registers.stack[k]? := by
  -- the callers with the address after the call on top stay at the bottom of the stack
  have hpre : m.registers.callers ++ [m.registers.pc + instructionLength] <+: (m₁.acts list).registers.callers := by
    refine acts_keep hreset ⟨[], by rw [List.append_nil, callers_of_call hcall hs]⟩ fun n hn => ?_
    rw [List.length_append, callers_length, List.length_singleton]
    exact hdeep n hn
  obtain ⟨hpc, hcallers⟩ := (step_callers (m₁.acts list)).returns hpre (by rw [callers_length, hback])
  -- below the depth the stack is what the callers are
  refine ⟨hpc, fun k hk => ?_⟩
  rw [← callers_getElem? hk, ← hcallers, callers_getElem? (by rw [hback]; exact hk)]

/-- A machine with one call open, about to call a routine that calls another one, which starts with a word that is
no instruction. -/
def calling : Vm :=
  { registers := { pc := 0, sp := 1, stack := (Vector.replicate 16 0).setIfInBounds 0 0x0ABC }
    memory := { cells := #[0x20, 0x04, 0, 0, 0x20, 0x08, 0x00, 0xEE, 0xFF, 0xFF, 0x00, 0xEE] }, random := .constant 0 }

/-- The inner call, a key, the refused cycle, a tick, and the inner return; the next cycle is the outer return. -/
def nested : List Act := [.step, .setKey 3 true, .step, .tick, .step]

theorem call_returns_nested : ∃ s m₁, step calling = .ok s m₁ ∧ s.operation.pattern = "2NNN"
    ∧ (after step (m₁.acts nested)).registers.pc = 2
    ∧ (after step (m₁.acts nested)).registers.stack[0]? = some 0x0ABC := by
  have hcall : step calling = .ok (calling.snapshot 0x2004 (.call 4)) (calling.completed (.call 4)) :=
    step_completed rfl rfl rfl
  have hdeep : ∀ n < nested.length,
      calling.registers.sp < ((calling.completed (.call 4)).acts (nested.take (n + 1))).registers.sp := by
    decide +kernel
  have hback : (after step ((calling.completed (.call 4)).acts nested)).registers.sp = calling.registers.sp := by
    decide +kernel
  obtain ⟨hpc, hstack⟩ := call_returns hcall rfl (by simp [nested]) hdeep hback
  exact ⟨_, _, hcall, rfl, hpc, hstack 0 (by decide)⟩

end Vm

end Chip8
