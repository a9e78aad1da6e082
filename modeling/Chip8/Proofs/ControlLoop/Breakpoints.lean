import Chip8.Proofs.ControlLoop.Instructions
import Mathlib.Data.List.Chain

/-!
# Free running and the breakpoints it meets

In free running a breakpoint is looked for after an instruction, where that one led. So an instruction that stands at
a breakpoint is never run freely right after one that was completed. It can be run freely where nothing was completed
just before it: at the very start, and after a refused instruction.

Main statements: `instructions_checked`, `free_at_breakpoint`.
-/

namespace Chip8.ControlLoop

open Debugger

variable {τ : Type} {loop loop' : ControlLoop τ} {ran before after : List Ran} {r : Ran} {b : Breakpoint}
  {events : List InputEvent} {polls : List (List InputEvent)}

/-- An instruction is run next by a loop: it stands where the loop does, and is not run freely in single-step mode. -/
def Ran.Next (loop : ControlLoop τ) (r : Ran) : Prop :=
  r.address = loop.debugger.vm.registers.pc ∧ (loop.singleStep = true → r.singleStep = true)

/-- One instruction may follow another: it is not run freely at one of the breakpoints, unless the other was refused. -/
def Ran.MayFollow (d : Debugger) (p r : Ran) : Prop :=
  r.singleStep = false → d.stopsAt r.address.toNat = true → p.completed = false

/-! ## One iteration -/

theorem Turn.breakpoints {o : Option Ran} (h : Turn loop events loop' o) :
    loop'.debugger.breakpoints = loop.debugger.breakpoints := by
  cases h with
  | idle hpc hcycles hbreakpoints => exact hbreakpoints
  | single completed hmode hmode' hcycles hbreakpoints => exact hbreakpoints
  | free completed hmode hcycles hbreakpoints => exact hbreakpoints

theorem Turn.next_idle (h : Turn loop events loop' none) (hr : r.Next loop') : r.Next loop := by
  cases h with
  | idle hpc hcycles hbreakpoints hmode => exact ⟨hr.1.trans hpc, fun hsingle => hr.2 (hmode.trans hsingle)⟩

theorem Turn.next_ran (h : Turn loop events loop' (some r)) : r.Next loop := by
  cases h with
  | single completed hmode => exact ⟨rfl, id⟩
  | free completed hmode => exact ⟨rfl, id⟩

theorem Turn.mayFollow {p : Ran} (h : Turn loop events loop' (some p)) (hr : r.Next loop') :
    p.MayFollow loop.debugger r := by
  intro hfree hstops
  have hmode' : loop'.singleStep = false := by
    rw [Bool.eq_false_iff]
    intro hsingle
    rw [hr.2 hsingle] at hfree
    cases hfree
  cases h with
  | single completed hmode hsingle =>
    rw [hmode'] at hsingle
    cases hsingle
  | free completed hmode hcycles hbreakpoints hrequest hchecked =>
    -- a completed instruction was checked where it led, and that is where the next one stands
    cases completed with
    | false => rfl
    | true =>
      rw [hr.1, hchecked rfl hmode'] at hstops
      cases hstops

/-! ## Runs -/

/-- The first instruction of a run is the next one, and each other one may follow the one before it. -/
theorem instructions_checked (polls : List (List InputEvent)) (loop : ControlLoop τ) :
    (∀ r ∈ (loop.instructions polls).head?, r.Next loop)
      ∧ (loop.instructions polls).IsChain (Ran.MayFollow loop.debugger) := by
  -- by induction on the polls; what is next after an iteration is what the first of the rest runs
  induction polls generalizing loop with
  | nil => exact ⟨nofun, .nil⟩
  | cons events polls ih =>
    have hturn := iterate_turn events loop
    obtain ⟨hnext, hchain⟩ := ih (endState (iterate events) loop)
    have hsame : Ran.MayFollow (endState (iterate events) loop).debugger = Ran.MayFollow loop.debugger := by
      funext p r
      rw [Ran.MayFollow, stopsAt_congr hturn.breakpoints, Ran.MayFollow]
    rw [hsame] at hchain
    rw [instructions]
    cases hran : loop.ran? events with
    | none =>
      rw [hran] at hturn
      exact ⟨fun r hr => hturn.next_idle (hnext r hr), hchain⟩
    | some p =>
      rw [hran] at hturn
      refine ⟨fun r hr => ?_, List.isChain_cons.mpr ⟨fun r hr => hturn.mayFollow (hnext r hr), hchain⟩⟩
      cases hr
      exact hturn.next_ran

/-- An instruction that stands at an enabled breakpoint and is run freely is the first of its run, where the loop
stood, or comes right after one that was refused. -/
theorem free_at_breakpoint (hrun : loop.instructions polls = before ++ r :: after) (hfree : r.singleStep = false)
    (hb : b ∈ loop.debugger.breakpoints) (henabled : b.enabled = true) (hkind : b.kind = .pcMatch)
    (hvalue : b.value = some (r.address.toNat : Int)) :
    before = [] ∧ r.address = loop.debugger.vm.registers.pc
      ∨ ∃ p, before.getLast? = some p ∧ p.completed = false := by
  have hstops : loop.debugger.stopsAt r.address.toNat = true := by
    rw [stopsAt, List.any_eq_true]
    refine ⟨b, hb, ?_⟩
    rw [Breakpoint.isAt, henabled, hkind, hvalue]
    simp
  obtain ⟨hnext, hchain⟩ := instructions_checked polls loop
  rw [hrun] at hnext hchain
  rcases List.eq_nil_or_concat' before with rfl | ⟨earlier, p, rfl⟩
  · exact .inl ⟨rfl, (hnext r rfl).1⟩
  · refine .inr ⟨p, List.getLast?_concat, ?_⟩
    rw [List.append_assoc] at hchain
    have hfollows : p.MayFollow loop.debugger r := (List.isChain_append_cons_cons.mp hchain).2.1
    exact hfollows hfree hstops

/-- A loop over a machine that stands at a breakpoint, puts a byte into a register, and comes back. -/
def returning : ControlLoop Nat :=
  .new
    { vm := {
        registers := { pc := 0 }
        memory := { cells := #[0x60, 5, 0x10, 0] }
        random := .constant 0 }
      breakpoints := [{ kind := .pcMatch, value := some 0 }]
      before := {}
      capacity := standardCapacity }
    false (fun last now => last + 1 ≤ now) (.constant 0) (.constant none) "memory.dmp"

/-- The first instruction is run freely; back there, the loop waits, and runs it on request. -/
theorem free_at_breakpoint_returning :
    returning.instructions [[], [], [], [.step]] = [⟨0, false, true⟩, ⟨2, false, true⟩, ⟨0, true, true⟩]
    ∧ (⟨0, false, true⟩ : Ran).address = returning.debugger.vm.registers.pc := by
  have hrun : returning.instructions [[], [], [], [.step]]
      = [] ++ ⟨0, false, true⟩ :: [⟨2, false, true⟩, ⟨0, true, true⟩] := by
    decide +kernel
  refine ⟨hrun, ?_⟩
  rcases free_at_breakpoint hrun rfl List.mem_cons_self rfl rfl rfl with ⟨-, haddress⟩ | ⟨p, hp, -⟩
  · exact haddress
  · cases hp

/-- A breakpoint where the machine stands when its loop is made does not stop it: the instruction there is run freely.
-/
theorem start_not_checked : returning.singleStep = false ∧ returning.instructions [[]] = [⟨0, false, true⟩]
    ∧ { kind := .pcMatch, value := some 0 } ∈ returning.debugger.breakpoints := by
  decide +kernel

end Chip8.ControlLoop
