import Chip8.Proofs.ControlLoop.Instructions

/-!
# Single-step mode pays for its instructions

In single-step mode every instruction takes a request, and every request an event. So from the moment that the loop is
in this mode, it runs no more instructions than there are events that ask for a step, refused instructions counted as
well; a request can be left over from before, though, since free running keeps the ones that it is given and does not
use them. At most one instruction is run on the strength of those.

Main statements: `single_paid` (one iteration), `instructions_paid` (a run), `singleStep_paid`.
-/

namespace Chip8.ControlLoop

variable {τ : Type} {loop loop' : ControlLoop τ} {ran : Option Ran} {events : List InputEvent}
  {polls before more : List (List InputEvent)}

/-- The instructions that the loop owes to requests not used yet: one, if there are any. -/
def owed (loop : ControlLoop τ) : Nat := loop.debugger.stepRequested.toNat

theorem owed_le_one (loop : ControlLoop τ) : loop.owed ≤ 1 := Bool.toNat_le _

theorem owed_eq_zero (h : loop.debugger.stepRequested = false) : loop.owed = 0 := by rw [owed, h]; rfl

theorem one_le_asked (h : loop.debugger.stepRequested = true ∨ .step ∈ events) :
    1 ≤ loop.owed + events.count .step := by
  rcases h with hbefore | hstep
  · rw [owed, hbefore]
    exact Nat.le_add_right 1 _
  · exact Nat.le_add_left_of_le (List.count_pos_iff.mpr hstep)

theorem owed_le (h : loop'.debugger.stepRequested = true → loop.debugger.stepRequested = true ∨ .step ∈ events) :
    loop'.owed ≤ loop.owed + events.count .step := by
  cases hasked : loop'.debugger.stepRequested with
  | false =>
    rw [owed_eq_zero hasked]
    exact Nat.zero_le _
  | true => exact Nat.le_trans loop'.owed_le_one (one_le_asked (h hasked))

/-! ## One iteration -/

theorem Turn.request (h : Turn loop events loop' ran) :
    loop'.debugger.stepRequested = true → loop.debugger.stepRequested = true ∨ .step ∈ events := by
  cases h with
  | idle hpc hcycles hbreakpoints hmode hrequest => exact hrequest
  | single completed hmode hmode' hcycles hbreakpoints hasked hrequest => exact fun _ => hasked
  | free completed hmode hcycles hbreakpoints hrequest => exact hrequest

/-- In single-step mode, what is run and what is owed afterwards was owed before or asked for; and the mode stays. -/
theorem Turn.single_paid (h : Turn loop events loop' ran) (hsingle : loop.singleStep = true) :
    loop'.singleStep = true ∧ ran.toList.length + loop'.owed ≤ loop.owed + events.count .step := by
  cases h with
  | idle hpc hcycles hbreakpoints hmode hrequest =>
    refine ⟨hmode.trans hsingle, ?_⟩
    rw [Option.toList_none, List.length_nil, Nat.zero_add]
    exact owed_le hrequest
  | single completed hmode hmode' hcycles hbreakpoints hasked hrequest =>
    refine ⟨hmode', ?_⟩
    rw [owed_eq_zero hrequest, Option.toList_some, List.length_singleton]
    exact one_le_asked hasked
  | free completed hmode =>
    rw [hsingle] at hmode
    cases hmode

theorem single_paid (events : List InputEvent) (hsingle : loop.singleStep = true) :
    (endState (iterate events) loop).singleStep = true
      ∧ (loop.ran? events).toList.length + (endState (iterate events) loop).owed ≤ loop.owed + events.count .step :=
  (iterate_turn events loop).single_paid hsingle

/-! ## Runs -/

theorem instructions_paid (polls : List (List InputEvent)) (hsingle : loop.singleStep = true) :
    (loop.instructions polls).length + (loop.polled polls).owed ≤ loop.owed + polls.flatten.count .step := by
  induction polls generalizing loop with
  | nil =>
    show 0 + loop.owed ≤ loop.owed + 0
    omega
  | cons events polls ih =>
    obtain ⟨hsingle', hpaid⟩ := single_paid events hsingle
    -- one poll pays for its own instruction and hands on what is still owed
    have hrest := ih hsingle'
    have hsteps : (events :: polls).flatten.count .step = events.count .step + polls.flatten.count .step := by
      rw [List.flatten_cons]
      exact List.count_append
    have hlength : (loop.instructions (events :: polls)).length
        = (loop.ran? events).toList.length + ((endState (iterate events) loop).instructions polls).length :=
      List.length_append
    show _ + ((endState (iterate events) loop).polled polls).owed ≤ _
    omega

theorem polled_request (h : (loop.polled polls).debugger.stepRequested = true) :
    loop.debugger.stepRequested = true ∨ .step ∈ polls.flatten := by
  induction polls generalizing loop with
  | nil => exact .inl h
  | cons events polls ih =>
    rw [List.flatten_cons, List.mem_append, ← or_assoc]
    exact (ih h).imp_left (iterate_turn events loop).request

/-- A loop that starts without a request, and the polls `before` and `more` of a run. If the loop is in single-step mode
after `before`, it runs no more instructions over `more` than `more` has events that ask for a step, plus one if there
was such an event already in `before`. -/
theorem singleStep_paid (hrequest : loop.debugger.stepRequested = false)
    (hsingle : (loop.polled before).singleStep = true) :
    ((loop.polled before).instructions more).length
      ≤ more.flatten.count .step + if .step ∈ before.flatten then 1 else 0 := by
  have hpaid := instructions_paid more hsingle
  have howed : (loop.polled before).owed ≤ if .step ∈ before.flatten then 1 else 0 := by
    split
    · exact owed_le_one _
    · next hnone =>
      have hnot : (loop.polled before).debugger.stepRequested = false := by
        rw [Bool.eq_false_iff]
        intro hasked
        rcases polled_request hasked with hfirst | hstep
        · rw [hrequest] at hfirst
          cases hfirst
        · exact hnone hstep
      exact Nat.le_of_eq (owed_eq_zero hnot)
  omega

/-- A loop over a machine about to put a byte into a register, to raise it for ever, with a breakpoint after the first
instruction. -/
def raising : ControlLoop Nat :=
  .new
    { vm := {
        registers := { pc := 0 }
        memory := { cells := #[0x60, 5, 0x70, 1, 0x10, 2] }
        random := .constant 0 }
      breakpoints := [{ kind := .pcMatch, value := some 2 }]
      before := {}
      capacity := Debugger.standardCapacity }
    false (fun last now => last + 1 ≤ now) (.constant 0) (.constant none) "memory.dmp"

/-- Stopped by the breakpoint, the loop runs two instructions for two events, over five polls. -/
theorem singleStep_paid_raising : (raising.polled [[]]).singleStep = true
    ∧ ((raising.polled [[]]).instructions [[], [.step], [], [.step], []]).length ≤ 2 := by
  have hsingle : (raising.polled [[]]).singleStep = true := by decide +kernel
  exact ⟨hsingle, singleStep_paid rfl hsingle⟩

/-- A step asked for while the loop runs freely is taken later: the poll after the breakpoint has no events at all, and
still an instruction is run. -/
theorem request_outlives_freeRun : raising.debugger.stepRequested = false
    ∧ (raising.polled [[.step]]).singleStep = true
    ∧ ((raising.polled [[.step]]).instructions [[]]).length = 1
    ∧ ([[]] : List (List InputEvent)).flatten.count .step = 0 := by
  decide +kernel

end Chip8.ControlLoop
