import Chip8.Proofs.ControlLoop.Events
import Chip8.Proofs.ControlLoop.Iteration

/-!
# The instructions of a run

Polls are iterated over whatever comes of them: an iteration may be refused, or find the loop ended, and the next one
goes on from there. `instructions` lists the instructions that are run on the way, those that are refused among them.
`Turn` says what an iteration can do, by what it runs: nothing, the instruction asked for in single-step mode, or the
next one in free running. What is true of whole runs is proved from it by induction on the polls.

Main statements: `iterate_turn`, `instructions_completed`.
-/

namespace Chip8

namespace Debugger

/-- What everything in an iteration leaves alone, apart from its events and its instruction. -/
structure Stands (d d' : Debugger) : Prop where
  pc : d'.vm.registers.pc = d.vm.registers.pc
  cycles : d'.vm.cycles = d.vm.cycles
  breakpoints : d'.breakpoints = d.breakpoints
  stepRequested : d'.stepRequested = d.stepRequested
  latest : d'.latest = d.latest

namespace Stands

variable {d d₁ d₂ : Debugger}

theorem trans (h : Stands d d₁) (h' : Stands d₁ d₂) : Stands d d₂ :=
  ⟨h'.pc.trans h.pc, h'.cycles.trans h.cycles, h'.breakpoints.trans h.breakpoints,
    h'.stepRequested.trans h.stepRequested, h'.latest.trans h.latest⟩

theorem tick (d : Debugger) : Stands d d.tick := by
  obtain ⟨journal, htick⟩ := d.tick_eq
  rw [htick]
  exact ⟨rfl, rfl, rfl, rfl, rfl⟩

theorem shown (d : Debugger) : Stands d d.shown := by
  obtain ⟨dirty, journal, hshown⟩ := d.shown_eq
  rw [hshown]
  exact ⟨rfl, rfl, rfl, rfl, rfl⟩

end Stands

theorem started_stands (d : Debugger) : Stands d d.started := by
  obtain ⟨journal, hstarted⟩ := d.started_eq
  rw [hstarted]
  exact ⟨rfl, rfl, rfl, rfl, rfl⟩

end Debugger

namespace ControlLoop

open Debugger

variable {τ : Type} {loop loop' heard : ControlLoop τ} {events : List InputEvent}
  {polls more : List (List InputEvent)}

/-- An instruction that was run: where it stood, whether in single-step mode, and whether it was completed. -/
structure Ran where
  address : UInt16
  singleStep : Bool
  completed : Bool
  deriving DecidableEq, Repr

/-- The instruction that an iteration ran once its events were applied, if it ran one, by how it ended: the count of
cycles tells whether one was completed, and nothing but an instruction can be refused. -/
def ranBy? (loop : ControlLoop τ) : EStateM.Result Fault (ControlLoop τ) Bool → Option Ran
  | .error _ _ =>
    some { address := loop.debugger.vm.registers.pc, singleStep := loop.singleStep, completed := false }
  | .ok _ loop' =>
    if loop'.debugger.vm.cycles = loop.debugger.vm.cycles then none
    else some { address := loop.debugger.vm.registers.pc, singleStep := loop.singleStep, completed := true }

/-- The instruction that an iteration runs, if it runs one. -/
def ran? (loop : ControlLoop τ) (events : List InputEvent) : Option Ran :=
  match handleAll events loop with
  | .error _ _ => none
  | .ok _ heard => heard.ranBy? (iterate events loop)

def polled (loop : ControlLoop τ) (polls : List (List InputEvent)) : ControlLoop τ :=
  polls.foldl (fun loop events => endState (iterate events) loop) loop

/-- The instructions run over polls, in order. -/
def instructions (loop : ControlLoop τ) : (polls : List (List InputEvent)) → List Ran
  | [] => []
  | events :: polls => (loop.ran? events).toList ++ (endState (iterate events) loop).instructions polls

/-! ## One iteration -/

/-- What an iteration can do, by what it runs. -/
inductive Turn (loop : ControlLoop τ) (events : List InputEvent) (loop' : ControlLoop τ) : Option Ran → Prop where
  /-- Nothing is run. -/
  | idle (hpc : loop'.debugger.vm.registers.pc = loop.debugger.vm.registers.pc)
    (hcycles : loop'.debugger.vm.cycles = loop.debugger.vm.cycles)
    (hbreakpoints : loop'.debugger.breakpoints = loop.debugger.breakpoints)
    (hmode : loop'.singleStep = loop.singleStep)
    (hrequest : loop'.debugger.stepRequested = true → loop.debugger.stepRequested = true ∨ .step ∈ events) :
    Turn loop events loop' none
  /-- The instruction asked for is run, and the request is gone. -/
  | single (completed : Bool)
    (hmode : loop.singleStep = true) (hmode' : loop'.singleStep = true)
    (hcycles : loop'.debugger.vm.cycles = loop.debugger.vm.cycles + completed.toNat)
    (hbreakpoints : loop'.debugger.breakpoints = loop.debugger.breakpoints)
    (hasked : loop.debugger.stepRequested = true ∨ .step ∈ events)
    (hrequest : loop'.debugger.stepRequested = false) :
    Turn loop events loop' (some { address := loop.debugger.vm.registers.pc, singleStep := loop.singleStep, completed })
  /-- The next instruction is run, and if it is completed and the loop still runs freely, it led to no breakpoint. -/
  | free (completed : Bool)
    (hmode : loop.singleStep = false)
    (hcycles : loop'.debugger.vm.cycles = loop.debugger.vm.cycles + completed.toNat)
    (hbreakpoints : loop'.debugger.breakpoints = loop.debugger.breakpoints)
    (hrequest : loop'.debugger.stepRequested = true → loop.debugger.stepRequested = true ∨ .step ∈ events)
    (hchecked : completed = true → loop'.singleStep = false →
      loop.debugger.stopsAt loop'.debugger.vm.registers.pc.toNat = false) :
    Turn loop events loop' (some { address := loop.debugger.vm.registers.pc, singleStep := loop.singleStep, completed })

theorem finished_stands (loop : ControlLoop τ) : Stands loop.debugger loop.finished.debugger := by
  have hfinished : loop.finished.debugger
      = (if loop.pace.strikes then loop.debugger.tick else loop.debugger).shown := rfl
  rw [hfinished]
  split
  · exact (Stands.tick _).trans (.shown _)
  · exact .shown _

theorem stepInstruction_ran (d : Debugger) : match stepInstruction d with
    | .ok s d' => d'.vm.cycles = d.vm.cycles + 1 ∧ d'.breakpoints = d.breakpoints
      ∧ d'.stepRequested = d.stepRequested ∧ d'.vm.registers.pc = s.registers.pc
    | .error _ d' => d'.vm.cycles = d.vm.cycles ∧ d'.breakpoints = d.breakpoints
      ∧ d'.stepRequested = d.stepRequested := by
  have hstarted := d.started_stands
  have hcycles := Vm.step_cycles d.vm
  rw [stepInstruction_eq]
  cases hstep : Vm.step d.vm with
  | ok s vm =>
    obtain ⟨w, i, -, -, -, rfl, rfl⟩ := Vm.step_ok hstep
    rw [hstep] at hcycles
    exact ⟨hcycles, hstarted.breakpoints, hstarted.stepRequested, rfl⟩
  | error fault vm =>
    rw [hstep] at hcycles
    exact ⟨hcycles, hstarted.breakpoints, hstarted.stepRequested⟩

theorem stepAndCheck_ran (d : Debugger) : match stepAndCheck d with
    | .ok met d' => d'.vm.cycles = d.vm.cycles + 1 ∧ d'.breakpoints = d.breakpoints
      ∧ d'.stepRequested = d.stepRequested ∧ (met = false → d.stopsAt d'.vm.registers.pc.toNat = false)
    | .error _ d' => d'.vm.cycles = d.vm.cycles ∧ d'.breakpoints = d.breakpoints
      ∧ d'.stepRequested = d.stepRequested := by
  have hran := stepInstruction_ran d
  rw [stepAndCheck_instruction]
  cases hd : stepInstruction d with
  | ok s d' =>
    rw [hd] at hran
    obtain ⟨hcycles, hbreakpoints, hrequest, hpc⟩ := hran
    refine ⟨hcycles, hbreakpoints, hrequest, fun hmet => ?_⟩
    have hstops : d'.stopsAt s.registers.pc.toNat = false := (Bool.or_eq_false_iff.mp hmet).2
    rw [hpc, ← stopsAt_congr hbreakpoints]
    exact hstops
  | error fault d' =>
    rw [hd] at hran
    exact hran

theorem ranBy?_completed {goesOn : Bool} (h : loop'.debugger.vm.cycles = loop.debugger.vm.cycles + 1) :
    loop.ranBy? (.ok goesOn loop')
      = some { address := loop.debugger.vm.registers.pc, singleStep := loop.singleStep, completed := true } := by
  rw [ranBy?, if_neg]
  rw [h]
  exact Nat.succ_ne_self _

theorem Iteration.turn {result : EStateM.Result Fault (ControlLoop τ) Bool} (h : Iteration loop result) :
    Turn loop [] (stateOf result) (loop.ranBy? result) := by
  -- one turn for each way that an iteration can go; whether it counted tells if its instruction was completed
  cases h with
  | ended hr =>
    rw [ranBy?, if_pos rfl]
    exact .idle rfl rfl rfl rfl .inl
  | waiting hr hs hreq =>
    have hfinished := loop.finished_stands
    rw [ranBy?, if_pos hfinished.cycles]
    exact .idle hfinished.pc hfinished.cycles hfinished.breakpoints rfl fun hasked =>
      .inl (hfinished.stepRequested.symm.trans hasked)
  | @stepped s d hr hs hreq hd =>
    have hran := stepInstruction_ran loop.debugger.consumeStep.2
    rw [hd] at hran
    obtain ⟨hcycles, hbreakpoints, hrequest, -⟩ := hran
    have hfinished := finished_stands { loop with debugger := d.reported }
    have hcount := hfinished.cycles.trans hcycles
    rw [ranBy?_completed hcount]
    exact .single true hs hs hcount (hfinished.breakpoints.trans hbreakpoints) (.inl hreq)
      (hfinished.stepRequested.trans hrequest)
  | @stepRefused fault d hr hs hreq hd =>
    have hran := stepInstruction_ran loop.debugger.consumeStep.2
    rw [hd] at hran
    obtain ⟨hcycles, hbreakpoints, hrequest⟩ := hran
    exact .single false hs hs hcycles hbreakpoints (.inl hreq) hrequest
  | @passed d hr hs hd =>
    have hran := stepAndCheck_ran loop.debugger
    rw [hd] at hran
    obtain ⟨hcycles, hbreakpoints, hrequest, hchecked⟩ := hran
    have hfinished := finished_stands { loop with debugger := d }
    have hcount := hfinished.cycles.trans hcycles
    rw [ranBy?_completed hcount]
    refine .free true hs hcount (hfinished.breakpoints.trans hbreakpoints) (fun hasked => ?_) fun _ _ => ?_
    · exact .inl ((hfinished.stepRequested.trans hrequest).symm.trans hasked)
    · rw [stateOf, hfinished.pc]
      exact hchecked rfl
  | @stopped d hr hs hd =>
    have hran := stepAndCheck_ran loop.debugger
    rw [hd] at hran
    obtain ⟨hcycles, hbreakpoints, hrequest, -⟩ := hran
    have hfinished := finished_stands
      { loop with debugger := (d.note (.stopped d.vm.registers.pc)).reported, singleStep := true }
    have hcount := hfinished.cycles.trans hcycles
    rw [ranBy?_completed hcount]
    refine .free true hs hcount (hfinished.breakpoints.trans hbreakpoints) (fun hasked => ?_) fun _ hmode => ?_
    · exact .inl ((hfinished.stepRequested.trans hrequest).symm.trans hasked)
    · -- the loop does not run freely any more
      cases hmode
  | @refused fault d hr hs hd =>
    have hran := stepAndCheck_ran loop.debugger
    rw [hd] at hran
    obtain ⟨hcycles, hbreakpoints, hrequest⟩ := hran
    exact .free false hs hcycles hbreakpoints (fun hasked => .inl (hrequest.symm.trans hasked)) nofun

theorem Touched.turn {ran : Option Ran} (h : Touched loop events heard) (ht : Turn heard [] loop' ran) :
    Turn loop events loop' ran := by
  obtain ⟨keypad, hvm⟩ := h.vm
  have hpc : heard.debugger.vm.registers.pc = loop.debugger.vm.registers.pc := by rw [hvm]
  have hrequested : heard.debugger.stepRequested = true ∨ .step ∈ ([] : List InputEvent) →
      loop.debugger.stepRequested = true ∨ .step ∈ events := fun hasked =>
    h.request (hasked.resolve_right List.not_mem_nil)
  cases ht with
  | idle hpc' hcycles' hbreakpoints hmode hrequest =>
    exact .idle (hpc'.trans hpc) (hcycles'.trans h.cycles) (hbreakpoints.trans h.breakpoints) (hmode.trans h.mode)
      fun hasked => hrequested (hrequest hasked)
  | single completed hmode hmode' hcycles' hbreakpoints hasked hrequest =>
    rw [h.cycles] at hcycles'
    rw [hpc, h.mode]
    exact .single completed (h.mode.symm.trans hmode) hmode' hcycles' (hbreakpoints.trans h.breakpoints)
      (hrequested hasked) hrequest
  | free completed hmode hcycles' hbreakpoints hrequest hchecked =>
    rw [h.cycles] at hcycles'
    rw [hpc, h.mode]
    exact .free completed (h.mode.symm.trans hmode) hcycles' (hbreakpoints.trans h.breakpoints)
      (fun hasked => hrequested (hrequest hasked)) fun hcompleted hfree => by
        rw [← stopsAt_congr h.breakpoints]
        exact hchecked hcompleted hfree

/-- Every iteration is one of the turns. -/
theorem iterate_turn (events : List InputEvent) (loop : ControlLoop τ) :
    Turn loop events (endState (iterate events) loop) (loop.ran? events) := by
  have htouched := handleAll_touched events loop
  unfold ran?
  cases hhandle : handleAll events loop with
  | error fault heard =>
    have hrun : iterate events loop = .error fault heard := bind_error hhandle
    rw [endState_error hhandle] at htouched
    rw [endState_error hrun]
    exact htouched.turn (.idle rfl rfl rfl rfl .inl)
  | ok _ heard =>
    rw [endState_ok hhandle] at htouched
    exact htouched.turn (iterate_way hhandle).turn

/-! ## Runs -/

/-- The completed instructions are those that the count of cycles counts. -/
theorem instructions_completed (polls : List (List InputEvent)) (loop : ControlLoop τ) :
    (loop.polled polls).debugger.vm.cycles
      = loop.debugger.vm.cycles + (loop.instructions polls).countP Ran.completed := by
  induction polls generalizing loop with
  | nil => rfl
  | cons events polls ih =>
    have hturn := iterate_turn events loop
    have hrest := ih (endState (iterate events) loop)
    show ((endState (iterate events) loop).polled polls).debugger.vm.cycles = _
    rw [hrest, instructions, List.countP_append, ← Nat.add_assoc]
    congr 1
    generalize loop.ran? events = ran at hturn
    cases hturn with
    | idle hpc hcycles => exact hcycles
    | single completed hmode hmode' hcycles => cases completed <;> exact hcycles
    | free completed hmode hcycles => cases completed <;> exact hcycles

end ControlLoop

end Chip8
