import Chip8.ControlLoop
import Chip8.Proofs.Debugger

/-!
# The ways of an iteration

Once the events of its poll are applied, an iteration goes one of seven ways: the loop was ended; in single-step mode,
no instruction was asked for, or the one asked for is completed or refused; in free running, the instruction passes
the breakpoints, or stops at one, or is refused. `Iteration` says for each way what the result is; `iterate_way` that
every iteration goes one of these ways. Nothing else unfolds an iteration.
-/

namespace Chip8

namespace Debugger

/-- The debugger with the report of its state printed. -/
def reported (d : Debugger) : Debugger := d.put (.printed (d.report ++ "\n"))

/-- The debugger with its picture shown, if that may have changed. -/
def shown (d : Debugger) : Debugger :=
  if d.vm.display.dirty then
    { d with vm := { d.vm with display := d.vm.display.markClean } }.put (.shown d.vm.display.pixels)
  else d

theorem shown_eq (d : Debugger) :
    ∃ dirty journal, d.shown = { d with vm := { d.vm with display := { d.vm.display with dirty } }, journal } := by
  unfold shown
  split
  · exact ⟨_, _, rfl⟩
  · exact ⟨d.vm.display.dirty, d.journal, rfl⟩

theorem tick_eq (d : Debugger) : ∃ journal, d.tick = { d with vm := d.vm.tick.1, journal } := by
  simp only [tick]
  split
  · exact ⟨_, rfl⟩
  · exact ⟨_, rfl⟩

end Debugger

/-- How the ticks of the timers go by a clock. -/
structure Pace (τ : Type) where
  due : τ → τ → Bool
  /-- The reading of the last tick. -/
  last : τ
  clock : Source τ

namespace Pace

variable {τ : Type}

/-- Whether a tick is due at the next reading. -/
def strikes (p : Pace τ) : Bool := p.due p.last p.clock.next.1

def next (p : Pace τ) : Pace τ :=
  { p with last := if p.strikes then p.clock.next.1 else p.last, clock := p.clock.next.2 }

end Pace

namespace ControlLoop

open Debugger

variable {τ : Type} {loop loop₁ : ControlLoop τ} {events : List InputEvent} {d : Debugger} {s : Snapshot}
  {fault : Fault}

/-! ## The parts of an iteration -/

def pace (loop : ControlLoop τ) : Pace τ := { due := loop.due, last := loop.lastTick, clock := loop.clock }

/-- The loop after the clock was read, and the timers ticked if that was due. -/
def ticked (loop : ControlLoop τ) : ControlLoop τ :=
  { loop with
    lastTick := loop.pace.next.last
    clock := loop.pace.next.clock
    debugger := if loop.pace.strikes then loop.debugger.tick else loop.debugger }

/-- The loop at the end of an iteration in which it was not ended. -/
def finished (loop : ControlLoop τ) : ControlLoop τ :=
  { loop.ticked with debugger := loop.ticked.debugger.shown }

def finish : Action τ Bool := do
  tickTimers
  present
  return (← get).running

def proceed : Action τ Bool := do
  if !(← get).running then
    return false
  if (← get).singleStep then runSingle else runFree
  finish

theorem iterate_eq (events : List InputEvent) (loop : ControlLoop τ) :
    iterate events loop = (handleAll events >>= fun _ => proceed) loop := rfl

theorem tickTimers_eq (loop : ControlLoop τ) : tickTimers loop = .ok () loop.ticked := by
  show EStateM.Result.ok () (if loop.pace.strikes then _ else _) = _
  simp only [ticked, Pace.next]
  split
  · rfl
  · rfl

theorem debugging_ok {α : Type} {action : Debugger.Action α} {a : α} (h : action loop.debugger = .ok a d) :
    debugging action loop = .ok a { loop with debugger := d } := by
  rw [debugging, h]

theorem debugging_error {α : Type} {action : Debugger.Action α} (h : action loop.debugger = .error fault d) :
    debugging action loop = .error fault { loop with debugger := d } := by
  rw [debugging, h]

theorem runFree_eq (loop : ControlLoop τ) : runFree loop = match stepAndCheck loop.debugger with
    | .ok true d =>
      .ok () { loop with debugger := (d.note (.stopped d.vm.registers.pc)).reported, singleStep := true }
    | .ok false d => .ok () { loop with debugger := d }
    | .error fault d => .error fault { loop with debugger := d } := by
  cases h : stepAndCheck loop.debugger with
  | ok met d =>
    cases met with
    | true => exact bind_ok (debugging_ok h)
    | false => exact bind_ok (debugging_ok h)
  | error fault d => exact bind_error (debugging_error h)

theorem runSingle_idle (h : loop.debugger.stepRequested = false) : runSingle loop = .ok () loop := by
  have hrun : runSingle loop = _ := bind_get
  rw [consumeStep, h] at hrun
  rw [hrun]
  show EStateM.Result.ok () { loop with debugger := { loop.debugger with stepRequested := false } } = _
  rw [← h]

theorem runSingle_asked (h : loop.debugger.stepRequested = true) :
    runSingle loop = match stepInstruction loop.debugger.consumeStep.2 with
    | .ok _ d => .ok () { loop with debugger := d.reported }
    | .error fault d => .error fault { loop with debugger := d } := by
  have hrun : runSingle loop = (debugging stepInstruction >>= fun _ => printReport)
      { loop with debugger := loop.debugger.consumeStep.2 } := by
    have hget : runSingle loop = _ := bind_get
    rw [consumeStep, h] at hget
    exact hget
  rw [hrun]
  cases hi : stepInstruction loop.debugger.consumeStep.2 with
  | ok s d => exact bind_ok (debugging_ok hi)
  | error fault d => exact bind_error (debugging_error hi)

/-! ## The ways -/

/-- The ways that an iteration can go once its events are applied, each with its result. -/
inductive Iteration (loop : ControlLoop τ) : EStateM.Result Fault (ControlLoop τ) Bool → Prop where
  /-- The loop was ended. -/
  | ended (hr : loop.running = false) : Iteration loop (.ok false loop)
  /-- No instruction was asked for. -/
  | waiting (hr : loop.running = true) (hs : loop.singleStep = true) (hreq : loop.debugger.stepRequested = false) :
    Iteration loop (.ok true loop.finished)
  /-- The instruction asked for is completed. -/
  | stepped {s : Snapshot} {d : Debugger} (hr : loop.running = true) (hs : loop.singleStep = true)
    (hreq : loop.debugger.stepRequested = true) (hd : stepInstruction loop.debugger.consumeStep.2 = .ok s d) :
    Iteration loop (.ok true { loop with debugger := d.reported }.finished)
  /-- The instruction asked for is refused. -/
  | stepRefused {fault : Fault} {d : Debugger} (hr : loop.running = true) (hs : loop.singleStep = true)
    (hreq : loop.debugger.stepRequested = true) (hd : stepInstruction loop.debugger.consumeStep.2 = .error fault d) :
    Iteration loop (.error fault { loop with debugger := d })
  /-- The instruction passes the breakpoints. -/
  | passed {d : Debugger} (hr : loop.running = true) (hs : loop.singleStep = false)
    (hd : stepAndCheck loop.debugger = .ok false d) :
    Iteration loop (.ok true { loop with debugger := d }.finished)
  /-- The instruction meets a breakpoint. -/
  | stopped {d : Debugger} (hr : loop.running = true) (hs : loop.singleStep = false)
    (hd : stepAndCheck loop.debugger = .ok true d) :
    Iteration loop (.ok true
      { loop with debugger := (d.note (.stopped d.vm.registers.pc)).reported, singleStep := true }.finished)
  /-- The instruction is refused. -/
  | refused {fault : Fault} {d : Debugger} (hr : loop.running = true) (hs : loop.singleStep = false)
    (hd : stepAndCheck loop.debugger = .error fault d) :
    Iteration loop (.error fault { loop with debugger := d })

theorem proceed_ended (hr : loop.running = false) : proceed loop = .ok false loop := by
  have hrun : proceed loop = _ := bind_get
  rw [hr] at hrun
  exact hrun

theorem finish_eq (loop : ControlLoop τ) : finish loop = .ok loop.running loop.finished :=
  bind_ok (tickTimers_eq loop)

/-- The loop runs an instruction as its mode says, and goes on from there. -/
theorem proceed_running (hr : loop.running = true) :
    proceed loop = ((if loop.singleStep then runSingle else runFree) >>= fun _ => finish) loop := by
  have hrun : proceed loop = _ := bind_get
  rw [hr] at hrun
  rw [hrun]
  refine Eq.trans bind_get ?_
  cases loop.singleStep with
  | true => rfl
  | false => rfl

theorem proceed_single (hr : loop.running = true) (hs : loop.singleStep = true) :
    proceed loop = (runSingle >>= fun _ => finish) loop := by
  rw [proceed_running hr, if_pos hs]

theorem proceed_free (hr : loop.running = true) (hs : loop.singleStep = false) :
    proceed loop = (runFree >>= fun _ => finish) loop := by
  rw [proceed_running hr, if_neg (Bool.eq_false_iff.mp hs)]

theorem finish_running (hr : loop.running = true) : finish loop = .ok true loop.finished := by
  rw [finish_eq, hr]

theorem proceed_waiting (hr : loop.running = true) (hs : loop.singleStep = true)
    (hreq : loop.debugger.stepRequested = false) : proceed loop = .ok true loop.finished := by
  rw [proceed_single hr hs, bind_ok (runSingle_idle hreq), finish_running hr]

theorem proceed_stepped (hr : loop.running = true) (hs : loop.singleStep = true)
    (hreq : loop.debugger.stepRequested = true) (hd : stepInstruction loop.debugger.consumeStep.2 = .ok s d) :
    proceed loop = .ok true { loop with debugger := d.reported }.finished := by
  have hrun := runSingle_asked hreq
  rw [hd] at hrun
  rw [proceed_single hr hs, bind_ok hrun]
  exact finish_running hr

theorem proceed_stepRefused (hr : loop.running = true) (hs : loop.singleStep = true)
    (hreq : loop.debugger.stepRequested = true) (hd : stepInstruction loop.debugger.consumeStep.2 = .error fault d) :
    proceed loop = .error fault { loop with debugger := d } := by
  have hrun := runSingle_asked hreq
  rw [hd] at hrun
  rw [proceed_single hr hs, bind_error hrun]

theorem proceed_passed (hr : loop.running = true) (hs : loop.singleStep = false)
    (hd : stepAndCheck loop.debugger = .ok false d) :
    proceed loop = .ok true { loop with debugger := d }.finished := by
  have hrun := loop.runFree_eq
  rw [hd] at hrun
  rw [proceed_free hr hs, bind_ok hrun]
  exact finish_running hr

theorem proceed_stopped (hr : loop.running = true) (hs : loop.singleStep = false)
    (hd : stepAndCheck loop.debugger = .ok true d) : proceed loop = .ok true
      { loop with debugger := (d.note (.stopped d.vm.registers.pc)).reported, singleStep := true }.finished := by
  have hrun := loop.runFree_eq
  rw [hd] at hrun
  rw [proceed_free hr hs, bind_ok hrun]
  exact finish_running hr

theorem proceed_refused (hr : loop.running = true) (hs : loop.singleStep = false)
    (hd : stepAndCheck loop.debugger = .error fault d) : proceed loop = .error fault { loop with debugger := d } := by
  have hrun := loop.runFree_eq
  rw [hd] at hrun
  rw [proceed_free hr hs, bind_error hrun]

theorem iterate_way (h : handleAll events loop = .ok () loop₁) : Iteration loop₁ (iterate events loop) := by
  rw [iterate_eq, bind_ok h]
  -- by what decides the way, in the order in which it is asked: the loop, its mode, the request, the step
  cases hr : loop₁.running with
  | false =>
    rw [proceed_ended hr]
    exact .ended hr
  | true =>
    cases hs : loop₁.singleStep with
    | false =>
      cases hd : stepAndCheck loop₁.debugger with
      | error fault d =>
        rw [proceed_refused hr hs hd]
        exact .refused hr hs hd
      | ok met d =>
        cases met with
        | true =>
          rw [proceed_stopped hr hs hd]
          exact .stopped hr hs hd
        | false =>
          rw [proceed_passed hr hs hd]
          exact .passed hr hs hd
    | true =>
      cases hreq : loop₁.debugger.stepRequested with
      | false =>
        rw [proceed_waiting hr hs hreq]
        exact .waiting hr hs hreq
      | true =>
        cases hd : stepInstruction loop₁.debugger.consumeStep.2 with
        | ok s d =>
          rw [proceed_stepped hr hs hreq hd]
          exact .stepped hr hs hreq hd
        | error fault d =>
          rw [proceed_stepRefused hr hs hreq hd]
          exact .stepRefused hr hs hreq hd

end ControlLoop

end Chip8
