import Chip8.Proofs.ControlLoop.Iteration

/-!
# Free running and runs of the debugger

A loop in free running, to which nothing happens from outside, does what a run of the debugger does: its iterations
are the steps of the run, it enters single-step mode where the run stops, stays there, and is refused where the run is
refused. "The same" leaves out what a run cannot show: the journal, and whether the picture counts as shown, since the
loop shows it and the run does not.

Main statement: `idle_run`.
-/

namespace Chip8

namespace Debugger.SameRun

variable {d e : Debugger}

theorem shown (h : SameRun d e) : SameRun d e.shown := by
  obtain ⟨dirty, journal, hshown⟩ := e.shown_eq
  rw [hshown]
  exact ⟨h.machine.trans (.of_dirty e.vm dirty), by rw [h.rest]⟩

theorem reported (h : SameRun d e) : SameRun d e.reported := h.put _

theorem note (h : SameRun d e) (n : Notice) : SameRun d (e.note n) := h.put _

end Debugger.SameRun

namespace ControlLoop

open Debugger

variable {τ : Type} {loop loop₁ : ControlLoop τ} {d d₁ : Debugger} {fault : Fault}

/-- So many iterations without events. -/
def idle : (n : Nat) → Action τ Unit
  | 0 => return
  | n + 1 => do
    let _ ← iterate []
    idle n

theorem idle_succ {n : Nat} {goesOn : Bool} (h : iterate [] loop = .ok goesOn loop₁) :
    idle (n + 1) loop = idle n loop₁ := bind_ok h

/-- Iterations after the first `a` start from where these led. -/
theorem idle_add {a : Nat} (h : idle a loop = .ok () loop₁) (b : Nat) : idle (a + b) loop = idle b loop₁ := by
  induction a generalizing loop with
  | zero =>
    cases h
    rw [Nat.zero_add]
  | succ a ih =>
    rw [Nat.succ_add]
    cases hfirst : iterate [] loop with
    | ok goesOn loop₂ =>
      rw [idle_succ hfirst] at h ⊢
      exact ih h
    | error fault loop₂ =>
      -- a refused iteration is no part of a row that was completed
      have hidle : idle (a + 1) loop = .error fault loop₂ := bind_error hfirst
      rw [hidle] at h
      cases h

/-! ## Loops that stand where a debugger does -/

/-- The loop is running, and no tick falls due from now on. -/
structure Calm (loop : ControlLoop τ) : Prop where
  running : loop.running = true
  noTick : ∀ k, loop.clock.taken ≤ k → loop.due loop.lastTick (loop.clock.item k) = false

theorem Calm.strikes (h : Calm loop) : loop.pace.strikes = false := h.noTick _ (Nat.le_refl _)

theorem Calm.finished (h : Calm loop) : Calm loop.finished := by
  have hlast : loop.finished.lastTick = loop.lastTick := by
    show (if loop.pace.strikes then _ else _) = _
    rw [h.strikes]
    rfl
  refine ⟨h.running, fun k hk => ?_⟩
  rw [hlast]
  exact h.noTick k (Nat.le_of_succ_le hk)

/-- Without a tick, the end of an iteration shows the picture, and that is all. -/
theorem Calm.finished_debugger (h : Calm loop) : loop.finished.debugger = loop.debugger.shown := by
  show (if loop.pace.strikes then loop.debugger.tick else loop.debugger).shown = _
  rw [h.strikes]
  rfl

/-- The loop stands where the debugger does, in the given mode. -/
structure Mirrors (d : Debugger) (singleStep : Bool) (loop : ControlLoop τ) : Prop where
  calm : Calm loop
  mode : loop.singleStep = singleStep
  debugger : SameRun d loop.debugger

namespace Mirrors

theorem finished {singleStep : Bool} (h : Mirrors d singleStep loop) : Mirrors d singleStep loop.finished :=
  ⟨h.calm.finished, h.mode, by rw [h.calm.finished_debugger]; exact h.debugger.shown⟩

/-! ## One iteration -/

/-- A step that passes the breakpoints of the debugger passes those of the loop. -/
theorem passed (h : Mirrors d false loop) (hstep : stepAndCheck d = .ok false d₁) :
    ∃ loop₁, iterate [] loop = .ok true loop₁ ∧ Mirrors d₁ false loop₁ := by
  obtain ⟨e, he, hd⟩ := (stepAndCheck_sameRun h.debugger).of_ok hstep
  have hmirror : Mirrors d₁ false { loop with debugger := e } := ⟨⟨h.calm.running, h.calm.noTick⟩, h.mode, hd⟩
  exact ⟨_, proceed_passed h.calm.running h.mode he, hmirror.finished⟩

/-- A step that meets a breakpoint takes the loop to single-step mode. -/
theorem stopped (h : Mirrors d false loop) (hstep : stepAndCheck d = .ok true d₁) :
    ∃ loop₁, iterate [] loop = .ok true loop₁ ∧ Mirrors d₁ true loop₁ := by
  obtain ⟨e, he, hd⟩ := (stepAndCheck_sameRun h.debugger).of_ok hstep
  have hmirror : Mirrors d₁ true
      { loop with debugger := (e.note (.stopped e.vm.registers.pc)).reported, singleStep := true } :=
    ⟨⟨h.calm.running, h.calm.noTick⟩, rfl, (hd.note _).reported⟩
  exact ⟨_, proceed_stopped h.calm.running h.mode he, hmirror.finished⟩

theorem refused (h : Mirrors d false loop) (hstep : stepAndCheck d = .error fault d₁) :
    ∃ loop₁, iterate [] loop = .error fault loop₁ ∧ SameRun d₁ loop₁.debugger := by
  obtain ⟨e, he, hd⟩ := (stepAndCheck_sameRun h.debugger).of_error hstep
  exact ⟨_, proceed_refused h.calm.running h.mode he, hd⟩

/-- In single-step mode nothing is asked for, so nothing runs. -/
theorem waited (h : Mirrors d true loop) : ∃ loop₁, iterate [] loop = .ok true loop₁ ∧ Mirrors d true loop₁ :=
  ⟨_, proceed_waiting h.calm.running h.mode h.debugger.stepRequested, h.finished⟩

/-! ## Many iterations -/

theorem passes {n : Nat} (h : Mirrors d false loop) (hpasses : Passes n d d₁) :
    ∃ loop₁, idle n loop = .ok () loop₁ ∧ Mirrors d₁ false loop₁ := by
  induction hpasses generalizing loop with
  | zero d => exact ⟨loop, rfl, h⟩
  | succ hstep _ ih =>
    obtain ⟨loop₁, hfirst, hmirror⟩ := h.passed hstep
    obtain ⟨loop₂, hrest, hmirror⟩ := ih hmirror
    exact ⟨loop₂, (idle_succ hfirst).trans hrest, hmirror⟩

theorem waits (h : Mirrors d true loop) (n : Nat) : ∃ loop₁, idle n loop = .ok () loop₁ ∧ Mirrors d true loop₁ := by
  induction n generalizing loop with
  | zero => exact ⟨loop, rfl, h⟩
  | succ n ih =>
    obtain ⟨loop₁, hfirst, hmirror⟩ := h.waited
    obtain ⟨loop₂, hrest, hmirror⟩ := ih hmirror
    exact ⟨loop₂, (idle_succ hfirst).trans hrest, hmirror⟩

end Mirrors

/-- A run of the debugger and a loop in free running over a debugger that goes on like its own, with no events and no
tick due. If the run stops at a breakpoint after `n` steps, the loop enters single-step mode in iteration `n` and
stands for ever where the run stopped; if the run reaches its limit, the loop stands where the run does after that many
iterations, still in free running; and if the run is refused after `n` completed steps, the loop is refused in the
iteration after that, for the same reason and in the same place. A run without a limit that stops is one whose limit
is the number of its steps. -/
theorem idle_run (limit : Nat) (hrunning : loop.running = true) (hfree : loop.singleStep = false)
    (hcalm : ∀ k, loop.clock.taken ≤ k → loop.due loop.lastTick (loop.clock.item k) = false)
    (hsame : SameRun d loop.debugger) :
    (∀ n d', Debugger.run limit d = .ok (.hit n) d' →
      (∀ k < n, ∃ loop', idle k loop = .ok () loop' ∧ loop'.singleStep = false)
        ∧ ∀ k ≥ n, ∃ loop', idle k loop = .ok () loop' ∧ loop'.singleStep = true ∧ SameRun d' loop'.debugger)
    ∧ (∀ n d', Debugger.run limit d = .ok (.limit n) d' →
      n = limit ∧ ∃ loop', idle n loop = .ok () loop' ∧ loop'.singleStep = false ∧ SameRun d' loop'.debugger)
    ∧ ∀ fault d', Debugger.run limit d = .error fault d' → ∃ n loop' loop'', d'.vm.cycles = d.vm.cycles + n
      ∧ idle n loop = .ok () loop' ∧ loop'.singleStep = false
      ∧ iterate [] loop' = .error fault loop'' ∧ SameRun d' loop''.debugger := by
  have h : Mirrors d false loop := ⟨⟨hrunning, hcalm⟩, hfree, hsame⟩
  refine ⟨fun n d' hrun => ?_, fun n d' hrun => ?_, fun fault d' hrun => ?_⟩
  · obtain ⟨i, d₁, d₂, rfl, rfl, hpasses, hstep⟩ := run_hit hrun
    obtain ⟨loop₁, hidle, hmirror⟩ := h.passes hpasses
    obtain ⟨loop₂, hiterate, hmirror⟩ := hmirror.stopped hstep
    refine ⟨fun k hk => ?_, fun k hk => ?_⟩
    · -- the iterations before are steps that passed
      obtain ⟨d₃, hpasses⟩ := hpasses.of_le (Nat.le_of_lt_succ hk)
      obtain ⟨loop₃, hidle, hmirror⟩ := h.passes hpasses
      exact ⟨loop₃, hidle, hmirror.mode⟩
    · -- the iterations after are spent waiting
      obtain ⟨j, rfl⟩ := Nat.exists_eq_add_of_le hk
      obtain ⟨loop₃, hwaits, hmirror⟩ := hmirror.waits j
      refine ⟨loop₃, ?_, hmirror.mode, hmirror.debugger.put_left _⟩
      calc idle (i + 1 + j) loop
        _ = idle (j + 1) loop₁ := by rw [Nat.add_assoc, Nat.add_comm 1 j, idle_add hidle]
        _ = idle j loop₂ := idle_succ hiterate
        _ = .ok () loop₃ := hwaits
  -- all steps passed, and so did the iterations
  · obtain ⟨rfl, hpasses⟩ := run_limit hrun
    obtain ⟨loop₁, hidle, hmirror⟩ := h.passes hpasses
    exact ⟨rfl, loop₁, hidle, hmirror.mode, hmirror.debugger⟩
  -- the steps before the refused one passed, and the next iteration is refused with it
  · obtain ⟨i, d₁, hpasses, hstep⟩ := run_refused hrun
    obtain ⟨loop₁, hidle, hmirror⟩ := h.passes hpasses
    obtain ⟨loop₂, hiterate, hsame⟩ := hmirror.refused hstep
    have hcycles := stepAndCheck_cycles d₁
    rw [hstep] at hcycles
    exact ⟨i, loop₁, loop₂, hcycles.trans hpasses.cycles, hidle, hmirror.mode, hiterate, hsame⟩

/-- A machine about to put bytes into two registers, watched for the instruction after that. -/
def watched : Debugger :=
  { vm := {
      registers := { pc := 0 }
      memory := { cells := #[0x60, 1, 0x61, 2, 0x00, 0xE0] }
      random := .constant 0 }
    breakpoints := [{ kind := .pcMatch, value := some 4 }]
    before := {}
    capacity := standardCapacity }

/-- A loop over it, with a clock that stands. -/
def watching : ControlLoop Nat :=
  .new watched false (fun last now => last + 1 ≤ now) (.constant 0) (.constant none) "memory.dmp"

/-- The run stops after two of its five steps, and the loop is still in single-step mode after seven iterations. -/
theorem idle_run_watching : ∃ d' loop', Debugger.run 5 watched = .ok (.hit 2) d'
    ∧ idle 7 watching = .ok () loop' ∧ loop'.singleStep = true ∧ SameRun d' loop'.debugger := by
  have hsame : SameRun watched watching.debugger := .refl rfl
  have hrunning : watching.running = true := rfl
  have h := idle_run 5 hrunning rfl (fun _ _ => rfl) hsame
  have hstop : (match Debugger.run 5 watched with
      | .ok stop _ => some stop
      | .error _ _ => none) = some (.hit 2) := by
    decide +kernel
  cases hrun : Debugger.run 5 watched with
  | error fault d' =>
    rw [hrun] at hstop
    cases hstop
  | ok stop d' =>
    rw [hrun] at hstop
    cases hstop
    obtain ⟨loop', hidle, hmode, hsame⟩ := (h.1 2 d' hrun).2 7 (by decide)
    exact ⟨d', loop', rfl, hidle, hmode, hsame⟩

end ControlLoop

end Chip8
