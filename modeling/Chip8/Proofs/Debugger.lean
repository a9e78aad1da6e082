import Chip8.Debugger
import Chip8.Proofs.Vm.Picture

/-!
# Runs of the debugger

A step of the debugger is a cycle of its machine that goes on record. A run is a row of steps that pass the
breakpoints, and ends at its limit, at a step that does not pass, or at one that is refused; `Ending` says for each
end what the result is, and nothing else unfolds a run.

Neither the journal nor a pending request nor the flag of the picture has a part in a step: debuggers that are the
same but for these (`SameRun`) go on alike.

Main statements: `run_ending`, `stepAndCheck_sameRun`.
-/

namespace Chip8.Debugger

open Vm

variable {d d' d₁ d₂ e : Debugger} {vm vm' : Vm} {fault : Fault} {n ran limit : Nat}

/-! ## One step -/

/-- The debugger at the start of a cycle: it keeps the registers, and notes the instruction if it can be read. -/
def started (d : Debugger) : Debugger :=
  let d := { d with before := d.vm.registers }
  match d.vm.upcoming? with
  | some operation => d.note (.fetched d.vm.registers.pc operation)
  | none => d

/-- The debugger after a completed cycle. -/
def recorded (d : Debugger) (vm : Vm) (s : Snapshot) : Debugger := { d.started with vm }.record s

/-- Whether a breakpoint is met by what an instruction did or by where it led. -/
def isMet (d : Debugger) (s : Snapshot) : Bool := d.isHit s || d.stopsAt s.registers.pc.toNat

theorem started_eq (d : Debugger) : ∃ journal, d.started = { d with before := d.vm.registers, journal } := by
  simp only [started]
  split
  · exact ⟨_, rfl⟩
  · exact ⟨_, rfl⟩

theorem started_vm (d : Debugger) : d.started.vm = d.vm := by
  obtain ⟨journal, h⟩ := d.started_eq
  rw [h]

theorem onVm_ok {α : Type} {action : Vm.Action α} {a : α} (h : action d.vm = .ok a vm) :
    onVm action d = .ok a { d with vm } := by
  rw [onVm, h]

theorem onVm_error {α : Type} {action : Vm.Action α} (h : action d.vm = .error fault vm) :
    onVm action d = .error fault { d with vm } := by
  rw [onVm, h]

theorem stepInstruction_eq (d : Debugger) : stepInstruction d = match step d.vm with
    | .ok s vm => .ok s (d.recorded vm s)
    | .error fault vm => .error fault { d.started with vm } := by
  have hrun : stepInstruction d = (onVm step >>= fun s => do
      modify (·.record s)
      return s) d.started := rfl
  rw [← d.started_vm]
  cases h : step d.started.vm with
  | ok s vm => exact hrun.trans (bind_ok (onVm_ok h))
  | error fault vm => exact hrun.trans (bind_error (onVm_error h))

theorem stepAndCheck_instruction (d : Debugger) : stepAndCheck d = match stepInstruction d with
    | .ok s d₁ => .ok (d₁.isMet s) d₁
    | .error fault d₁ => .error fault d₁ := by
  cases h : stepInstruction d with
  | ok s d₁ => exact bind_ok h
  | error fault d₁ => exact bind_error h

theorem stepAndCheck_eq (d : Debugger) : stepAndCheck d = match step d.vm with
    | .ok s vm => .ok ((d.recorded vm s).isMet s) (d.recorded vm s)
    | .error fault vm => .error fault { d.started with vm } := by
  rw [stepAndCheck_instruction, stepInstruction_eq]
  cases step d.vm with
  | ok s vm => rfl
  | error fault vm => rfl

theorem isMet_disabled (h : ∀ b ∈ d.breakpoints, b.enabled = false) (s : Snapshot) : d.isMet s = false := by
  simp only [isMet, isHit, stopsAt, Breakpoint.isAt, Bool.or_eq_false_iff, List.any_eq_false]
  constructor
  · intro b hb
    rw [h b hb]
    exact Bool.false_ne_true
  · intro b hb
    rw [h b hb]
    exact Bool.false_ne_true

theorem stopsAt_congr (h : d'.breakpoints = d.breakpoints) (pc : Int) : d'.stopsAt pc = d.stopsAt pc := by
  rw [stopsAt, h, stopsAt]

theorem recorded_breakpoints (d : Debugger) (vm : Vm) (s : Snapshot) :
    (d.recorded vm s).breakpoints = d.breakpoints := by
  obtain ⟨journal, h⟩ := d.started_eq
  rw [recorded, h]
  rfl

theorem stepAndCheck_cycles (d : Debugger) :
    match stepAndCheck d with
    | .ok _ d' => d'.vm.cycles = d.vm.cycles + 1
    | .error _ d' => d'.vm.cycles = d.vm.cycles := by
  have hcycles := step_cycles d.vm
  rw [stepAndCheck_eq]
  generalize step d.vm = result at hcycles
  cases result <;> exact hcycles

/-! ## The pictures shown -/

/-- The pictures shown since the journal was emptied, oldest first. -/
def frames (d : Debugger) : List Picture := d.journal.toList.filterMap Output.shown?

theorem frames_put (d : Debugger) (output : Output) : (d.put output).frames = d.frames ++ output.shown?.toList := by
  show (d.journal.push output).toList.filterMap _ = _
  rw [Array.toList_push, List.filterMap_append]
  cases output <;> rfl

theorem frames_note (d : Debugger) (n : Notice) : (d.note n).frames = d.frames :=
  (d.frames_put _).trans (List.append_nil _)

theorem frames_started (d : Debugger) : d.started.frames = d.frames := by
  simp only [started]
  split
  · exact frames_note _ _
  · rfl

theorem frames_recorded (d : Debugger) (vm : Vm) (s : Snapshot) : (d.recorded vm s).frames = d.frames :=
  d.frames_started

/-! ## Debuggers that go on alike -/

/-- The second debugger goes on like the first one, but without a request for a step: only the journals may differ,
and whether the picture counts as shown. -/
structure SameRun (d e : Debugger) : Prop where
  machine : SamePicture d.vm e.vm
  rest : e = { d with vm := e.vm, stepRequested := false, journal := e.journal }

namespace SameRun

theorem refl (h : d.stepRequested = false) : SameRun d d := ⟨.refl d.vm, by rw [← h]⟩

theorem exists_eq (h : SameRun d e) :
    ∃ vm journal, SamePicture d.vm vm ∧ e = { d with vm, stepRequested := false, journal } :=
  ⟨_, _, h.machine, h.rest⟩

theorem stepRequested (h : SameRun d e) : e.stepRequested = false := by rw [h.rest]

theorem put (h : SameRun d e) (output : Output) : SameRun d (e.put output) :=
  ⟨h.machine, by rw [Debugger.put, h.rest]⟩

theorem put_left (h : SameRun d e) (output : Output) : SameRun (d.put output) e := ⟨h.machine, h.rest⟩

theorem onMachine (h : SameRun d e) (hvm : SamePicture vm vm') : SameRun { d with vm } { e with vm := vm' } :=
  ⟨hvm, by rw [h.rest]⟩

theorem started (h : SameRun d e) : SameRun d.started e.started := by
  obtain ⟨vm, journal, hvm, rfl⟩ := h.exists_eq
  obtain ⟨journal₁, hd⟩ := d.started_eq
  obtain ⟨journal₂, he⟩ := started_eq { d with vm, stepRequested := false, journal }
  rw [hd, he]
  refine ⟨hvm, ?_⟩
  simp only [hvm.registers]

theorem record (h : SameRun d e) (s : Snapshot) : SameRun (d.record s) (e.record s) := by
  obtain ⟨vm, journal, hvm, rfl⟩ := h.exists_eq
  exact ⟨hvm, rfl⟩

theorem isMet (h : SameRun d e) (s : Snapshot) : e.isMet s = d.isMet s := by
  rw [h.rest]
  rfl

end SameRun

/-- Debuggers that go on alike take the same step, and meet their breakpoints together. -/
theorem stepAndCheck_sameRun (h : SameRun d e) : SameEnd SameRun (stepAndCheck d) (stepAndCheck e) := by
  have hstep := step_samePicture h.machine
  rw [stepAndCheck_eq, stepAndCheck_eq]
  generalize step d.vm = x at hstep
  generalize step e.vm = y at hstep
  cases hstep with
  | ok s hvm =>
    have hrecorded : SameRun (d.recorded _ s) (e.recorded _ s) := (h.started.onMachine hvm).record s
    dsimp only
    rw [hrecorded.isMet]
    exact .ok _ hrecorded
  | error fault hvm => exact .error fault (h.started.onMachine hvm)

/-! ## Runs -/

/-- A row of steps that pass the breakpoints leads from one debugger to the other. -/
inductive Passes : Nat → Debugger → Debugger → Prop where
  | zero (d : Debugger) : Passes 0 d d
  | succ {n : Nat} {d d₁ d₂ : Debugger} (hstep : stepAndCheck d = .ok false d₁) (hrest : Passes n d₁ d₂) :
    Passes (n + 1) d d₂

theorem Passes.cycles (h : Passes n d d₁) : d₁.vm.cycles = d.vm.cycles + n := by
  induction h with
  | zero d => rfl
  | @succ n d d₁ d₂ hstep _ ih =>
    have hcycles := stepAndCheck_cycles d
    rw [hstep] at hcycles
    have hfirst : d₁.vm.cycles = d.vm.cycles + 1 := hcycles
    omega

theorem Passes.of_le {k : Nat} (h : Passes n d d₁) (hk : k ≤ n) : ∃ d₂, Passes k d d₂ := by
  induction h generalizing k with
  | zero d => exact ⟨d, by rw [Nat.le_zero.mp hk]; exact .zero d⟩
  | @succ n d d₁ d₂ hstep _ ih =>
    cases k with
    | zero => exact ⟨d, .zero d⟩
    | succ k =>
      obtain ⟨d₃, hpasses⟩ := ih (Nat.le_of_succ_le_succ hk)
      exact ⟨d₃, .succ hstep hpasses⟩

/-- The debugger when a run stopped at a breakpoint. -/
def announced (d : Debugger) : Debugger :=
  d.put (.printed ("Breakpoint hit at PC: " ++ Numeral.hex0x 6 d.vm.registers.pc.toNat ++ "\n"))

/-- The ends that a run can come to after the steps already run, each with its result. -/
inductive Ending (d : Debugger) (ran limit : Nat) : EStateM.Result Fault Debugger Stop → Prop where
  /-- A step met a breakpoint. -/
  | hit {i : Nat} {d₁ d₂ : Debugger} (hi : i < limit) (hpasses : Passes i d d₁)
    (hstep : stepAndCheck d₁ = .ok true d₂) : Ending d ran limit (.ok (.hit (ran + i + 1)) d₂.announced)
  /-- All steps passed. -/
  | limit {d₁ : Debugger} (hpasses : Passes limit d d₁) : Ending d ran limit (.ok (.limit (ran + limit)) d₁)
  /-- A step was refused. -/
  | refused {i : Nat} {d₁ d₂ : Debugger} {fault : Fault} (hi : i < limit) (hpasses : Passes i d d₁)
    (hstep : stepAndCheck d₁ = .error fault d₂) : Ending d ran limit (.error fault d₂)

theorem Ending.pass {result : EStateM.Result Fault Debugger Stop} (hstep : stepAndCheck d = .ok false d₁)
    (h : Ending d₁ (ran + 1) limit result) : Ending d ran (limit + 1) result := by
  cases h with
  | @hit i _ _ hi hpasses hstop =>
    have hran : ran + 1 + i + 1 = ran + (i + 1) + 1 := by omega
    rw [hran]
    exact .hit (Nat.succ_lt_succ hi) (.succ hstep hpasses) hstop
  | limit hpasses =>
    have hran : ran + 1 + limit = ran + (limit + 1) := by omega
    rw [hran]
    exact .limit (.succ hstep hpasses)
  | refused hi hpasses hstop => exact .refused (Nat.succ_lt_succ hi) (.succ hstep hpasses) hstop

theorem runFrom_ending (ran limit : Nat) (d : Debugger) : Ending d ran limit (runFrom ran limit d) := by
  -- one step is taken off the limit and added to the steps already run, whatever their number
  induction limit generalizing ran d with
  | zero => exact .limit (.zero d)
  | succ limit ih =>
    cases hstep : stepAndCheck d with
    | error fault d₁ =>
      have hrun : runFrom ran (limit + 1) d = .error fault d₁ := bind_error hstep
      rw [hrun]
      exact .refused (Nat.zero_lt_succ limit) (.zero d) hstep
    | ok met d₁ =>
      cases met with
      | true =>
        have hrun : runFrom ran (limit + 1) d = .ok (.hit (ran + 1)) d₁.announced := bind_ok hstep
        rw [hrun]
        exact .hit (Nat.zero_lt_succ limit) (.zero d) hstep
      | false =>
        have hrun : runFrom ran (limit + 1) d = runFrom (ran + 1) limit d₁ := bind_ok hstep
        rw [hrun]
        exact (ih (ran + 1) d₁).pass hstep

/-- Every run comes to one of the three ends. -/
theorem run_ending (limit : Nat) (d : Debugger) : Ending d 0 limit (run limit d) := runFrom_ending 0 limit d

theorem run_hit (h : run limit d = .ok (.hit n) d') :
    ∃ i d₁ d₂, n = i + 1 ∧ d' = d₂.announced ∧ Passes i d d₁ ∧ stepAndCheck d₁ = .ok true d₂ := by
  have hending := run_ending limit d
  rw [h] at hending
  cases hending with
  | hit hi hpasses hstep => exact ⟨_, _, _, by rw [Nat.zero_add], rfl, hpasses, hstep⟩

theorem run_limit (h : run limit d = .ok (.limit n) d') : n = limit ∧ Passes limit d d' := by
  have hending := run_ending limit d
  rw [h] at hending
  cases hending with
  | limit hpasses => exact ⟨Nat.zero_add _, hpasses⟩

theorem run_refused (h : run limit d = .error fault d') :
    ∃ i d₁, Passes i d d₁ ∧ stepAndCheck d₁ = .error fault d' := by
  have hending := run_ending limit d
  rw [h] at hending
  cases hending with
  | refused hi hpasses hstep => exact ⟨_, _, hpasses, hstep⟩

end Chip8.Debugger
