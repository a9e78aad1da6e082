import Chip8.Proofs.ControlLoop.Instructions
import Chip8.Proofs.Debugger.FirstHit
import Chip8.Proofs.Vm.Undo
import Mathlib.Data.List.Chain

/-!
# Sessions

What is done with a debugger from the moment it is made: single steps, steps with a check, runs, iterations of a loop
over it, and anything else that leaves its record alone. The log of a session is told by the machine alone: it lists
the cycles that were completed, and marks where the row of them breaks, at a refused cycle and where something from
outside moved the machine. The history is the end of that log, and cycles that no break parts follow each other.

Main statement: `session_history`.
-/

namespace Chip8

/-- An entry in the log of a session: a completed cycle, or a break in the row of cycles. -/
inductive Mark where
  | completed (c : Vm.Completed)
  | broken

namespace Mark

def snapshot? : Mark → Option Snapshot
  | completed c => some c.snapshot
  | broken => none

/-- One cycle follows another: it starts where that one led, and counts one more. -/
def Linked : Mark → Mark → Prop
  | completed c, completed c' =>
    c'.snapshot.address = c.snapshot.registers.pc ∧ c'.snapshot.cycle = c.snapshot.cycle + 1
  | _, _ => True

/-- The machine stands where the last cycle left it, if nothing came after that. -/
def LeadsTo (m : Vm) : Mark → Prop
  | completed c => m.registers.pc = c.snapshot.registers.pc ∧ m.cycles = c.snapshot.cycle
  | broken => True

end Mark

def snapshots (log : List Mark) : List Snapshot := log.filterMap Mark.snapshot?

theorem snapshots_append (log more : List Mark) : snapshots (log ++ more) = snapshots log ++ snapshots more :=
  List.filterMap_append

namespace Vm

variable {m m' : Vm} {s : Snapshot} {ss : List Snapshot} {fault : Fault} {n : Nat}

theorem Completed.snapshot_eq (c : Completed) : c.snapshot.address = c.before.registers.pc
    ∧ c.snapshot.cycle = c.before.cycles + 1 ∧ c.after.registers = c.snapshot.registers
    ∧ c.after.cycles = c.snapshot.cycle := by
  obtain ⟨w, i, -, -, -, hs, hm⟩ := step_ok c.step_eq
  rw [hs, hm]
  exact ⟨rfl, congrArg (· + 1) (execute_cycles i c.before.fetched), rfl, rfl⟩

/-- The marks of so many cycles in a row; a refused one ends the row. -/
def marks : (n : Nat) → Vm → List Mark
  | 0, _ => []
  | n + 1, m =>
    match h : step m with
    | .ok snapshot after => .completed ⟨m, snapshot, after, h⟩ :: marks n after
    | .error _ _ => [.broken]

theorem marks_completed (h : step m = .ok s m') (n : Nat) :
    m.marks (n + 1) = .completed ⟨m, s, m', h⟩ :: m'.marks n := by
  rw [marks]
  split
  · next hstep =>
    cases h.symm.trans hstep
    rfl
  · next hstep => cases h.symm.trans hstep

theorem marks_refused (h : step m = .error fault m') (n : Nat) : m.marks (n + 1) = [.broken] := by
  rw [marks]
  split
  · next hstep => cases h.symm.trans hstep
  · rfl

theorem marks_add (h : steps n m = .ok ss m') (k : Nat) : m.marks (n + k) = m.marks n ++ m'.marks k := by
  induction n generalizing m ss with
  | zero =>
    cases h
    rw [Nat.zero_add]
    rfl
  | succ n ih =>
    obtain ⟨s, rest, m₁, rfl, hstep, hrest⟩ := steps_succ h
    rw [Nat.succ_add, marks_completed hstep, marks_completed hstep, ih hrest, List.cons_append]

end Vm

namespace Debugger

variable {d d' d₀ d₁ d₂ : Debugger} {log : List Mark} {n : Nat} {limit : Option Int}
  {result : EStateM.Result Fault Debugger Stop}

/-- Nothing that a log shows has changed. -/
structure Quiet (d d' : Debugger) : Prop where
  trace : SameTrace d d'
  pc : d'.vm.registers.pc = d.vm.registers.pc
  cycles : d'.vm.cycles = d.vm.cycles

namespace Quiet

theorem trans (h : Quiet d d₁) (h' : Quiet d₁ d₂) : Quiet d d₂ :=
  ⟨h.trace.trans h'.trace, h'.pc.trans h.pc, h'.cycles.trans h.cycles⟩

theorem put (d : Debugger) (output : Output) : Quiet d (d.put output) := ⟨⟨rfl, rfl, rfl⟩, rfl, rfl⟩

theorem consumeStep (d : Debugger) : Quiet d d.consumeStep.2 := ⟨⟨rfl, rfl, rfl⟩, rfl, rfl⟩

theorem tick (d : Debugger) : Quiet d d.tick := by
  obtain ⟨journal, htick⟩ := d.tick_eq
  rw [htick]
  exact ⟨⟨rfl, rfl, rfl⟩, rfl, rfl⟩

theorem shown (d : Debugger) : Quiet d d.shown := by
  obtain ⟨dirty, journal, hshown⟩ := d.shown_eq
  rw [hshown]
  exact ⟨⟨rfl, rfl, rfl⟩, rfl, rfl⟩

end Quiet

/-- A debugger has on record what a log tells, and stands where the log ends. -/
structure Told (d₀ : Debugger) (log : List Mark) (d : Debugger) : Prop where
  trace : SameTrace ((snapshots log).foldl record d₀) d
  linked : log.IsChain Mark.Linked
  tip : ∀ mark ∈ log.getLast?, mark.LeadsTo d.vm

namespace Told

theorem start (d : Debugger) : Told d [] d := ⟨.refl d, .nil, nofun⟩

theorem quiet (h : Told d₀ log d) (hquiet : Quiet d d') : Told d₀ log d' where
  trace := h.trace.trans hquiet.trace
  linked := h.linked
  tip := fun mark hmark => by
    have htip := h.tip mark hmark
    cases mark with
    | completed c => exact ⟨hquiet.pc.trans htip.1, hquiet.cycles.trans htip.2⟩
    | broken => trivial

theorem broken (h : Told d₀ log d) (htrace : SameTrace d d') : Told d₀ (log ++ [.broken]) d' where
  trace := by
    rw [snapshots_append]
    show SameTrace ((snapshots log ++ []).foldl record d₀) d'
    rw [List.append_nil]
    exact h.trace.trans htrace
  linked := by
    refine List.isChain_append.mpr ⟨h.linked, .singleton _, fun mark _ next hnext => ?_⟩
    cases hnext
    cases mark <;> trivial
  tip := fun mark hmark => by
    rw [List.getLast?_concat] at hmark
    cases hmark
    trivial

/-- A cycle of the machine, completed and recorded, follows what came before. -/
theorem completed (h : Told d₀ log d) (c : Vm.Completed) (hbefore : c.before = d.vm)
    (htrace : SameTrace (d.record c.snapshot) d') (hafter : d'.vm = c.after) :
    Told d₀ (log ++ [.completed c]) d' := by
  obtain ⟨haddress, hcycle, hregisters, hcycles⟩ := c.snapshot_eq
  rw [hbefore] at haddress hcycle
  refine ⟨?_, List.isChain_append.mpr ⟨h.linked, .singleton _, fun mark hmark next hnext => ?_⟩, fun mark hmark => ?_⟩
  · rw [snapshots_append, List.foldl_append]
    exact (h.trace.record c.snapshot).trans htrace
  · cases hnext
    have htip := h.tip mark hmark
    cases mark with
    | completed c' => exact ⟨haddress.trans htip.1, hcycle.trans (congrArg (· + 1) htip.2)⟩
    | broken => trivial
  · rw [List.getLast?_concat] at hmark
    cases hmark
    rw [hafter]
    exact ⟨congrArg Registers.pc hregisters, hcycles⟩

/-! ## Steps and runs -/

theorem step (h : Told d₀ log d) : Told d₀ (log ++ d.vm.marks 1) (endState stepInstruction d) := by
  have htrace := d.stepInstruction_trace
  rw [endState, stepInstruction_eq] at *
  cases hstep : Vm.step d.vm with
  | ok s vm =>
    rw [hstep] at htrace
    rw [Vm.marks_completed hstep]
    exact h.completed ⟨d.vm, s, vm, hstep⟩ rfl htrace rfl
  | error fault vm =>
    rw [hstep] at htrace
    rw [Vm.marks_refused hstep]
    exact h.broken htrace

theorem check (h : Told d₀ log d) : Told d₀ (log ++ d.vm.marks 1) (endState stepAndCheck d) := by
  have hstep := h.step
  rw [endState] at hstep ⊢
  rw [stepAndCheck_instruction]
  cases hrun : stepInstruction d with
  | ok s d' =>
    rw [hrun] at hstep
    exact hstep
  | error fault d' =>
    rw [hrun] at hstep
    exact hstep

theorem passes (h : Told d₀ log d) (hpasses : Passes n d d₁) : Told d₀ (log ++ d.vm.marks n) d₁ := by
  induction hpasses generalizing log with
  | zero d =>
    rw [Vm.marks, List.append_nil]
    exact h
  | @succ n d d₁ d₂ hstep _ ih =>
    obtain ⟨s, vm, hcycle, -, rfl⟩ := stepAndCheck_ok hstep
    have hfirst := h.check
    rw [endState_ok hstep, Vm.marks_completed hcycle] at hfirst
    have hrest := ih hfirst
    rw [List.append_assoc] at hrest
    rw [Vm.marks_completed hcycle]
    exact hrest

theorem passes_check (h : Told d₀ log d) (hpasses : Passes n d d₁) :
    Told d₀ (log ++ d.vm.marks (n + 1)) (endState stepAndCheck d₁) := by
  obtain ⟨ss, hlength, hran⟩ := hpasses.ran (.nil d₁)
  have hmachine := hran.machine
  rw [hlength, List.length_nil, Nat.add_zero] at hmachine
  have hlast := (h.passes hpasses).check
  rw [Vm.marks_add hmachine, ← List.append_assoc]
  exact hlast

end Told

/-- How many cycles a run started: those that it ran, or if it was refused, those that were counted and one more. -/
def attempts (d : Debugger) : EStateM.Result Fault Debugger Stop → Nat
  | .ok stop _ => stop.ran
  | .error _ d' => d'.vm.cycles - d.vm.cycles + 1

theorem Told.run (h : Told d₀ log d) (hend : runWithin limit d = some result) :
    Told d₀ (log ++ d.vm.marks (d.attempts result)) (stateOf result) := by
  obtain ⟨k, rfl⟩ := runWithin_run hend
  have hending := run_ending k d
  generalize Debugger.run k d = result at hending
  cases hending with
  | @hit i d₁ d₂ hi hpasses hstep =>
    have htold := h.passes_check hpasses
    rw [endState_ok hstep] at htold
    rw [Nat.zero_add]
    exact htold.quiet (.put d₂ _)
  | limit hpasses =>
    rw [Nat.zero_add]
    exact h.passes hpasses
  | @refused i d₁ d₂ fault hi hpasses hstep =>
    have htold := h.passes_check hpasses
    rw [endState_error hstep] at htold
    have hcycles := stepAndCheck_cycles d₁
    rw [hstep] at hcycles
    have hcount : d₂.vm.cycles - d.vm.cycles = i := by
      have hcounted : d₂.vm.cycles = d₁.vm.cycles := hcycles
      have hpassed := hpasses.cycles
      omega
    rw [attempts, hcount]
    exact htold

end Debugger

/-! ## Iterations -/

namespace ControlLoop

open Debugger

variable {τ : Type} {start loop loop' later heard : ControlLoop τ} {d₀ : Debugger} {log more : List Mark}
  {events : List InputEvent}

/-- The marks of an iteration. It runs one instruction after its events, unless one of them is refused or the loop was
ended; in single-step mode it runs one if that was asked for. -/
def iterationMarks (loop : ControlLoop τ) (events : List InputEvent) : List Mark :=
  match handleAll events loop with
  | .error _ _ => []
  | .ok _ heard =>
    if heard.running && (!heard.singleStep || heard.debugger.stepRequested) then heard.debugger.vm.marks 1 else []

theorem Touched.quiet (h : Touched loop events heard) : Quiet loop.debugger heard.debugger := by
  obtain ⟨keypad, stepRequested, journal, hd⟩ := h.debugger
  rw [hd]
  exact ⟨⟨rfl, rfl, rfl⟩, rfl, rfl⟩

theorem finished_quiet (loop : ControlLoop τ) : Quiet loop.debugger loop.finished.debugger := by
  have hfinished : loop.finished.debugger
      = (if loop.pace.strikes then loop.debugger.tick else loop.debugger).shown := rfl
  rw [hfinished]
  split
  · exact (Quiet.tick _).trans (.shown _)
  · exact .shown _

/-- What an iteration adds to a log, once its events are applied. -/
theorem Iteration.told {result : EStateM.Result Fault (ControlLoop τ) Bool} (h : Iteration loop result)
    (htold : Told d₀ log loop.debugger) :
    Told d₀ (log ++ if loop.running && (!loop.singleStep || loop.debugger.stepRequested)
      then loop.debugger.vm.marks 1 else []) (stateOf result).debugger := by
  -- the ways in which an instruction is run mark one cycle more, the others none
  cases h with
  | ended hr =>
    simp only [hr, Bool.false_and, Bool.false_eq_true, if_false, List.append_nil]
    exact htold
  | waiting hr hs hreq =>
    simp only [hr, hs, hreq, Bool.not_true, Bool.or_self, Bool.and_false, Bool.false_eq_true, if_false, List.append_nil]
    exact htold.quiet loop.finished_quiet
  | @stepped s d hr hs hreq hd =>
    simp only [hr, hreq, Bool.or_true, Bool.and_self, if_true]
    have hstep := (htold.quiet (.consumeStep loop.debugger)).step
    rw [endState_ok hd] at hstep
    exact hstep.quiet ((Quiet.put d _).trans (finished_quiet { loop with debugger := d.reported }))
  | stepRefused hr hs hreq hd =>
    simp only [hr, hreq, Bool.or_true, Bool.and_self, if_true]
    have hstep := (htold.quiet (.consumeStep loop.debugger)).step
    rw [endState_error hd] at hstep
    exact hstep
  | @passed d hr hs hd =>
    simp only [hr, hs, Bool.not_false, Bool.true_or, Bool.and_self, if_true]
    have hstep := htold.check
    rw [endState_ok hd] at hstep
    exact hstep.quiet (finished_quiet { loop with debugger := d })
  | @stopped d hr hs hd =>
    simp only [hr, hs, Bool.not_false, Bool.true_or, Bool.and_self, if_true]
    have hstep := htold.check
    rw [endState_ok hd] at hstep
    exact hstep.quiet (((Quiet.put d _).trans (.put _ _)).trans (finished_quiet
      { loop with debugger := (d.note (.stopped d.vm.registers.pc)).reported, singleStep := true }))
  | refused hr hs hd =>
    simp only [hr, hs, Bool.not_false, Bool.true_or, Bool.and_self, if_true]
    have hstep := htold.check
    rw [endState_error hd] at hstep
    exact hstep

theorem iterate_told (events : List InputEvent) (h : Told d₀ log loop.debugger) :
    Told d₀ (log ++ loop.iterationMarks events) (endState (iterate events) loop).debugger := by
  have hquiet := (handleAll_touched events loop).quiet
  unfold iterationMarks
  cases hhandle : handleAll events loop with
  | error fault heard =>
    have hrun : iterate events loop = .error fault heard := bind_error hhandle
    rw [endState_error hhandle] at hquiet
    rw [endState_error hrun, List.append_nil]
    exact h.quiet hquiet
  | ok _ heard =>
    rw [endState_ok hhandle] at hquiet
    exact (iterate_way hhandle).told (h.quiet hquiet)

/-! ## Sessions -/

/-- A session leads from one loop to another, with a log. -/
inductive Session (start : ControlLoop τ) : List Mark → ControlLoop τ → Prop where
  | start : Session start [] start
  /-- A single step, completed or refused. -/
  | step {log : List Mark} {loop : ControlLoop τ} (h : Session start log loop) :
    Session start (log ++ loop.debugger.vm.marks 1) { loop with debugger := endState stepInstruction loop.debugger }
  /-- A step with a check, completed or refused. -/
  | check {log : List Mark} {loop : ControlLoop τ} (h : Session start log loop) :
    Session start (log ++ loop.debugger.vm.marks 1) { loop with debugger := endState stepAndCheck loop.debugger }
  /-- A run with or without a limit, if it has a result. -/
  | run {log : List Mark} {loop : ControlLoop τ} {limit : Option Int} {result : EStateM.Result Fault Debugger Stop}
    (h : Session start log loop) (hend : runWithin limit loop.debugger = some result) :
    Session start (log ++ loop.debugger.vm.marks (loop.debugger.attempts result))
      { loop with debugger := stateOf result }
  /-- An iteration over the events of a poll. -/
  | iterate {log : List Mark} {loop : ControlLoop τ} (h : Session start log loop) (events : List InputEvent) :
    Session start (log ++ loop.iterationMarks events) (endState (ControlLoop.iterate events) loop)
  /-- Anything that leaves the record alone; it breaks the row of cycles if it moves the machine. -/
  | outside {log : List Mark} {loop : ControlLoop τ} (h : Session start log loop) (loop' : ControlLoop τ)
    (htrace : SameTrace loop.debugger loop'.debugger) :
    Session start (log ++ if loop'.debugger.vm.registers.pc = loop.debugger.vm.registers.pc
      ∧ loop'.debugger.vm.cycles = loop.debugger.vm.cycles then [] else [.broken]) loop'

theorem Session.told (h : Session start log loop) : Told start.debugger log loop.debugger := by
  induction h with
  | start => exact .start start.debugger
  | step _ ih => exact ih.step
  | check _ ih => exact ih.check
  | run _ hend ih => exact ih.run hend
  | iterate _ events ih => exact iterate_told events ih
  | outside _ loop' htrace ih =>
    split
    · next hsame =>
      rw [List.append_nil]
      exact ih.quiet ⟨htrace, hsame.1, hsame.2⟩
    · exact ih.broken htrace

theorem Session.history {vm : Vm} {capacity : Nat} (h : Session start log loop)
    (hnew : start.debugger = .new vm capacity) :
    loop.debugger.history.toList = (snapshots log).rtake capacity := by
  have hroom : start.debugger.history.size ≤ start.debugger.capacity := by
    rw [hnew]
    exact Nat.zero_le _
  rw [h.told.trace.history, history_recorded hroom, hnew]
  rfl

theorem Session.completed {vm : Vm} {capacity : Nat} (h : Session start log loop)
    (hnew : start.debugger = .new vm capacity) :
    ∀ s ∈ loop.debugger.history.toList, ∃ m m', Vm.step m = .ok s m' := by
  intro s hs
  rw [h.history hnew] at hs
  obtain ⟨mark, -, hmark⟩ := List.mem_filterMap.mp (List.mem_of_mem_drop hs)
  cases mark with
  | completed c =>
    cases hmark
    exact ⟨c.before, c.after, c.step_eq⟩
  | broken => cases hmark

/-- From the moment that a debugger is made, its history is the end of all snapshots, as many as it has room for, and
its last snapshot is the last of them. Two entries that no break parts follow each other: the later one starts where the
earlier one led, and counts one more. An entry holds the registers that its own cycle left, and whatever is done later,
the entries stay as they are until newer ones take their places. -/
theorem session_history {vm : Vm} {capacity : Nat} (hnew : start.debugger = .new vm capacity)
    (h : Session start log loop) :
    loop.debugger.history.toList = (snapshots log).rtake capacity
    ∧ loop.debugger.history.size = min capacity (snapshots log).length
    ∧ loop.debugger.latest = (snapshots log).getLast?
    ∧ log.IsChain Mark.Linked
    ∧ (∀ c, .completed c ∈ log → c.snapshot.registers = c.after.registers)
    ∧ ∀ more later, Session loop more later →
      later.debugger.history.toList = (loop.debugger.history.toList ++ snapshots more).rtake capacity := by
  have htold := h.told
  have hhistory := h.history hnew
  have hsize : loop.debugger.history.size = min capacity (snapshots log).length := by
    rw [← Array.length_toList, hhistory, length_rtake]
  have hcapacity : loop.debugger.capacity = capacity := by
    rw [htold.trace.capacity, capacity_recorded, hnew]
    rfl
  refine ⟨hhistory, hsize, ?_, htold.linked, fun c _ => c.snapshot_eq.2.2.1.symm, fun more later hmore => ?_⟩
  · rw [htold.trace.latest, latest_recorded, hnew]
    exact Option.or_none
  · rw [hmore.told.trace.history, history_recorded (by rw [hsize, hcapacity]; exact Nat.min_le_left _ _), hcapacity]

/-- A loop over a machine about to run three instructions and to find none after them, with room for two snapshots. -/
def tracing : ControlLoop Nat :=
  .new
    (.new
      { registers := { pc := 0 }
        memory := { cells := #[0x60, 5, 0x70, 1, 0x00, 0xE0, 0x00, 0x00] }
        random := .constant 0 } 2)
    false (fun last now => last + 1 ≤ now) (.constant 0) (.constant none) "memory.dmp"

/-- The three are run by a step, an iteration and a run, and a step with a check is refused; the first one is gone from
the history. -/
theorem session_history_tracing : ∃ log loop, Session tracing log loop ∧ log.length = 4
    ∧ (snapshots log).map Snapshot.address = [0, 2, 4]
    ∧ loop.debugger.history.toList.map Snapshot.address = [2, 4] := by
  have h₁ := (Session.start : Session tracing [] tracing).step
  have h₂ := (h₁.iterate [.key 3 true]).run (rfl : runWithin (some 1) _ = _)
  have h₃ := h₂.check
  have hhistory := (session_history rfl h₃).1
  refine ⟨_, _, h₃, by decide +kernel, by decide +kernel, ?_⟩
  rw [hhistory]
  decide +kernel

end ControlLoop

end Chip8
