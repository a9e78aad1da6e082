import Chip8.Proofs.ControlLoop.Presented
import Chip8.Proofs.Vm.Timers
import Mathlib.Algebra.Order.Field.Rat
import Mathlib.Tactic.Linarith

/-!
# The timers go by the clock

The clock is read once in every iteration that comes to its end, and a tick takes place when it is due at the reading,
given the reading of the tick before. `course` says what happens to a loop in a run, as far as its timers are
concerned: instructions are completed, the clock is read, the machine starts over. `Follows` says what the timers make
of that: they are lowered by the readings at which a tick is due, and changed otherwise by the two instructions that
set them and by starting over.

Main statements: `move_goes` (one move), `course_goes` (a run), `Follows.last`, `Follows.lowered`, `Follows.elapsed`,
`timers_by_clock`.
-/

namespace Chip8

namespace Debugger

open Timers

variable {d d₁ d₂ : Debugger} {output : Output}

/-! ## The timers of a debugged machine -/

/-- The timers of the machine, and how often the sound timer ran out since the journal was emptied. -/
def timers (d : Debugger) : Timers :=
  { delay := d.vm.registers.dt.toNat
    sound := d.vm.registers.st.toNat
    beeps := d.journal.toList.count (.notice .beep) }

theorem timers_put (d : Debugger) (h : output ≠ .notice .beep) : (d.put output).timers = d.timers := by
  have hcount : (d.journal.push output).toList.count (.notice .beep) = d.journal.toList.count (.notice .beep) := by
    rw [Array.toList_push, List.count_append, List.count_singleton, beq_eq_false_iff_ne.mpr h]
    rfl
  simp only [timers, put, hcount]

theorem timers_beep (d : Debugger) : (d.note .beep).timers = { d.timers with beeps := d.timers.beeps + 1 } := by
  have hcount : (d.journal.push (.notice .beep)).toList.count (.notice .beep)
      = d.journal.toList.count (.notice .beep) + 1 := by
    rw [Array.toList_push, List.count_append, List.count_singleton_self]
  simp only [timers, note, put, hcount]

theorem timers_started (d : Debugger) : d.started.timers = d.timers := by
  simp only [started]
  split
  · exact timers_put _ (fun h => by cases h)
  · rfl

theorem timers_shown (d : Debugger) : d.shown.timers = d.timers := by
  unfold shown
  split
  · exact timers_put _ (fun h => by cases h)
  · rfl

theorem timers_tick (d : Debugger) : d.tick.timers = d.timers.tick := by
  have hvalues : ∀ journal, { d with vm := d.vm.tick.1, journal }.timers =
      { delay := d.timers.delay - 1, sound := d.timers.sound - 1, beeps := journal.toList.count (.notice .beep) } := by
    intro journal
    simp only [timers, Vm.tick, Vm.lowered_toNat]
  have hout : d.vm.registers.st = 1 ↔ d.timers.sound = 1 := UInt8.toNat_inj.symm
  simp only [Debugger.tick]
  by_cases hst : d.vm.registers.st = 1
  · have hbeep : d.vm.tick.2 = true := decide_eq_true hst
    rw [if_pos hbeep, timers_beep, hvalues, Timers.tick, if_pos (hout.mp hst)]
    rfl
  · have hbeep : ¬d.vm.tick.2 = true := fun h => hst (of_decide_eq_true h)
    rw [if_neg hbeep, hvalues, Timers.tick, if_neg fun h => hst (hout.mpr h)]
    rfl

/-- The instruction completed between two debuggers, if one was. -/
def completedSince (d d₁ : Debugger) : Option Operation :=
  if d₁.vm.cycles = d.vm.cycles then none else d₁.latest.map Snapshot.operation

/-- On the way, the timers are spared by the instruction completed. -/
def Spares (d d₁ : Debugger) : Prop := Spared (completedSince d d₁) d.timers d₁.timers

namespace Spares

theorem refl (d : Debugger) : Spares d d := .of_eq rfl

theorem after (ht : d₁.timers = d.timers) (hcycles : d₁.vm.cycles = d.vm.cycles) (h : Spares d₁ d₂) : Spares d d₂ := by
  have hcompleted : completedSince d d₂ = completedSince d₁ d₂ := by rw [completedSince, ← hcycles, completedSince]
  rw [Spares, hcompleted, ← ht]
  exact h

theorem put (h : Spares d d₁) (houtput : output ≠ .notice .beep) : Spares d (d₁.put output) := by
  have hcompleted : completedSince d (d₁.put output) = completedSince d d₁ := rfl
  rw [Spares, hcompleted, timers_put _ houtput]
  exact h

theorem puts {outputs : List Output} (h : Spares d d₁) (houtputs : ∀ output ∈ outputs, output ≠ .notice .beep) :
    Spares d (outputs.foldl Debugger.put d₁) := by
  induction outputs generalizing d₁ with
  | nil => exact h
  | cons output outputs ih =>
    have hfirst := h.put (houtputs output List.mem_cons_self)
    exact ih hfirst fun later hlater => houtputs later (List.mem_cons_of_mem output hlater)

end Spares

theorem stepInstruction_spares (d : Debugger) : Spares d (endState stepInstruction d) := by
  have htimers := Vm.step_timers d.vm
  have hcycles := Vm.step_cycles d.vm
  have hstarted := congrArg Timers.beeps d.timers_started
  rw [endState, stepInstruction_eq]
  cases hstep : Vm.step d.vm with
  | ok s vm =>
    rw [hstep] at htimers hcycles
    obtain ⟨hdelay, hsound⟩ := htimers
    have hcompleted : completedSince d (d.recorded vm s) = some s.operation := by
      refine if_neg ?_
      rw [show (d.recorded vm s).vm.cycles = d.vm.cycles + 1 from hcycles]
      exact Nat.succ_ne_self _
    show Spared (completedSince d (d.recorded vm s)) _ _
    rw [hcompleted]
    refine ⟨fun h => ?_, fun h => ?_, hstarted⟩
    · exact congrArg UInt8.toNat (hdelay (h _ rfl))
    · exact congrArg UInt8.toNat (hsound (h _ rfl))
  | error fault vm =>
    rw [hstep] at htimers hcycles
    exact ⟨fun _ => congrArg UInt8.toNat htimers.1, fun _ => congrArg UInt8.toNat htimers.2, hstarted⟩

end Debugger

/-! ## What the timers make of a run -/

/-- What happens to a loop, as far as its timers are concerned. -/
inductive Happening (τ : Type) where
  | completed (operation : Operation)
  /-- The clock is read. -/
  | read (now : τ)
  /-- The machine starts over. -/
  | reset

/-- The timers, with the reading of the last tick. -/
structure Gate (τ : Type) where
  last : τ
  timers : Timers

namespace Happening

variable {τ : Type}

def reading? : Happening τ → Option τ
  | read now => some now
  | completed _ | reset => none

/-- No timer is set, and the machine does not start over. -/
def sparesTimers : Happening τ → Bool
  | completed op => !op.setsDelay && !op.setsSound
  | read _ => true
  | reset => false

/-- What the timers make of it. -/
def Leads (due : τ → τ → Bool) (g g' : Gate τ) : Happening τ → Prop
  | completed op => g'.last = g.last ∧ Timers.Spared (some op) g.timers g'.timers
  | read now => g' = if due g.last now then { last := now, timers := g.timers.tick } else g
  | reset => g' = { g with timers := { g.timers with delay := 0, sound := 0 } }

theorem Leads.last {due : τ → τ → Bool} {g g' : Gate τ} {happening : Happening τ}
    (h : happening.Leads due g g') (hnone : happening.reading? = none) : g'.last = g.last := by
  cases happening with
  | completed op => exact h.1
  | read now => cases hnone
  | reset =>
    have hg : g' = { g with timers := { g.timers with delay := 0, sound := 0 } } := h
    rw [hg]

theorem Leads.read {due : τ → τ → Bool} {g g' : Gate τ} {now : τ} (h : (read now).Leads due g g') :
    g' = if due g.last now then { last := now, timers := g.timers.tick } else g := h

end Happening

/-- What the timers make of all that happens, one after the other. -/
inductive Follows {τ : Type} (due : τ → τ → Bool) : Gate τ → List (Happening τ) → Gate τ → Prop where
  | nil (g : Gate τ) : Follows due g [] g
  | cons {g g₁ g₂ : Gate τ} {happening : Happening τ} {course : List (Happening τ)}
    (hfirst : happening.Leads due g g₁) (hrest : Follows due g₁ course g₂) : Follows due g (happening :: course) g₂

/-- The readings at which ticks take place, after one at `last`: a reading counts if it is due after the one that
counted before it. -/
def tickReadings {τ : Type} (due : τ → τ → Bool) (last : τ) : List τ → List τ
  | [] => []
  | now :: rest => if due last now then now :: tickReadings due now rest else tickReadings due last rest

def readings {τ : Type} (course : List (Happening τ)) : List τ := course.filterMap Happening.reading?

theorem readings_read {τ : Type} (now : τ) (course : List (Happening τ)) :
    readings (.read now :: course) = now :: readings course := rfl

namespace Follows

variable {τ : Type} {due : τ → τ → Bool} {g g₁ g₂ : Gate τ} {course more : List (Happening τ)}

theorem append (h : Follows due g course g₁) (h' : Follows due g₁ more g₂) : Follows due g (course ++ more) g₂ := by
  induction h with
  | nil g => exact h'
  | cons hfirst hrest ih => exact .cons hfirst (ih h')

/-- The last of the ticks is the one that the next tick goes by. -/
theorem last (h : Follows due g course g₁) : g₁.last = (tickReadings due g.last (readings course)).getLastD g.last := by
  induction h with
  | nil g => rfl
  | @cons g g₁ g₂ happening course hfirst hrest ih =>
    cases happening with
    | completed _ | reset =>
      rw [ih, hfirst.last rfl]
      rfl
    | read now =>
      rw [readings_read, ih, hfirst.read, tickReadings]
      split
      · rw [List.getLastD_cons]
      · rfl

/-- If no timer is set on the way and the machine does not start over, the timers are lowered by the ticks. -/
theorem lowered (h : Follows due g course g₁) (hspares : ∀ happening ∈ course, happening.sparesTimers = true) :
    g₁.timers = Timers.tick^[(tickReadings due g.last (readings course)).length] g.timers := by
  induction h with
  | nil g => rfl
  | @cons g g₁ g₂ happening course hfirst hrest ih =>
    have hlater := ih fun later hlater => hspares later (List.mem_cons_of_mem _ hlater)
    have hspared := hspares happening List.mem_cons_self
    -- the readings alone are counted, and of the rest nothing but a tick touches the timers
    cases happening with
    | completed op =>
      obtain ⟨hlast, hsame⟩ := hfirst
      obtain ⟨hdelay, hsound⟩ := Bool.and_eq_true_iff.mp hspared
      have hnone : Timers.Spared none g.timers g₁.timers :=
        ⟨fun _ => hsame.delay fun o ho => by cases ho; simpa using hdelay,
          fun _ => hsame.sound fun o ho => by cases ho; simpa using hsound, hsame.beeps⟩
      rw [hlater, hnone.eq, hlast]
      rfl
    | reset => cases hspared
    | read now =>
      rw [readings_read, hlater, hfirst.read, tickReadings]
      split
      · rw [List.length_cons, Function.iterate_succ_apply]
      · rfl

/-- If a tick is due no earlier than an interval after the one before it, the last of the ticks comes no earlier than
that many intervals after the start. -/
theorem elapsed {time : τ → ℚ} {interval : ℚ}
    (hdue : ∀ last now, due last now = true → interval ≤ time now - time last) (h : Follows due g course g₁) :
    time g.last + (tickReadings due g.last (readings course)).length * interval ≤ time g₁.last := by
  induction h with
  | nil g => simp [readings, tickReadings]
  | @cons g g₁ g₂ happening course hfirst hrest ih =>
    cases happening with
    | completed _ | reset =>
      rw [hfirst.last rfl] at ih
      exact ih
    | read now =>
      rw [readings_read, tickReadings]
      rw [hfirst.read] at ih
      -- a tick moves the last one to its reading, so that the gaps between ticks add up
      by_cases hstrikes : due g.last now = true
      · have hgap := hdue g.last now hstrikes
        rw [if_pos hstrikes] at ih ⊢
        rw [List.length_cons, Nat.cast_succ]
        dsimp only at ih
        linarith
      · rw [if_neg hstrikes] at ih ⊢
        exact ih

end Follows

namespace ControlLoop

open Debugger Timers

variable {τ : Type} {loop loop₁ loop₂ : ControlLoop τ} {move : Move} {moves more : List Move}

/-! ## The parts of an iteration -/

/-- Neither the clock nor the timers have a part in it. -/
structure Unclocked (loop loop' : ControlLoop τ) : Prop where
  pace : loop'.pace = loop.pace
  timers : loop'.debugger.timers = loop.debugger.timers
  cycles : loop'.debugger.vm.cycles = loop.debugger.vm.cycles

namespace Unclocked

theorem refl (loop : ControlLoop τ) : Unclocked loop loop := ⟨rfl, rfl, rfl⟩

theorem trans (h : Unclocked loop loop₁) (h' : Unclocked loop₁ loop₂) : Unclocked loop loop₂ :=
  ⟨h'.pace.trans h.pace, h'.timers.trans h.timers, h'.cycles.trans h.cycles⟩

end Unclocked

theorem setKey_unclocked (k : Int) (pressed : Bool) (loop : ControlLoop τ) :
    Unclocked loop (endState (setKey k pressed) loop) := by
  simp only [endState, setKey]
  cases loop.debugger.vm.keypad.set k pressed with
  | ok keypad => exact ⟨rfl, rfl, rfl⟩
  | error fault => exact .refl loop

theorem dump_unclocked (loop : ControlLoop τ) : Unclocked loop (endState dump loop) := by
  rw [endState, dump_eq]
  cases loop.disk.item loop.disk.taken with
  | none => exact ⟨rfl, (timers_put _ (fun h => by cases h)).trans (timers_put _ (fun h => by cases h)), rfl⟩
  | some fault =>
    dsimp only
    split
    · exact ⟨rfl, timers_put _ (fun h => by cases h), rfl⟩
    · exact ⟨rfl, rfl, rfl⟩

theorem handle_unclocked (event : InputEvent) (loop : ControlLoop τ) :
    Unclocked loop (endState (handle event) loop) := by
  cases event with
  | quit | step => exact ⟨rfl, rfl, rfl⟩
  | key k pressed => exact setKey_unclocked k pressed loop
  | dump => exact dump_unclocked loop

theorem handleAll_unclocked (events : List InputEvent) (loop : ControlLoop τ) :
    Unclocked loop (endState (handleAll events) loop) :=
  handleAll_keeps .refl .trans handle_unclocked events loop

theorem instruct_spares (loop : ControlLoop τ) : Spares loop.debugger (endState instruct loop).debugger := by
  rcases loop.instruct_steps with hidle | ⟨asked, outputs, hquiet, hstep⟩
  · rw [hidle]
    exact .refl _
  · rw [hstep]
    have hspares : Spares loop.debugger
        (endState stepInstruction { loop.debugger with stepRequested := asked }) :=
      Spares.after rfl rfl (stepInstruction_spares _)
    refine hspares.puts fun output houtput => ?_
    rcases hquiet output houtput with ⟨text, rfl⟩ | ⟨pc, rfl⟩
    · nofun
    · nofun

/-! ## One move -/

/-- What the timers go by next. -/
def gate (loop : ControlLoop τ) : Gate τ := { last := loop.lastTick, timers := loop.debugger.timers }

/-- Whether a move comes to reading the clock. An iteration does if it goes on: then it was not refused, and its poll
did not end the loop. -/
def reads (loop : ControlLoop τ) : Move → Bool
  | .iterate events =>
    match ControlLoop.iterate events loop with
    | .ok goesOn _ => goesOn
    | .error _ _ => false
  | .tickTimers => true
  | _ => false

/-- What happens in a move: an instruction is completed or not, and then the clock is read or not. -/
def happenings (loop : ControlLoop τ) : Move → List (Happening τ)
  | .reset => [.reset]
  | move => ((completedSince loop.debugger (loop.moved move).debugger).map .completed).toList
      ++ if loop.reads move then [.read (loop.clock.item loop.clock.taken)] else []

def course (loop : ControlLoop τ) : (moves : List Move) → List (Happening τ)
  | [] => []
  | move :: moves => loop.happenings move ++ (loop.moved move).course moves

theorem happenings_eq (h : move ≠ .reset) : loop.happenings move
    = ((completedSince loop.debugger (loop.moved move).debugger).map .completed).toList
      ++ if loop.reads move then [.read (loop.clock.item loop.clock.taken)] else [] := by
  cases move with
  | reset => exact absurd rfl h
  | _ => rfl

theorem reads_iterate {events : List InputEvent} (h : ∀ loop', iterate events loop ≠ .ok true loop') :
    loop.reads (.iterate events) = false := by
  simp only [reads]
  split
  · next goesOn loop' hrun =>
    rw [Bool.eq_false_iff]
    rintro rfl
    exact h loop' hrun
  · rfl

/-- From one loop to another, with all that happens on the way: the timers follow it, and its readings are the next
ones of the clock. -/
structure Goes (loop : ControlLoop τ) (course : List (Happening τ)) (loop' : ControlLoop τ) : Prop where
  gate : Follows loop.due loop.gate course loop'.gate
  due : loop'.due = loop.due
  clock : loop'.clock = { loop.clock with taken := loop.clock.taken + (readings course).length }
  inOrder : readings course = (List.range' loop.clock.taken (readings course).length).map loop.clock.item

theorem Goes.refl (loop : ControlLoop τ) : Goes loop [] loop := ⟨.nil _, rfl, rfl, rfl⟩

theorem Goes.append {course more : List (Happening τ)} (h : Goes loop course loop₁) (h' : Goes loop₁ more loop₂) :
    Goes loop (course ++ more) loop₂ := by
  have hitem : loop₁.clock.item = loop.clock.item := by rw [h.clock]
  have htaken : loop₁.clock.taken = loop.clock.taken + (readings course).length := by rw [h.clock]
  have hreadings : readings (course ++ more) = readings course ++ readings more := List.filterMap_append
  have hgate := h'.gate
  have hmore := h'.inOrder
  rw [h.due] at hgate
  rw [hitem, htaken] at hmore
  refine ⟨h.gate.append hgate, h'.due.trans h.due, ?_, ?_⟩
  · rw [h'.clock, h.clock, hreadings, List.length_append, ← Nat.add_assoc]
  · rw [hreadings, List.length_append, ← List.range'_append_1, List.map_append, ← h.inOrder, ← hmore]

theorem goes_spares (hpace : loop₁.pace = loop.pace) (h : Spares loop.debugger loop₁.debugger) :
    Goes loop ((completedSince loop.debugger loop₁.debugger).map .completed).toList loop₁ := by
  have hlast : loop₁.gate.last = loop.gate.last := congrArg Pace.last hpace
  have hdue : loop₁.due = loop.due := congrArg Pace.due hpace
  have hclock : loop₁.clock = loop.clock := congrArg Pace.clock hpace
  rw [Spares] at h
  cases hcompleted : completedSince loop.debugger loop₁.debugger with
  | none =>
    rw [hcompleted] at h
    have hgate : loop₁.gate = loop.gate := (Gate.mk.injEq ..).mpr ⟨hlast, h.eq⟩
    refine ⟨?_, hdue, hclock, rfl⟩
    rw [hgate]
    exact .nil _
  | some op =>
    rw [hcompleted] at h
    exact ⟨.cons ⟨hlast, h⟩ (.nil _), hdue, hclock, rfl⟩

theorem ticked_stands (loop : ControlLoop τ) : Stands loop.debugger loop.ticked.debugger := by
  show Stands _ (if loop.pace.strikes then loop.debugger.tick else loop.debugger)
  split
  · exact .tick _
  · exact ⟨rfl, rfl, rfl, rfl, rfl⟩

theorem goes_ticked (loop : ControlLoop τ) : Goes loop [.read (loop.clock.item loop.clock.taken)] loop.ticked := by
  refine ⟨.cons ?_ (.nil _), rfl, rfl, rfl⟩
  show loop.ticked.gate = if loop.pace.strikes then _ else _
  simp only [gate, ticked, Pace.next]
  split
  · exact congrArg (Gate.mk _) loop.debugger.timers_tick
  · rfl

theorem goes_finished (loop : ControlLoop τ) : Goes loop [.read (loop.clock.item loop.clock.taken)] loop.finished := by
  have hgate : loop.finished.gate = loop.ticked.gate := congrArg (Gate.mk _) (timers_shown _)
  obtain ⟨hticked, hdue, hclock, hinOrder⟩ := loop.goes_ticked
  rw [← hgate] at hticked
  exact ⟨hticked, hdue, hclock, hinOrder⟩

theorem goes_unread (hreset : move ≠ .reset) (hreads : loop.reads move = false)
    (hpace : (loop.moved move).pace = loop.pace) (h : Spares loop.debugger (loop.moved move).debugger) :
    Goes loop (loop.happenings move) (loop.moved move) := by
  rw [happenings_eq hreset, hreads, if_neg Bool.false_ne_true, List.append_nil]
  exact goes_spares hpace h

/-- A move that comes to reading the clock at `mid`, and completes no instruction after that. -/
theorem goes_read (mid : ControlLoop τ) (hreset : move ≠ .reset) (hreads : loop.reads move = true)
    (hpace : mid.pace = loop.pace) (h : Spares loop.debugger mid.debugger)
    (hrest : Goes mid [.read (mid.clock.item mid.clock.taken)] (loop.moved move))
    (hstands : Stands mid.debugger (loop.moved move).debugger) :
    Goes loop (loop.happenings move) (loop.moved move) := by
  have hcompleted : completedSince loop.debugger (loop.moved move).debugger
      = completedSince loop.debugger mid.debugger := by
    rw [completedSince, hstands.cycles, hstands.latest, completedSince]
  have hclock : mid.clock = loop.clock := congrArg Pace.clock hpace
  rw [hclock] at hrest
  rw [happenings_eq hreset, hreads, if_pos rfl, hcompleted]
  exact (goes_spares hpace h).append hrest

theorem iterate_goes (events : List InputEvent) (loop : ControlLoop τ) :
    Goes loop (loop.happenings (.iterate events)) (loop.moved (.iterate events)) := by
  have hheard := handleAll_unclocked events loop
  have hparts := iterate_parts events loop
  have hspares := (endState (handleAll events) loop).instruct_spares
  obtain ⟨debugger, singleStep, hrest⟩ := (endState (handleAll events) loop).instruct_rest
  generalize endState (handleAll events) loop = heard at hheard hparts hspares hrest
  generalize endState instruct heard = mid at hparts hspares hrest
  have hpace : mid.pace = loop.pace := by
    rw [hrest]
    exact hheard.pace
  have hran : Spares loop.debugger mid.debugger := hspares.after hheard.timers hheard.cycles
  rcases hparts with ⟨hend, hnot⟩ | hrun
  · -- it ended at the poll, or its instruction was refused
    have hreads := reads_iterate hnot
    rcases hend with hend | hend
    · rw [← show loop.moved (.iterate events) = heard from hend] at hheard
      exact goes_unread (by nofun) hreads hheard.pace (.of_eq hheard.timers)
    · rw [← show loop.moved (.iterate events) = mid from hend] at hpace hran
      exact goes_unread (by nofun) hreads hpace hran
  · have hreads : loop.reads (.iterate events) = true := by simp only [reads, hrun]
    have hmoved : loop.moved (.iterate events) = mid.finished := endState_ok hrun
    refine goes_read mid (by nofun) hreads hpace hran ?_ ?_
    · rw [hmoved]
      exact mid.goes_finished
    · rw [hmoved]
      exact mid.finished_stands

theorem move_goes (move : Move) (loop : ControlLoop τ) : Goes loop (loop.happenings move) (loop.moved move) := by
  cases move with
  | iterate events => exact iterate_goes events loop
  | handle event =>
    have hunclocked := handle_unclocked event loop
    exact goes_unread (by nofun) rfl hunclocked.pace (.of_eq hunclocked.timers)
  | instruct =>
    obtain ⟨debugger, singleStep, hrest⟩ := loop.instruct_rest
    have hpace : (endState instruct loop).pace = loop.pace := by
      rw [hrest]
      rfl
    exact goes_unread (by nofun) rfl hpace loop.instruct_spares
  | tickTimers =>
    have hmoved : loop.moved .tickTimers = loop.ticked := endState_ok loop.tickTimers_eq
    refine goes_read loop (by nofun) rfl rfl (.refl _) ?_ ?_
    · rw [hmoved]
      exact loop.goes_ticked
    · rw [hmoved]
      exact loop.ticked_stands
  | present => exact goes_unread (by nofun) rfl rfl (.of_eq (timers_shown _))
  | stop => exact goes_unread (by nofun) rfl rfl (.refl _)
  | reset => exact ⟨.cons rfl (.nil _), rfl, rfl, rfl⟩

/-! ## Runs -/

theorem course_goes (moves : List Move) (loop : ControlLoop τ) :
    Goes loop (loop.course moves) (loop.movedAll moves) := by
  induction moves generalizing loop with
  | nil => exact .refl loop
  | cons move moves ih => exact (move_goes move loop).append (ih (loop.moved move))

/-- The loop over a debugged machine from its start, and the moves `before` and `during` of a run. The clock is read
once at the start, and then its readings are those that happen in the run. A tick takes place at a reading if it is due
after the last reading at which one took place, and after the first reading if there was none. All that happens to the
timers, and all that is noted of the sound timer, is due to these ticks, to the two instructions that set a timer, and
to starting over. Over moves without these instructions and without starting over, `k` ticks lower the timers by `k`,
and the sound timer runs out once if it was running and was to run for `k` ticks at most. And if a tick is due no
earlier than a `hz`-th part of a second after the one before, `k` ticks take `k` of these parts. -/
theorem timers_by_clock (debugger : Debugger) (singleStep : Bool) (due : τ → τ → Bool) (clock : Source τ)
    (disk : Source (Option FileFault)) (dumpPath : Text) (before during : List Move) :
    let start := ControlLoop.new debugger singleStep due clock disk dumpPath
    let loop := start.movedAll before
    let loop' := loop.movedAll during
    let past := readings (start.course before)
    let ticks := tickReadings due loop.lastTick (readings (loop.course during))
    start.lastTick = clock.item clock.taken
    ∧ loop.clock = { clock with taken := clock.taken + 1 + past.length }
    ∧ past = (List.range' (clock.taken + 1) past.length).map clock.item
    ∧ Follows due start.gate (start.course before) loop.gate
    ∧ loop.lastTick = (tickReadings due start.lastTick past).getLastD start.lastTick
    ∧ ((∀ happening ∈ loop.course during, happening.sparesTimers = true) → loop'.debugger.timers =
        { delay := loop.debugger.timers.delay - ticks.length
          sound := loop.debugger.timers.sound - ticks.length
          beeps := loop.debugger.timers.beeps
            + if 0 < loop.debugger.timers.sound ∧ loop.debugger.timers.sound ≤ ticks.length then 1 else 0 })
    ∧ ∀ (time : τ → ℚ) (hz : ℚ), (∀ last now, due last now = true → 1 / hz ≤ time now - time last) →
        time loop.lastTick + ticks.length / hz ≤ time loop'.lastTick := by
  intro start loop loop' past ticks
  obtain ⟨hgate, hdue, hclock, hinOrder⟩ := course_goes before start
  -- the moves before and those during go by the same test, each from the gate that it finds
  have hlater := (course_goes during loop).gate
  rw [hdue] at hlater
  refine ⟨rfl, hclock, hinOrder, hgate, hgate.last, fun hspares => ?_, fun time hz htime => ?_⟩
  · have hlowered := hlater.lowered hspares
    rw [Timers.tick_iterate] at hlowered
    exact hlowered
  · have helapsed := hlater.elapsed htime
    rw [mul_one_div] at helapsed
    exact helapsed

/-- A machine about to let the sound timer run for two ticks, and to stay where it is then. -/
def sounding : Debugger :=
  { vm := {
      registers := { pc := 0 }
      memory := { cells := #[0x60, 2, 0xF0, 0x18, 0x10, 4] }
      random := .constant 0 }
    before := {}
    capacity := standardCapacity }

/-- The loop over this machine, by a clock that goes on by one from reading to reading; a tick is due at each. -/
def ringing : ControlLoop Nat :=
  .new sounding false (fun last now => last + 1 ≤ now) { item := id } (.constant none) "memory.dmp"

def twoTurns : List Move := [.iterate [], .iterate []]

/-- Once the timer is set, two ticks take two seconds, and the sound timer runs out at the first of them. -/
theorem timers_by_clock_ringing :
    (ringing.movedAll twoTurns).debugger.timers = { delay := 0, sound := 1, beeps := 0 }
    ∧ ((ringing.movedAll twoTurns).movedAll twoTurns).debugger.timers = { delay := 0, sound := 0, beeps := 1 }
    ∧ (2 : ℚ) + 2 ≤ ((ringing.movedAll twoTurns).movedAll twoTurns).lastTick := by
  have hlast : (ringing.movedAll twoTurns).lastTick = 2 := by decide +kernel
  have hticks : (tickReadings ringing.due (ringing.movedAll twoTurns).lastTick
      (readings ((ringing.movedAll twoTurns).course twoTurns))).length = 2 := by
    decide +kernel
  have hspares : ∀ happening ∈ (ringing.movedAll twoTurns).course twoTurns, happening.sparesTimers = true := by
    decide +kernel
  have hinterval : ∀ last now : Nat, ringing.due last now = true → 1 / (1 : ℚ) ≤ (now : ℚ) - last := by
    intro last now hdue
    have hle : last + 1 ≤ now := of_decide_eq_true hdue
    have hcast : (last : ℚ) + 1 ≤ now := by exact_mod_cast hle
    rw [div_one]
    linarith
  obtain ⟨-, -, -, -, -, hlowered, helapsed⟩ := timers_by_clock sounding false (fun last now => last + 1 ≤ now)
    { item := id } (.constant none) "memory.dmp" twoTurns twoTurns
  refine ⟨by decide +kernel, (hlowered hspares).trans (by decide +kernel), ?_⟩
  calc (2 : ℚ) + 2
    _ = ((ringing.movedAll twoTurns).lastTick : ℚ) + (tickReadings ringing.due (ringing.movedAll twoTurns).lastTick
          (readings ((ringing.movedAll twoTurns).course twoTurns))).length / 1 := by
        rw [hticks, hlast]
        norm_num
    _ ≤ _ := helapsed (fun n => n) 1 hinterval

end ControlLoop

end Chip8
