import Chip8.Proofs.ControlLoop.Events
import Chip8.Proofs.ControlLoop.Iteration

/-!
# Whole runs of the loop

A loop in free running without breakpoints is a machine that goes at the pace of its polls: for each poll before the
one that asks to quit it takes the keys, runs one cycle, and ticks its timers if that is due; of the last poll it takes
the keys only. Asking for steps and for images changes nothing in this, as long as an image is at worst refused by the
system: a name that is no file name ends the run at the first request.

Main statements: `run_paced`, `run_ended_by_image`.
-/

namespace Chip8

/-- The machine, with its timers ticked if that is due. -/
def Vm.onTime (m : Vm) (due : Bool) : Vm := if due then m.tick.1 else m

/-- What polls do to a machine: the keys of each are taken, one cycle is run, and the timers are ticked if that is
due. -/
def paced {τ : Type} (p : Pace τ) : List (List InputEvent) → Vm.Action Unit
  | [] => return
  | events :: rest => do
    modify fun m => m.keyed events
    let _ ← Vm.step
    modify fun m => m.onTime p.strikes
    paced p.next rest

namespace Vm

variable {τ : Type} {p : Pace τ} {m m' : Vm} {events : List InputEvent} {polls : List (List InputEvent)}

theorem SamePicture.keyed (h : SamePicture m m') (events : List InputEvent) :
    SamePicture (m.keyed events) (m'.keyed events) := by
  induction events generalizing m m' with
  | nil => exact h
  | cons event events ih =>
    cases event with
    | key k pressed => exact ih (h.act (.setKey k pressed))
    | quit | step | dump => exact ih h

theorem SamePicture.onTime (h : SamePicture m m') (due : Bool) : SamePicture (m.onTime due) (m'.onTime due) := by
  cases due with
  | true => exact h.act .tick
  | false => exact h

theorem onTime_cycles (m : Vm) (due : Bool) : (m.onTime due).cycles = m.cycles := by
  cases due with
  | true => rfl
  | false => rfl

theorem paced_cons (h : paced p (events :: polls) m = .ok () m') :
    ∃ s m₁, step (m.keyed events) = .ok s m₁ ∧ paced p.next polls (m₁.onTime p.strikes) = .ok () m' := by
  have hrun : paced p (events :: polls) m = (step >>= fun _ => do
      modify fun m => m.onTime p.strikes
      paced p.next polls) (m.keyed events) := rfl
  rw [hrun] at h
  cases hstep : step (m.keyed events) with
  | ok s m₁ =>
    rw [bind_ok hstep] at h
    exact ⟨s, m₁, rfl, h⟩
  | error fault m₁ =>
    rw [bind_error hstep] at h
    cases h

theorem paced_cycles (h : paced p polls m = .ok () m') : m'.cycles = m.cycles + polls.length := by
  induction polls generalizing p m with
  | nil =>
    cases h
    rfl
  | cons events polls ih =>
    obtain ⟨s, m₁, hstep, hrest⟩ := paced_cons h
    have hcycles := step_cycles (m.keyed events)
    rw [hstep, keyed_cycles] at hcycles
    have hfirst : m₁.cycles = m.cycles + 1 := hcycles
    rw [ih hrest, onTime_cycles, hfirst, List.length_cons]
    omega

end Vm

namespace ControlLoop

open Debugger Vm

variable {τ : Type} {loop : ControlLoop τ} {m m₁ : Vm} {s : Snapshot} {events last : List InputEvent}
  {polls rest : List (List InputEvent)}

/-- The loop runs freely, and nothing that it is asked for gets in the way. -/
structure Unhindered (loop : ControlLoop τ) : Prop where
  running : loop.running = true
  mode : loop.singleStep = false
  disabled : ∀ b ∈ loop.debugger.breakpoints, b.enabled = false
  disk : Refusing loop.disk

/-- At the end of an iteration the machine is on time, and its picture is shown. -/
theorem finished_debugger (loop : ControlLoop τ) :
    SamePicture (loop.debugger.vm.onTime loop.pace.strikes) loop.finished.debugger.vm
      ∧ loop.finished.debugger.breakpoints = loop.debugger.breakpoints := by
  have hfinished : loop.finished.debugger
      = (if loop.pace.strikes then loop.debugger.tick else loop.debugger).shown := rfl
  rw [hfinished]
  cases loop.pace.strikes with
  | true =>
    obtain ⟨journal, htick⟩ := loop.debugger.tick_eq
    obtain ⟨dirty, journal', hshown⟩ := loop.debugger.tick.shown_eq
    rw [if_pos rfl, hshown, htick]
    exact ⟨.of_dirty _ dirty, rfl⟩
  | false =>
    obtain ⟨dirty, journal, hshown⟩ := loop.debugger.shown_eq
    rw [if_neg Bool.false_ne_true, hshown]
    exact ⟨.of_dirty _ dirty, rfl⟩

/-! ## One iteration -/

/-- Without breakpoints, a completed cycle is a step that passes. -/
theorem stepAndCheck_disabled {d : Debugger} (hdisabled : ∀ b ∈ d.breakpoints, b.enabled = false)
    (hstep : step d.vm = .ok s m₁) : stepAndCheck d = .ok false (d.recorded m₁ s) := by
  have hmet : (d.recorded m₁ s).isMet s = false := isMet_disabled (by rw [recorded_breakpoints]; exact hdisabled) s
  have hcheck : stepAndCheck d = .ok ((d.recorded m₁ s).isMet s) (d.recorded m₁ s) := by rw [stepAndCheck_eq, hstep]
  rw [hcheck, hmet]

theorem Heard.pace {loop₁ : ControlLoop τ} (h : Heard loop events loop₁) : loop₁.pace = loop.pace := by
  rw [h.rest]
  rfl

namespace Unhindered

/-- A poll that does not ask to quit: its keys are taken, and one cycle is run. -/
theorem pass (h : Unhindered loop) (hkeys : KeysOnPad events) (hquit : .quit ∉ events)
    (hsame : SamePicture m loop.debugger.vm) (hstep : step (m.keyed events) = .ok s m₁) :
    ∃ loop₁, iterate events loop = .ok true loop₁ ∧ Unhindered loop₁ ∧ loop₁.pace = loop.pace.next
      ∧ SamePicture (m₁.onTime loop.pace.strikes) loop₁.debugger.vm := by
  obtain ⟨loop₁, hhandle, hheard⟩ := handleAll_heard hkeys h.disk
  have hrunning : loop₁.running = true := by
    rw [hheard.running, h.running, decide_eq_true hquit, Bool.and_self]
  have hmode : loop₁.singleStep = false := hheard.mode.trans h.mode
  have hdisabled : ∀ b ∈ loop₁.debugger.breakpoints, b.enabled = false := by
    rw [hheard.breakpoints]
    exact h.disabled
  -- the keys make the two machines the same again, so the cycle of the one is the cycle of the other
  have hkeyed : SamePicture (m.keyed events) loop₁.debugger.vm := by
    rw [hheard.vm]
    exact hsame.keyed events
  obtain ⟨vm, hvm, hsame₁⟩ := (step_samePicture hkeyed).of_ok hstep
  have hpassed := proceed_passed hrunning hmode (stepAndCheck_disabled hdisabled hvm)
  obtain ⟨hsame₂, hbreakpoints⟩ := finished_debugger { loop₁ with debugger := loop₁.debugger.recorded vm s }
  have hpace : ({ loop₁ with debugger := loop₁.debugger.recorded vm s } : ControlLoop τ).pace = loop.pace := hheard.pace
  refine ⟨_, (bind_ok hhandle).trans hpassed, ⟨hrunning, hmode, ?_, hheard.refusing h.disk⟩, ?_, ?_⟩
  · rw [hbreakpoints, recorded_breakpoints]
    exact hdisabled
  · exact congrArg Pace.next hheard.pace
  · rw [hpace] at hsame₂
    exact (hsame₁.onTime _).trans hsame₂

/-- The poll that asks to quit: its keys are taken, and nothing is run. -/
theorem quit (h : Unhindered loop) (hkeys : KeysOnPad last) (hquit : .quit ∈ last)
    (hsame : SamePicture m loop.debugger.vm) :
    ∃ loop₁, iterate last loop = .ok false loop₁ ∧ SamePicture (m.keyed last) loop₁.debugger.vm := by
  obtain ⟨loop₁, hhandle, hheard⟩ := handleAll_heard hkeys h.disk
  have hrunning : loop₁.running = false := by
    rw [hheard.running, decide_eq_false (not_not_intro hquit), Bool.and_false]
  refine ⟨loop₁, (bind_ok hhandle).trans (proceed_ended hrunning), ?_⟩
  rw [hheard.vm]
  exact hsame.keyed last

/-! ## The run -/

/-- The loop keeps pace with the reference until it is asked to quit. -/
theorem run (h : Unhindered loop) (hkeys : ∀ events ∈ polls, KeysOnPad events) (hlast : KeysOnPad last)
    (hpolls : ∀ events ∈ polls, .quit ∉ events) (hquit : .quit ∈ last) (hsame : SamePicture m loop.debugger.vm)
    (hpaced : paced loop.pace polls m = .ok () m₁) :
    ∃ loop', ControlLoop.run (polls ++ last :: rest) loop = .ok () loop'
      ∧ SamePicture (m₁.keyed last) loop'.debugger.vm := by
  -- by induction on the polls; the machine of the loop and the reference differ in the flag of the picture only
  induction polls generalizing loop m with
  | nil =>
    cases hpaced
    obtain ⟨loop₁, hiterate, hsame₁⟩ := h.quit hlast hquit hsame
    exact ⟨loop₁, bind_ok hiterate, hsame₁⟩
  | cons events polls ih =>
    obtain ⟨s, m₂, hstep, hrest⟩ := paced_cons hpaced
    obtain ⟨loop₁, hiterate, h₁, hpace, hsame₁⟩ :=
      h.pass (hkeys events List.mem_cons_self) (hpolls events List.mem_cons_self) hsame hstep
    rw [← hpace] at hrest
    obtain ⟨loop₂, hrun, hsame₂⟩ := ih h₁ (fun events h => hkeys events (List.mem_cons_of_mem _ h))
      (fun events h => hpolls events (List.mem_cons_of_mem _ h)) hsame₁ hrest
    exact ⟨loop₂, (bind_ok hiterate).trans hrun, hsame₂⟩

end Unhindered

/-- A run of a loop in free running, without enabled breakpoints, over polls of which the first that asks to quit is
`last`: if no cycle of the machine is refused on the way, the run ends, one cycle was completed for each poll before
`last`, and the machine is the one that these polls lead to, with the keys of `last` taken, those after the request
too. The polls may also ask for steps and for images, which the system may refuse to write; only a name that is no file
name at all would be a fault. -/
theorem run_paced (hrunning : loop.running = true) (hfree : loop.singleStep = false)
    (hdisabled : ∀ b ∈ loop.debugger.breakpoints, b.enabled = false)
    (hdisk : ∀ n fault, loop.disk.item n = some fault → fault.isSystem)
    (hkeys : ∀ events ∈ polls ++ [last], ∀ k pressed, .key k pressed ∈ events → 0 ≤ k ∧ k < 16)
    (hpolls : ∀ events ∈ polls, .quit ∉ events) (hquit : .quit ∈ last)
    (hpaced : paced loop.pace polls loop.debugger.vm = .ok () m) :
    ∃ loop', run (polls ++ last :: rest) loop = .ok () loop'
      ∧ loop'.debugger.vm.cycles = loop.debugger.vm.cycles + polls.length
      ∧ SamePicture (m.keyed last) loop'.debugger.vm := by
  have h : Unhindered loop := ⟨hrunning, hfree, hdisabled, hdisk⟩
  obtain ⟨loop', hrun, hsame⟩ : ∃ loop', run (polls ++ last :: rest) loop = .ok () loop'
      ∧ SamePicture (m.keyed last) loop'.debugger.vm :=
    h.run (fun events he => hkeys events (List.mem_append_left _ he))
      (hkeys last (List.mem_append_right _ List.mem_cons_self)) hpolls hquit (.refl _) hpaced
  refine ⟨loop', hrun, ?_, hsame⟩
  calc loop'.debugger.vm.cycles
    _ = (m.keyed last).cycles := hsame.cycles
    _ = m.cycles := keyed_cycles m last
    _ = loop.debugger.vm.cycles + polls.length := paced_cycles hpaced

/-- A loop over a machine that counts for ever, with a tick at every other reading and no place for images. -/
def counting : ControlLoop Nat :=
  .new (.new { registers := { pc := 0, dt := 9 }, memory := { cells := #[0x70, 1, 0x10, 0] }, random := .constant 0 })
    false (fun last now => last + 2 ≤ now) { item := id } (.constant (some ⟨.missing, "memory.dmp"⟩)) "memory.dmp"

/-- Two polls, the second of which asks for an image in vain. -/
def twoPolls : List (List InputEvent) := [[.key 3 true, .step], [.dump]]

/-- A poll that asks to quit between two keys. -/
def quitting : List InputEvent := [.key 3 false, .quit, .key 10 true]

theorem run_paced_counting : ∃ m loop', paced counting.pace twoPolls counting.debugger.vm = .ok () m
    ∧ run (twoPolls ++ quitting :: []) counting = .ok () loop' ∧ loop'.debugger.vm.cycles = 2
    ∧ SamePicture (m.keyed quitting) loop'.debugger.vm := by
  have hdisk : ∀ n fault, counting.disk.item n = some fault → fault.isSystem := by
    intro n fault h
    cases h
    rfl
  have hkeys : ∀ events ∈ twoPolls ++ [quitting], ∀ k pressed, .key k pressed ∈ events → 0 ≤ k ∧ k < 16 := by
    intro events he k pressed hk
    simp only [twoPolls, quitting, List.cons_append, List.nil_append, List.mem_cons, List.not_mem_nil, or_false] at he
    rcases he with rfl | rfl | rfl <;> simp at hk <;> omega
  have hcompleted : (match paced counting.pace twoPolls counting.debugger.vm with
      | .ok _ _ => true
      | .error _ _ => false) = true := by
    decide +kernel
  cases hpaced : paced counting.pace twoPolls counting.debugger.vm with
  | error fault m =>
    rw [hpaced] at hcompleted
    cases hcompleted
  | ok _ m =>
    obtain ⟨loop', hrun, hcycles, hsame⟩ :=
      run_paced rfl rfl (by intro b hb; cases hb) hdisk hkeys (by decide) (by decide) hpaced
    exact ⟨m, loop', rfl, hrun, hcycles, hsame⟩

/-- The same loop, with a name for its images that is no file name. -/
def misnamed : ControlLoop Nat :=
  { counting with disk := .constant (some ⟨.nullCharacter, "a\x00b"⟩), dumpPath := "a\x00b" }

/-- The reference completes the cycle of a poll that asks for an image, and the run ends in that poll before it. -/
theorem run_ended_by_image :
    misnamed.running = true ∧ misnamed.singleStep = false ∧ misnamed.debugger.breakpoints = []
    ∧ (∃ m, paced misnamed.pace [[.dump]] misnamed.debugger.vm = .ok () m ∧ m.cycles = 1)
    ∧ ∃ loop', run [[.dump], [.quit]] misnamed = .error (.imageName ⟨.nullCharacter, "a\x00b"⟩) loop'
      ∧ loop'.debugger.vm.cycles = 0 :=
  ⟨rfl, rfl, rfl, ⟨_, rfl, rfl⟩, _, rfl, rfl⟩

end ControlLoop

end Chip8
