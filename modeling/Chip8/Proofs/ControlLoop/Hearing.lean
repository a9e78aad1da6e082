import Chip8.Proofs.ControlLoop.Presented

/-!
# What an iteration hears

No instruction touches the pad, and neither does a tick of the timers or the picture. So an iteration leaves the pad as
the events of its poll make it, even if its instruction is refused.

Main statements: `Vm.step_keypad`, `handleAll_taken`, `iterate_hears`.
-/

namespace Chip8

/-! ## The pad and its events -/

namespace Keypad

variable {pad : Keypad} {key k : Nibble} {pressed : Bool} {events more : List InputEvent}

def onEvent (pad : Keypad) : InputEvent → Keypad
  | .key k pressed => (pad.set k pressed).toOption.getD pad
  | .quit | .step | .dump => pad

def heard (pad : Keypad) (events : List InputEvent) : Keypad := events.foldl onEvent pad

theorem heard_append : pad.heard (events ++ more) = (pad.heard events).heard more := List.foldl_append

theorem entry_released (k : Nibble) : released.down.entry k = false := by
  simp [released, Bank.entry]

theorem entry_onEvent : (pad.onEvent (.key key.val pressed)).down.entry k
    = if key = k then pressed else pad.down.entry k := by
  have hkey : Nibble.ofInt? (key.val : Int) = some key := dif_pos ⟨by omega, by omega⟩
  simp only [onEvent, set, hkey, Except.toOption, Option.getD_some, Bank.entry, Bank.put, Fin.getElem_fin,
    Vector.getElem_set, Fin.ext_iff]

end Keypad

namespace Vm

variable {m : Vm}

theorem keyed_keypad (m : Vm) (events : List InputEvent) : (m.keyed events).keypad = m.keypad.heard events := by
  induction events generalizing m with
  | nil => rfl
  | cons event events ih =>
    cases event with
    | key k pressed => exact ih (m.act (.setKey k pressed))
    | quit | step | dump => exact ih m

theorem step_keypad (m : Vm) : (after step m).keypad = m.keypad := by
  have hcycle := step_cycle m
  unfold after
  generalize step m = result at hcycle
  cases hcycle with
  | unfetched hw => rfl
  | illegal hw hi => rfl
  | refused hw hi hf => rfl
  | completed hw hi hf => exact execute_keypad _ m.fetched

end Vm

namespace Debugger

theorem vm_puts (outputs : List Output) (d : Debugger) : (outputs.foldl put d).vm = d.vm := by
  induction outputs generalizing d with
  | nil => rfl
  | cons output outputs ih => exact ih (d.put output)

theorem stepInstruction_keypad (d : Debugger) : (endState stepInstruction d).vm.keypad = d.vm.keypad := by
  have hstep := Vm.step_keypad d.vm
  unfold Vm.after at hstep
  rw [endState, stepInstruction_eq]
  generalize Vm.step d.vm = result at hstep
  cases result with
  | ok s vm => exact hstep
  | error fault vm => exact hstep

end Debugger

namespace ControlLoop

open Debugger

variable {τ : Type} {loop loop₁ loop₂ : ControlLoop τ} {events more : List InputEvent}

/-! ## One iteration -/

theorem instruct_keypad (loop : ControlLoop τ) :
    (endState instruct loop).debugger.vm.keypad = loop.debugger.vm.keypad := by
  rcases loop.instruct_steps with hidle | ⟨asked, outputs, -, hstep⟩
  · rw [hidle]
  · rw [hstep, vm_puts]
    exact stepInstruction_keypad _

theorem finished_keypad (loop : ControlLoop τ) :
    loop.finished.debugger.vm.keypad = loop.debugger.vm.keypad := by
  have hfinished : loop.finished.debugger
      = (if loop.pace.strikes then loop.debugger.tick else loop.debugger).shown := rfl
  obtain ⟨dirty, journal, hshown⟩ := (if loop.pace.strikes then loop.debugger.tick else loop.debugger).shown_eq
  rw [hfinished, hshown]
  split
  · obtain ⟨journal', htick⟩ := loop.debugger.tick_eq
    rw [htick]
    rfl
  · rfl

theorem handle_taken {event : InputEvent} (h : handle event loop = .ok () loop₁) :
    loop₁.disk.taken = loop.disk.taken + [event].count .dump := by
  cases event with
  | quit | step =>
    cases h
    rfl
  | key k pressed =>
    have hset : setKey k pressed loop = .ok () loop₁ := h
    simp only [setKey] at hset
    split at hset
    · cases hset
      rfl
    · cases hset
  | dump =>
    have hdump : dump loop = .ok () loop₁ := h
    rw [dump_eq] at hdump
    split at hdump
    · cases hdump
      rfl
    · split at hdump
      · cases hdump
        rfl
      · cases hdump

theorem handleAll_taken (h : handleAll events loop = .ok () loop₁) :
    loop₁.disk.taken = loop.disk.taken + events.count .dump := by
  induction events generalizing loop with
  | nil =>
    cases h
    rfl
  | cons event events ih =>
    cases hrun : handle event loop with
    | ok _ loop₂ =>
      have hall : handleAll (event :: events) loop = handleAll events loop₂ := bind_ok hrun
      have hcount : ([event] ++ events).count .dump = [event].count .dump + events.count .dump :=
        List.count_append
      rw [hall] at h
      rw [ih h, handle_taken hrun, Nat.add_assoc, ← hcount, List.singleton_append]
    | error fault loop₂ =>
      have hall : handleAll (event :: events) loop = .error fault loop₂ := bind_error hrun
      rw [hall] at h
      cases h

/-- All that events do to a loop, however often it is iterated: the pad hears them, one that asks to quit ends the loop,
and the disk is asked for each image. -/
structure Hears (loop : ControlLoop τ) (events : List InputEvent) (loop' : ControlLoop τ) : Prop where
  keypad : loop'.debugger.vm.keypad = loop.debugger.vm.keypad.heard events
  running : loop'.running = (loop.running && decide (.quit ∉ events))
  disk : loop'.disk = { loop.disk with taken := loop.disk.taken + events.count .dump }

namespace Hears

theorem refl (loop : ControlLoop τ) : Hears loop [] loop := ⟨rfl, by simp, rfl⟩

theorem append (h : Hears loop events loop₁) (h' : Hears loop₁ more loop₂) : Hears loop (events ++ more) loop₂ where
  keypad := by rw [h'.keypad, h.keypad, Keypad.heard_append]
  running := by
    rw [h'.running, h.running]
    simp [Bool.and_assoc]
  disk := by rw [h'.disk, h.disk, List.count_append, Nat.add_assoc]

theorem refusing (h : Hears loop events loop₁) (hdisk : Refusing loop.disk) : Refusing loop₁.disk := by
  unfold Refusing
  rw [h.disk]
  exact hdisk

end Hears

/-- An iteration hears all the events of its poll, whatever becomes of its instruction. -/
theorem iterate_hears (hkeys : KeysOnPad events) (hdisk : Refusing loop.disk) :
    Hears loop events (endState (iterate events) loop) := by
  obtain ⟨heard, hhandle, hheard⟩ := handleAll_heard hkeys hdisk
  have hears : Hears loop events heard := by
    refine ⟨?_, hheard.running, ?_⟩
    · rw [hheard.vm, Vm.keyed_keypad]
    · have htaken := handleAll_taken hhandle
      have hitem := hheard.disk
      generalize heard.disk = disk at htaken hitem
      obtain ⟨item, taken⟩ := disk
      cases htaken
      cases hitem
      rfl
  obtain ⟨debugger, singleStep, hrest⟩ := heard.instruct_rest
  have hkeypad := heard.instruct_keypad
  have hparts := iterate_parts events loop
  rw [endState_ok hhandle] at hparts
  generalize endState instruct heard = mid at hparts hrest hkeypad
  -- an instruction presses no key, asks for no image and does not end the loop
  have hmid : Hears loop events mid := by
    refine ⟨hkeypad.trans hears.keypad, ?_, ?_⟩
    · rw [hrest]
      exact hears.running
    · rw [hrest]
      exact hears.disk
  rcases hparts with ⟨hend | hend, -⟩ | hrun
  · rw [hend]
    exact hears
  · rw [hend]
    exact hmid
  · rw [endState_ok hrun]
    exact ⟨mid.finished_keypad.trans hmid.keypad, hmid.running, hmid.disk⟩

end ControlLoop

end Chip8
