import Chip8.ControlLoop
import Chip8.Proofs.Debugger

/-!
# The events of a poll

What the events of one poll do to the loop when none of them is refused, which is when the pad has all their keys and
every file that cannot be written is refused by the system. Events reach the machine through its pad only; apart from
that they can end the loop, ask for a step, and leave something in the journal. What they leave alone, they leave alone
whether or not one of them is refused.

Main statements: `handleAll_heard`, `handleAll_touched`.
-/

namespace Chip8

/-- The pad has the keys of all events. -/
def KeysOnPad (events : List InputEvent) : Prop := ∀ k pressed, InputEvent.key k pressed ∈ events → 0 ≤ k ∧ k < 16

/-- Files that cannot be written are refused by the system. -/
def Refusing (disk : Source (Option FileFault)) : Prop := ∀ n fault, disk.item n = some fault → fault.isSystem

namespace Vm

/-- The machine after an event: it hears of keys only. -/
def onEvent (m : Vm) : InputEvent → Vm
  | .key k pressed => m.act (.setKey k pressed)
  | .quit | .step | .dump => m

/-- The machine after the events of a poll, in order. -/
def keyed (m : Vm) (events : List InputEvent) : Vm := events.foldl onEvent m

variable {m : Vm} {events more : List InputEvent}

@[simp] theorem keyed_nil (m : Vm) : m.keyed [] = m := rfl

theorem keyed_append : m.keyed (events ++ more) = (m.keyed events).keyed more := List.foldl_append

theorem keyed_eq (m : Vm) (events : List InputEvent) : ∃ keypad, m.keyed events = { m with keypad } := by
  induction events generalizing m with
  | nil => exact ⟨m.keypad, rfl⟩
  | cons event events ih =>
    cases event with
    | key k pressed => exact ih (m.act (.setKey k pressed))
    | quit | step | dump => exact ih m

theorem keyed_cycles (m : Vm) (events : List InputEvent) : (m.keyed events).cycles = m.cycles := by
  obtain ⟨keypad, h⟩ := m.keyed_eq events
  rw [h]

end Vm

namespace ControlLoop

variable {τ : Type} {loop loop₁ loop₂ : ControlLoop τ} {event : InputEvent} {events more : List InputEvent}

/-- What events do to a loop, if none of them is refused. -/
structure Heard (loop : ControlLoop τ) (events : List InputEvent) (loop' : ControlLoop τ) : Prop where
  debugger : loop'.debugger = { loop.debugger with
    vm := loop.debugger.vm.keyed events
    stepRequested := loop.debugger.stepRequested || decide (.step ∈ events)
    journal := loop'.debugger.journal }
  disk : loop'.disk.item = loop.disk.item
  rest : loop' = { loop with
    debugger := loop'.debugger
    running := loop.running && decide (.quit ∉ events)
    disk := loop'.disk }

namespace Heard

theorem nil (loop : ControlLoop τ) : Heard loop [] loop where
  debugger := by simp
  disk := rfl
  rest := by simp

theorem append (h : Heard loop events loop₁) (h' : Heard loop₁ more loop₂) : Heard loop (events ++ more) loop₂ where
  debugger := by
    rw [h'.debugger, h.debugger]
    simp [Vm.keyed_append, Bool.or_assoc]
  disk := h'.disk.trans h.disk
  rest := by
    rw [h'.rest, h.rest]
    simp [Bool.and_assoc]

theorem running (h : Heard loop events loop₁) : loop₁.running = (loop.running && decide (.quit ∉ events)) := by
  rw [h.rest]

theorem refusing (h : Heard loop events loop₁) (hdisk : Refusing loop.disk) : Refusing loop₁.disk := by
  unfold Refusing
  rw [h.disk]
  exact hdisk

theorem mode (h : Heard loop events loop₁) : loop₁.singleStep = loop.singleStep := by rw [h.rest]

theorem breakpoints (h : Heard loop events loop₁) : loop₁.debugger.breakpoints = loop.debugger.breakpoints := by
  rw [h.debugger]

theorem vm (h : Heard loop events loop₁) : loop₁.debugger.vm = loop.debugger.vm.keyed events := by rw [h.debugger]

end Heard

theorem setKey_onPad {k : Int} (hlow : 0 ≤ k) (hhigh : k < 16) (pressed : Bool) : setKey k pressed loop = .ok ()
    { loop with debugger := { loop.debugger with vm := loop.debugger.vm.act (.setKey k pressed) } } := by
  obtain ⟨keypad, hset⟩ : ∃ keypad, loop.debugger.vm.keypad.set k pressed = .ok keypad := by
    rw [Keypad.set, Nibble.ofInt?, dif_pos ⟨hlow, hhigh⟩]
    exact ⟨_, rfl⟩
  simp only [setKey, Vm.act, hset]
  rfl

/-- What writing the memory image comes to, by what the disk says. -/
theorem dump_eq (loop : ControlLoop τ) : dump loop = match loop.disk.item loop.disk.taken with
    | none => .ok () { loop with
        debugger := (loop.debugger.put (.written loop.dumpPath loop.debugger.vm.memory.image)).note
          (.dumped loop.dumpPath)
        disk := loop.disk.next.2 }
    | some fault =>
      if fault.isSystem then
        .ok () { loop with debugger := loop.debugger.note (.dumpFailed fault), disk := loop.disk.next.2 }
      else .error (.imageName fault) { loop with disk := loop.disk.next.2 } := by
  have hrun : dump loop = _ := bind_get
  cases hfault : loop.disk.item loop.disk.taken with
  | none =>
    have hnext : loop.disk.next = (none, loop.disk.next.2) := Prod.ext hfault rfl
    rw [hnext] at hrun
    exact hrun
  | some fault =>
    have hnext : loop.disk.next = (some fault, loop.disk.next.2) := Prod.ext hfault rfl
    rw [hnext] at hrun
    dsimp only at hrun ⊢
    split
    · next hsystem =>
      rw [if_pos hsystem] at hrun
      exact hrun
    · next hsystem =>
      rw [if_neg hsystem] at hrun
      exact hrun

/-- The memory image is written, or that it cannot be is noted. -/
theorem dump_refusing (hdisk : Refusing loop.disk) : ∃ journal,
    dump loop = .ok () { loop with debugger := { loop.debugger with journal }, disk := loop.disk.next.2 } := by
  rw [dump_eq]
  cases hfault : loop.disk.item loop.disk.taken with
  | none => exact ⟨_, rfl⟩
  | some fault =>
    dsimp only
    rw [if_pos (hdisk _ _ hfault)]
    exact ⟨_, rfl⟩

theorem handle_heard (hkey : KeysOnPad [event]) (hdisk : Refusing loop.disk) :
    ∃ loop₁, handle event loop = .ok () loop₁ ∧ Heard loop [event] loop₁ := by
  cases event with
  | quit => exact ⟨_, rfl, by simp [Vm.keyed, Vm.onEvent, stop], rfl, by simp [stop]⟩
  | step => exact ⟨_, rfl, by simp [Vm.keyed, Vm.onEvent, Debugger.requestStep], rfl, by simp⟩
  | key k pressed =>
    obtain ⟨hlow, hhigh⟩ := hkey k pressed List.mem_cons_self
    exact ⟨_, setKey_onPad hlow hhigh pressed, by simp [Vm.keyed, Vm.onEvent], rfl, by simp⟩
  | dump =>
    obtain ⟨journal, hdump⟩ := dump_refusing hdisk
    exact ⟨_, hdump, by simp [Vm.keyed, Vm.onEvent], rfl, by simp⟩

/-- The events of a poll, none of which is refused. -/
theorem handleAll_heard (hkeys : KeysOnPad events) (hdisk : Refusing loop.disk) :
    ∃ loop₁, handleAll events loop = .ok () loop₁ ∧ Heard loop events loop₁ := by
  induction events generalizing loop with
  | nil => exact ⟨loop, rfl, .nil loop⟩
  | cons event events ih =>
    have hkey : KeysOnPad [event] := fun k pressed h =>
      hkeys k pressed (List.mem_cons.mpr (.inl (List.mem_singleton.mp h)))
    have hkeys' : KeysOnPad events := fun k pressed h => hkeys k pressed (List.mem_cons_of_mem event h)
    obtain ⟨loop₁, hfirst, hheard⟩ := handle_heard hkey hdisk
    obtain ⟨loop₂, hrest, hheard'⟩ := ih hkeys' (hheard.refusing hdisk)
    exact ⟨loop₂, (bind_ok hfirst).trans hrest, hheard.append hheard'⟩

/-! ## Events that may be refused -/

/-- What events leave alone, refused or not: the mode, the pictures shown, and all of the debugger but the pad, the
journal, and a request for a step, which takes an event that asks for one. -/
structure Touched (loop : ControlLoop τ) (events : List InputEvent) (loop' : ControlLoop τ) : Prop where
  debugger : ∃ keypad stepRequested journal, loop'.debugger = { loop.debugger with
    vm := { loop.debugger.vm with keypad }, stepRequested, journal }
  mode : loop'.singleStep = loop.singleStep
  frames : loop'.debugger.frames = loop.debugger.frames
  request : loop'.debugger.stepRequested = true → loop.debugger.stepRequested = true ∨ .step ∈ events

namespace Touched

theorem refl (loop : ControlLoop τ) (events : List InputEvent) : Touched loop events loop :=
  ⟨⟨_, _, _, rfl⟩, rfl, rfl, .inl⟩

theorem trans (h : Touched loop events loop₁) (h' : Touched loop₁ more loop₂) :
    Touched loop (events ++ more) loop₂ where
  debugger := by
    obtain ⟨_, _, _, hd⟩ := h.debugger
    obtain ⟨keypad, stepRequested, journal, hd'⟩ := h'.debugger
    rw [hd] at hd'
    exact ⟨keypad, stepRequested, journal, hd'⟩
  mode := h'.mode.trans h.mode
  frames := h'.frames.trans h.frames
  request := fun hr => by
    rw [List.mem_append, ← or_assoc]
    exact (h'.request hr).imp_left h.request

theorem vm (h : Touched loop events loop₁) : ∃ keypad, loop₁.debugger.vm = { loop.debugger.vm with keypad } := by
  obtain ⟨keypad, _, _, hd⟩ := h.debugger
  exact ⟨keypad, by rw [hd]⟩

theorem breakpoints (h : Touched loop events loop₁) : loop₁.debugger.breakpoints = loop.debugger.breakpoints := by
  obtain ⟨_, _, _, hd⟩ := h.debugger
  rw [hd]

theorem cycles (h : Touched loop events loop₁) : loop₁.debugger.vm.cycles = loop.debugger.vm.cycles := by
  obtain ⟨keypad, hvm⟩ := h.vm
  rw [hvm]

end Touched

theorem setKey_touched (k : Int) (pressed : Bool) (loop : ControlLoop τ) :
    Touched loop [.key k pressed] (endState (setKey k pressed) loop) := by
  cases hset : loop.debugger.vm.keypad.set k pressed with
  | ok keypad =>
    have hrun : setKey k pressed loop = .ok ()
        { loop with debugger := { loop.debugger with vm := { loop.debugger.vm with keypad } } } := by
      simp only [setKey, hset]
    rw [endState_ok hrun]
    exact ⟨⟨keypad, _, _, rfl⟩, rfl, rfl, .inl⟩
  | error fault =>
    have hrun : setKey k pressed loop = .error fault loop := by simp only [setKey, hset]
    rw [endState_error hrun]
    exact .refl loop _

theorem dump_touched (loop : ControlLoop τ) : Touched loop [.dump] (endState dump loop) := by
  rw [endState, dump_eq]
  cases loop.disk.item loop.disk.taken with
  | none =>
    have hframes := (loop.debugger.put (.written loop.dumpPath loop.debugger.vm.memory.image)).frames_note
      (.dumped loop.dumpPath)
    rw [Debugger.frames_put] at hframes
    exact ⟨⟨_, _, _, rfl⟩, rfl, hframes.trans (List.append_nil _), .inl⟩
  | some fault =>
    dsimp only
    by_cases hsystem : fault.isSystem
    · rw [if_pos hsystem]
      exact ⟨⟨_, _, _, rfl⟩, rfl, loop.debugger.frames_note _, .inl⟩
    · rw [if_neg hsystem]
      exact ⟨⟨_, _, _, rfl⟩, rfl, rfl, .inl⟩

theorem handle_touched (event : InputEvent) (loop : ControlLoop τ) :
    Touched loop [event] (endState (handle event) loop) := by
  cases event with
  | quit => exact ⟨⟨_, _, _, rfl⟩, rfl, rfl, .inl⟩
  | step => exact ⟨⟨_, _, _, rfl⟩, rfl, rfl, fun _ => .inr List.mem_cons_self⟩
  | key k pressed => exact setKey_touched k pressed loop
  | dump => exact dump_touched loop

/-- The events of a poll, up to one that is refused. -/
theorem handleAll_touched (events : List InputEvent) (loop : ControlLoop τ) :
    Touched loop events (endState (handleAll events) loop) := by
  induction events generalizing loop with
  | nil => exact .refl loop []
  | cons event events ih =>
    have hfirst := handle_touched event loop
    cases hrun : handle event loop with
    | ok _ loop₁ =>
      have hall : handleAll (event :: events) loop = handleAll events loop₁ := bind_ok hrun
      rw [endState_ok hrun] at hfirst
      rw [endState, hall]
      exact hfirst.trans (ih loop₁)
    | error fault loop₁ =>
      -- the events after a refused one are lost
      have hall : handleAll (event :: events) loop = .error fault loop₁ := bind_error hrun
      rw [endState_error hrun] at hfirst
      rw [endState_error hall]
      exact hfirst.trans (.refl loop₁ events)

theorem handleAll_keeps {R : ControlLoop τ → ControlLoop τ → Prop} (hrefl : ∀ loop, R loop loop)
    (htrans : ∀ {loop₁ loop₂ loop₃}, R loop₁ loop₂ → R loop₂ loop₃ → R loop₁ loop₃)
    (hstep : ∀ event loop, R loop (endState (handle event) loop)) (events : List InputEvent) (loop : ControlLoop τ) :
    R loop (endState (handleAll events) loop) := by
  induction events generalizing loop with
  | nil => exact hrefl loop
  | cons event events ih =>
    have hfirst := hstep event loop
    cases hrun : handle event loop with
    | ok _ loop₁ =>
      have hall : handleAll (event :: events) loop = handleAll events loop₁ := bind_ok hrun
      rw [endState_ok hrun] at hfirst
      rw [endState, hall]
      exact htrans hfirst (ih loop₁)
    | error fault loop₁ =>
      have hall : handleAll (event :: events) loop = .error fault loop₁ := bind_error hrun
      rw [endState_error hrun] at hfirst
      rw [endState_error hall]
      exact hfirst

/-- An event of a key that the pad has, or of none, is refused only if it is for an image with a name that is no file
name. -/
theorem handle_fault {fault : Fault} (hkey : KeysOnPad [event]) (h : handle event loop = .error fault loop₁) :
    ∃ failure, fault = .imageName failure := by
  cases event with
  | quit | step => cases h
  | key k pressed =>
    obtain ⟨hlow, hhigh⟩ := hkey k pressed List.mem_cons_self
    have hset : handle (.key k pressed) loop = _ := setKey_onPad hlow hhigh pressed
    rw [hset] at h
    cases h
  | dump =>
    have hdump : handle .dump loop = _ := loop.dump_eq
    rw [hdump] at h
    cases hfailure : loop.disk.item loop.disk.taken with
    | none =>
      rw [hfailure] at h
      cases h
    | some failure =>
      rw [hfailure] at h
      dsimp only at h
      split at h
      · cases h
      · cases h
        exact ⟨failure, rfl⟩

theorem handleAll_fault {fault : Fault} (hkeys : KeysOnPad events) (h : handleAll events loop = .error fault loop₁) :
    ∃ failure, fault = .imageName failure := by
  induction events generalizing loop with
  | nil => cases h
  | cons event events ih =>
    cases hrun : handle event loop with
    | ok _ loop₂ =>
      have hall : handleAll (event :: events) loop = handleAll events loop₂ := bind_ok hrun
      rw [hall] at h
      exact ih (fun k pressed hmem => hkeys k pressed (List.mem_cons_of_mem event hmem)) h
    | error fault₂ loop₂ =>
      have hall : handleAll (event :: events) loop = .error fault₂ loop₂ := bind_error hrun
      rw [hall] at h
      cases h
      refine handle_fault (fun k pressed hmem => hkeys k pressed ?_) hrun
      exact List.mem_cons.mpr (.inl (List.mem_singleton.mp hmem))

theorem handle_stopped (event : InputEvent) (loop : ControlLoop τ) :
    loop.running = false → (endState (handle event) loop).running = false := by
  intro hr
  cases event with
  | quit => rfl
  | step => exact hr
  | key k pressed =>
    show (endState (setKey k pressed) loop).running = false
    simp only [endState, setKey]
    cases loop.debugger.vm.keypad.set k pressed with
    | ok keypad => exact hr
    | error fault => exact hr
  | dump =>
    show (endState dump loop).running = false
    rw [endState, dump_eq]
    cases loop.disk.item loop.disk.taken with
    | none => exact hr
    | some failure =>
      dsimp only
      split
      · exact hr
      · exact hr

theorem handleAll_stopped (events : List InputEvent) (loop : ControlLoop τ) :
    loop.running = false → (endState (handleAll events) loop).running = false :=
  handleAll_keeps (R := fun loop loop' => loop.running = false → loop'.running = false) (fun _ => id)
    (fun h h' => h' ∘ h) handle_stopped events loop

/-- If none of the events is refused, one that asks to quit ends the loop. -/
theorem handleAll_quit (hquit : .quit ∈ events) (h : handleAll events loop = .ok () loop₁) :
    loop₁.running = false := by
  induction events generalizing loop with
  | nil => cases hquit
  | cons event events ih =>
    cases hrun : handle event loop with
    | ok _ loop₂ =>
      have hall : handleAll (event :: events) loop = handleAll events loop₂ := bind_ok hrun
      rw [hall] at h
      rcases List.mem_cons.mp hquit with rfl | hlater
      · have hstopped : loop₂.running = false := by
          cases hrun
          rfl
        rw [← endState_ok h]
        exact handleAll_stopped events loop₂ hstopped
      · exact ih hlater h
    | error fault loop₂ =>
      have hall : handleAll (event :: events) loop = .error fault loop₂ := bind_error hrun
      rw [hall] at h
      cases h

end ControlLoop

end Chip8
