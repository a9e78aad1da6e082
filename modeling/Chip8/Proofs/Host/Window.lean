import Chip8.Host.Window
import Chip8.Proofs.ControlLoop.Iteration
import Chip8.Proofs.Host.View

/-!
# Nothing runs after the end

The window drives its loop by firings of a timer, and it may go on to be fired, to take strokes, to be stopped and to
be closed after it came to its end. `Firing` says what a firing does: iterations that go on, up to the batch, or up to
one that does not, and after that one there is none. Once the loop is ended, however that came about, all that the
moves still do to the machine is to put keys of its pad up and down; and the exit code is one from the first fatal
fault on, and only then.

Main statements: `runBatch_firing`, `moved_still` (one move), `movedAll_still` (a run), `movedAll_ended`,
`nothing_after_end`.
-/

namespace Chip8

namespace ControlLoop

variable {τ : Type} {loop : ControlLoop τ} {events : List InputEvent}

/-- What a loop that was ended does with a poll. -/
structure Rests (loop loop' : ControlLoop τ) : Prop where
  running : loop'.running = false
  machine : ∃ keypad, loop'.debugger.vm = { loop.debugger.vm with keypad }

/-- A loop that was ended takes the events of a poll, and says that it is ended, or refuses one of them for the name of
the memory image. -/
theorem iterate_stopped (hkeys : KeysOnPad events) (hr : loop.running = false) :
    (∃ loop', iterate events loop = .ok false loop' ∧ Rests loop loop')
      ∨ ∃ failure loop', iterate events loop = .error (.imageName failure) loop' ∧ Rests loop loop' := by
  have htouched := handleAll_touched events loop
  have hstopped := handleAll_stopped events loop hr
  cases hhandle : handleAll events loop with
  | ok _ heard =>
    rw [endState_ok hhandle] at htouched hstopped
    have hrun : iterate events loop = .ok false heard := (bind_ok hhandle).trans (proceed_ended hstopped)
    exact .inl ⟨heard, hrun, hstopped, htouched.vm⟩
  | error fault heard =>
    rw [endState_error hhandle] at htouched hstopped
    obtain ⟨failure, rfl⟩ := handleAll_fault hkeys hhandle
    exact .inr ⟨failure, heard, bind_error hhandle, hstopped, htouched.vm⟩

/-- If an iteration is not refused and its poll asks to quit, it says that the loop is ended. -/
theorem iterate_quit {goesOn : Bool} {loop' : ControlLoop τ} (hquit : .quit ∈ events)
    (h : iterate events loop = .ok goesOn loop') : goesOn = false ∧ loop'.running = false := by
  cases hhandle : handleAll events loop with
  | ok _ heard =>
    have hended := handleAll_quit hquit hhandle
    have hrun : iterate events loop = .ok false heard := (bind_ok hhandle).trans (proceed_ended hended)
    rw [hrun] at h
    cases h
    exact ⟨rfl, hended⟩
  | error fault heard =>
    have hrun : iterate events loop = .error fault heard := bind_error hhandle
    rw [hrun] at h
    cases h

end ControlLoop

namespace Host.Window

variable {τ : Type} {w w' w₁ w₂ : Window τ} {fault : Fault} {n k : Nat}

/-! ## Iterations -/

theorem foldl_present (pictures : List Picture) (v : View) :
    ∃ picture updates, pictures.foldl View.present v = { v with picture, updates } := by
  induction pictures generalizing v with
  | nil => exact ⟨v.picture, v.updates, rfl⟩
  | cons picture pictures ih => exact ih (v.present picture)

theorem showSince_eq (length : Nat) (w : Window τ) :
    ∃ picture updates, showSince length w = { w with view := { w.view with picture, updates } } := by
  obtain ⟨picture, updates, hview⟩ := foldl_present ((w.loop.debugger.journal.extract length
    w.loop.debugger.journal.size).toList.filterMap Output.shown?) w.view
  refine ⟨picture, updates, ?_⟩
  rw [showSince, hview]

/-- An iteration is one of the loop over the queue of the view. Of the view it takes that queue, and may change the
picture. -/
theorem iterate_eq (w : Window τ) : ∃ picture updates,
    iterate w = match ControlLoop.iterate w.view.queue w.loop with
      | .ok goesOn loop => .ok goesOn { w with loop, view := { w.view with queue := [], picture, updates } }
      | .error fault loop => .error fault { w with loop, view := { w.view with queue := [], picture, updates } } := by
  cases hloop : ControlLoop.iterate w.view.queue w.loop with
  | ok goesOn loop =>
    have hrun : iterate w = .ok goesOn (showSince w.loop.debugger.journal.size
        { w with loop, view := { w.view with queue := [] } }) := by
      simp only [iterate, View.poll, hloop]
    obtain ⟨picture, updates, hshown⟩ := showSince_eq w.loop.debugger.journal.size
      { w with loop, view := { w.view with queue := [] } }
    exact ⟨picture, updates, hrun.trans (congrArg _ hshown)⟩
  | error fault loop =>
    have hrun : iterate w = .error fault (showSince w.loop.debugger.journal.size
        { w with loop, view := { w.view with queue := [] } }) := by
      simp only [iterate, View.poll, hloop]
    obtain ⟨picture, updates, hshown⟩ := showSince_eq w.loop.debugger.journal.size
      { w with loop, view := { w.view with queue := [] } }
    exact ⟨picture, updates, hrun.trans (congrArg _ hshown)⟩

theorem iterate_loop (w : Window τ) :
    (endState iterate w).loop = endState (ControlLoop.iterate w.view.queue) w.loop := by
  obtain ⟨picture, updates, hrun⟩ := w.iterate_eq
  rw [endState, hrun, endState]
  cases ControlLoop.iterate w.view.queue w.loop with
  | ok goesOn loop => rfl
  | error fault loop => rfl

theorem iterate_view (w : Window τ) :
    ∃ picture updates, (endState iterate w).view = { w.view with queue := [], picture, updates } := by
  obtain ⟨picture, updates, hrun⟩ := w.iterate_eq
  refine ⟨picture, updates, ?_⟩
  rw [endState, hrun]
  cases ControlLoop.iterate w.view.queue w.loop with
  | ok goesOn loop => rfl
  | error fault loop => rfl

/-- What iterations leave alone: all of the window but its loop and its view, and that the view hears of keys of the
pad only. -/
structure Drives (w w' : Window τ) : Prop where
  onPad : w.view.OnPad → w'.view.OnPad
  rest : w' = { w with loop := w'.loop, view := w'.view }

theorem Drives.refl (w : Window τ) : Drives w w := ⟨id, rfl⟩

theorem Drives.trans (h : Drives w w₁) (h' : Drives w₁ w₂) : Drives w w₂ := by
  refine ⟨h'.onPad ∘ h.onPad, ?_⟩
  rw [h'.rest, h.rest]

theorem iterate_drives (w : Window τ) : Drives w (endState iterate w) := by
  refine ⟨fun h => ?_, ?_⟩
  · obtain ⟨picture, updates, hview⟩ := w.iterate_view
    rw [hview]
    exact ⟨h.controls, fun k pressed hmem => absurd hmem List.not_mem_nil⟩
  · obtain ⟨picture, updates, hrun⟩ := w.iterate_eq
    rw [endState, hrun]
    cases ControlLoop.iterate w.view.queue w.loop with
    | ok goesOn loop => rfl
    | error fault loop => rfl

theorem Drives.of_ok {goesOn : Bool} (h : iterate w = .ok goesOn w') : Drives w w' := by
  rw [← endState_ok h]
  exact w.iterate_drives

theorem Drives.of_error (h : iterate w = .error fault w') : Drives w w' := by
  rw [← endState_error h]
  exact w.iterate_drives

/-- A window whose view holds that the user asked to quit does not go on. -/
theorem iterate_quit (hquit : .quit ∈ w.view.queue) : iterate w ≠ .ok true w' := by
  intro h
  obtain ⟨picture, updates, hrun⟩ := w.iterate_eq
  rw [hrun] at h
  cases hloop : ControlLoop.iterate w.view.queue w.loop with
  | ok goesOn loop =>
    rw [hloop, (ControlLoop.iterate_quit hquit hloop).1] at h
    cases h
  | error fault loop =>
    rw [hloop] at h
    cases h

/-! ## Firings -/

/-- A row of iterations that go on leads from one window to the other. -/
inductive Passes : Nat → Window τ → Window τ → Prop where
  | zero (w : Window τ) : Passes 0 w w
  | succ {n : Nat} {w w₁ w₂ : Window τ} (hstep : iterate w = .ok true w₁) (hrest : Passes n w₁ w₂) :
    Passes (n + 1) w w₂

/-- What a firing of the timer does, by the number of its iterations. -/
inductive Firing (w : Window τ) : Nat → EStateM.Result Fault (Window τ) Unit → Prop where
  /-- The whole batch goes on. -/
  | whole {w₁ : Window τ} (hpasses : Passes w.batch w w₁) : Firing w w.batch (.ok () w₁)
  /-- The last iteration says that the loop is ended, and the window is closed. -/
  | ended {k : Nat} {w₁ w₂ : Window τ} (hk : k < w.batch) (hpasses : Passes k w w₁)
    (hlast : iterate w₁ = .ok false w₂) : Firing w (k + 1) (.ok () w₂.close)
  /-- The last iteration is refused for a fatal fault, which ends the window. -/
  | failed {k : Nat} {w₁ w₂ : Window τ} {fault : Fault} (hk : k < w.batch) (hpasses : Passes k w w₁)
    (hlast : iterate w₁ = .error fault w₂) (hfatal : fault.fatal = true) : Firing w (k + 1) (.ok () (w₂.fail fault))
  /-- The last iteration is refused for another fault, and so is the firing. -/
  | refused {k : Nat} {w₁ w₂ : Window τ} {fault : Fault} (hk : k < w.batch) (hpasses : Passes k w w₁)
    (hlast : iterate w₁ = .error fault w₂) (hfatal : fault.fatal = false) : Firing w (k + 1) (.error fault w₂)

/-- How at most `n` iterations end, by their number. -/
inductive Ending (w : Window τ) (n : Nat) : Nat → EStateM.Result Fault (Window τ) Bool → Prop where
  | whole {w₁ : Window τ} (hpasses : Passes n w w₁) : Ending w n n (.ok true w₁)
  | ended {k : Nat} {w₁ w₂ : Window τ} (hk : k < n) (hpasses : Passes k w w₁) (hlast : iterate w₁ = .ok false w₂) :
    Ending w n (k + 1) (.ok false w₂)
  | refused {k : Nat} {w₁ w₂ : Window τ} {fault : Fault} (hk : k < n) (hpasses : Passes k w w₁)
    (hlast : iterate w₁ = .error fault w₂) : Ending w n (k + 1) (.error fault w₂)

theorem Ending.pass {result : EStateM.Result Fault (Window τ) Bool} (hstep : iterate w = .ok true w₁)
    (h : Ending w₁ n k result) : Ending w (n + 1) (k + 1) result := by
  cases h with
  | whole hpasses => exact .whole (.succ hstep hpasses)
  | ended hk hpasses hlast => exact .ended (Nat.succ_lt_succ hk) (.succ hstep hpasses) hlast
  | refused hk hpasses hlast => exact .refused (Nat.succ_lt_succ hk) (.succ hstep hpasses) hlast

theorem iterateUpTo_ending (n : Nat) (w : Window τ) : ∃ k ≤ n, Ending w n k (iterateUpTo n w) := by
  induction n generalizing w with
  | zero => exact ⟨0, Nat.le_refl 0, .whole (.zero w)⟩
  | succ n ih =>
    cases hstep : iterate w with
    | error fault w₁ =>
      have hrun : iterateUpTo (n + 1) w = .error fault w₁ := bind_error hstep
      rw [hrun]
      exact ⟨1, Nat.succ_le_succ (Nat.zero_le n), .refused (Nat.zero_lt_succ n) (.zero w) hstep⟩
    | ok goesOn w₁ =>
      cases goesOn with
      | false =>
        have hrun : iterateUpTo (n + 1) w = .ok false w₁ := bind_ok hstep
        rw [hrun]
        exact ⟨1, Nat.succ_le_succ (Nat.zero_le n), .ended (Nat.zero_lt_succ n) (.zero w) hstep⟩
      | true =>
        have hrun : iterateUpTo (n + 1) w = iterateUpTo n w₁ := bind_ok hstep
        obtain ⟨k, hk, hending⟩ := ih w₁
        rw [hrun]
        exact ⟨k + 1, Nat.succ_le_succ hk, hending.pass hstep⟩

/-- Every firing is one of the four kinds, and makes no more iterations than the batch has. -/
theorem runBatch_firing (w : Window τ) : ∃ k ≤ w.batch, Firing w k (runBatch w) := by
  obtain ⟨k, hk, hending⟩ := iterateUpTo_ending w.batch w
  refine ⟨k, hk, ?_⟩
  unfold runBatch
  generalize iterateUpTo w.batch w = result at hending
  cases hending with
  | whole hpasses => exact .whole hpasses
  | ended hlt hpasses hlast => exact .ended hlt hpasses hlast
  | @refused k w₁ w₂ fault hlt hpasses hlast =>
    dsimp only
    split
    · next hfatal => exact .failed hlt hpasses hlast hfatal
    · next hfatal => exact .refused hlt hpasses hlast (Bool.eq_false_iff.mpr hfatal)

theorem Passes.drives (h : Passes n w w') : Drives w w' := by
  induction h with
  | zero w => exact .refl w
  | succ hstep hrest ih => exact (Drives.of_ok hstep).trans ih

theorem Passes.iterateUpTo (h : Passes k w w') (n : Nat) : iterateUpTo (k + n) w = iterateUpTo n w' := by
  induction h with
  | zero w => rw [Nat.zero_add]
  | @succ k w w₁ w₂ hstep hrest ih =>
    have hnumber : k + 1 + n = k + n + 1 := by omega
    have hrun : Window.iterateUpTo (k + n + 1) w = Window.iterateUpTo (k + n) w₁ := bind_ok hstep
    rw [hnumber, hrun, ih]

/-- One of the iterations of a firing raises a fault. -/
def Raises (w : Window τ) (fault : Fault) : Prop :=
  ∃ k w₁ w₂, k < w.batch ∧ Passes k w w₁ ∧ iterate w₁ = .error fault w₂

theorem Raises.runBatch (h : Raises w fault) (hfatal : fault.fatal = true) :
    ∃ w' : Window τ, runBatch w = .ok () (w'.fail fault) := by
  obtain ⟨k, w₁, w₂, hk, hpasses, hlast⟩ := h
  obtain ⟨n, hn⟩ : ∃ n, w.batch = k + (n + 1) := ⟨w.batch - k - 1, by omega⟩
  have hrest : Window.iterateUpTo (n + 1) w₁ = .error fault w₂ := bind_error hlast
  refine ⟨w₂, ?_⟩
  rw [Window.runBatch, hn, hpasses.iterateUpTo, hrest]
  exact if_pos hfatal

/-! ## Moves -/

/-- What can happen to a window, at any time. -/
inductive Move where
  /-- The timer fires, stopped or not. -/
  | fire
  | stroke (s : Stroke)
  /-- The loop is ended from outside. -/
  | stop
  | close

variable {move : Move} {moves later : List Move}

def moved (w : Window τ) : Move → Window τ
  | .fire => endState runBatch w
  | .stroke s => (w.take s).2
  | .stop => { w with loop := w.loop.stop }
  | .close => w.close

def movedAll (w : Window τ) (moves : List Move) : Window τ := moves.foldl moved w

/-- The window stays at its end: nothing but keys of the pad changes. -/
structure Still (w w' : Window τ) : Prop where
  running : w'.loop.running = false
  machine : ∃ keypad, w'.loop.debugger.vm = { w.loop.debugger.vm with keypad }
  exitCode : w'.exitCode = w.exitCode
  ended : w'.ended = w.ended
  closed : w.closed = true → w'.closed = true
  timer : w.timerActive = false → w'.timerActive = false

namespace Still

theorem refl (hr : w.loop.running = false) : Still w w := ⟨hr, ⟨_, rfl⟩, rfl, rfl, id, id⟩

theorem trans (h : Still w w₁) (h' : Still w₁ w₂) : Still w w₂ where
  running := h'.running
  machine := by
    obtain ⟨_, hvm⟩ := h.machine
    obtain ⟨keypad, hvm'⟩ := h'.machine
    rw [hvm] at hvm'
    exact ⟨keypad, hvm'⟩
  exitCode := h'.exitCode.trans h.exitCode
  ended := h'.ended.trans h.ended
  closed := h'.closed ∘ h.closed
  timer := h'.timer ∘ h.timer

theorem close (h : Still w w₁) : Still w w₁.close :=
  ⟨rfl, h.machine, h.exitCode, h.ended, fun _ => rfl, fun _ => rfl⟩

end Still

theorem iterate_stopped (hpad : w.view.OnPad) (hr : w.loop.running = false) :
    (∃ w', iterate w = .ok false w' ∧ Still w w')
      ∨ ∃ failure w', iterate w = .error (.imageName failure) w' ∧ Still w w' := by
  obtain ⟨picture, updates, hrun⟩ := w.iterate_eq
  rcases ControlLoop.iterate_stopped hpad.queue hr with ⟨loop, hloop, hrests⟩ | ⟨failure, loop, hloop, hrests⟩
  · rw [hloop] at hrun
    exact .inl ⟨_, hrun, hrests.running, hrests.machine, rfl, rfl, id, id⟩
  · rw [hloop] at hrun
    exact .inr ⟨failure, _, hrun, hrests.running, hrests.machine, rfl, rfl, id, id⟩

theorem fire_still (hpad : w.view.OnPad) (hr : w.loop.running = false) : Still w (endState runBatch w) := by
  cases hbatch : w.batch with
  | zero =>
    have hrun : runBatch w = .ok () w := by
      rw [runBatch, hbatch]
      rfl
    rw [endState_ok hrun]
    exact .refl hr
  | succ n =>
    rcases iterate_stopped hpad hr with ⟨w', hlast, hstill⟩ | ⟨failure, w', hlast, hstill⟩
    · have hrest : iterateUpTo (n + 1) w = .ok false w' := bind_ok hlast
      have hrun : runBatch w = .ok () w'.close := by rw [runBatch, hbatch, hrest]
      rw [endState_ok hrun]
      exact hstill.close
    · have hrest : iterateUpTo (n + 1) w = .error (.imageName failure) w' := bind_error hlast
      have hrun : runBatch w = .error (.imageName failure) w' := by
        rw [runBatch, hbatch, hrest]
        rfl
      rw [endState_error hrun]
      exact hstill

/-- What a firing leaves: the window as its iterations leave it, perhaps closed, or ended for a fatal fault that one of
them raised. -/
theorem fire_drives (w : Window τ) : ∃ w₁, Drives w w₁ ∧ (endState runBatch w = w₁ ∨ endState runBatch w = w₁.close
    ∨ ∃ fault, Raises w fault ∧ fault.fatal = true ∧ endState runBatch w = w₁.fail fault) := by
  obtain ⟨k, -, hfiring⟩ := w.runBatch_firing
  unfold endState
  generalize runBatch w = result at hfiring
  cases hfiring with
  | whole hpasses => exact ⟨_, hpasses.drives, .inl rfl⟩
  | ended hk hpasses hlast => exact ⟨_, hpasses.drives.trans (.of_ok hlast), .inr (.inl rfl)⟩
  | failed hk hpasses hlast hfatal =>
    exact ⟨_, hpasses.drives.trans (.of_error hlast), .inr (.inr ⟨_, ⟨_, _, _, hk, hpasses, hlast⟩, hfatal, rfl⟩)⟩
  | refused hk hpasses hlast hfatal => exact ⟨_, hpasses.drives.trans (.of_error hlast), .inl rfl⟩

theorem runBatch_quit (hbatch : 0 < w.batch) (hquit : .quit ∈ w.view.queue) (h : runBatch w = .ok () w') :
    w'.loop.running = false ∧ w'.closed = true := by
  obtain ⟨k, -, hfiring⟩ := w.runBatch_firing
  rw [h] at hfiring
  cases hfiring with
  | whole hpasses =>
    -- the first iteration polls the request, and does not go on
    obtain ⟨n, hn⟩ := Nat.exists_eq_succ_of_ne_zero (Nat.ne_of_gt hbatch)
    rw [hn] at hpasses
    cases hpasses with
    | succ hstep hrest => exact absurd hstep (iterate_quit hquit)
  | ended hk hpasses hlast => exact ⟨rfl, rfl⟩
  | failed hk hpasses hlast hfatal => exact ⟨rfl, rfl⟩

/-! ## The end -/

theorem moved_onPad (hpad : w.view.OnPad) (move : Move) : (w.moved move).view.OnPad := by
  cases move with
  | fire =>
    obtain ⟨w₁, hdrives, hend⟩ := w.fire_drives
    show (endState runBatch w).view.OnPad
    rcases hend with hend | hend | ⟨fault, -, -, hend⟩
    all_goals rw [hend]; exact hdrives.onPad hpad
  | stroke s => exact hpad.take s
  | stop | close => exact hpad

theorem moved_batch (w : Window τ) (move : Move) : (w.moved move).batch = w.batch := by
  cases move with
  | fire =>
    obtain ⟨w₁, hdrives, hend⟩ := w.fire_drives
    have hbatch : w₁.batch = w.batch := by rw [hdrives.rest]
    show (endState runBatch w).batch = w.batch
    rcases hend with hend | hend | ⟨fault, -, -, hend⟩
    all_goals rw [hend]; exact hbatch
  | stroke s | stop | close => rfl

theorem movedAll_batch (w : Window τ) (moves : List Move) : (w.movedAll moves).batch = w.batch := by
  induction moves generalizing w with
  | nil => rfl
  | cons move moves ih => exact (ih (w.moved move)).trans (moved_batch w move)

theorem moved_still (hpad : w.view.OnPad) (hr : w.loop.running = false) (move : Move) : Still w (w.moved move) := by
  cases move with
  | fire => exact fire_still hpad hr
  | stroke s => exact ⟨hr, ⟨_, rfl⟩, rfl, rfl, id, id⟩
  | stop => exact ⟨rfl, ⟨_, rfl⟩, rfl, rfl, id, id⟩
  | close => exact (Still.refl hr).close

theorem movedAll_still (hpad : w.view.OnPad) (hr : w.loop.running = false) (moves : List Move) :
    Still w (w.movedAll moves) := by
  induction moves generalizing w with
  | nil => exact .refl hr
  | cons move moves ih =>
    have hfirst := moved_still hpad hr move
    exact hfirst.trans (ih (moved_onPad hpad move) hfirst.running)

/-- The exit code tells whether a fault ended the window, and if one did, everything is at its end. -/
structure Sound (w : Window τ) : Prop where
  view : w.view.OnPad
  exitCode : w.exitCode = if w.ended.isSome then 1 else 0
  ended : w.ended.isSome = true → w.closed = true ∧ w.timerActive = false ∧ w.loop.running = false

theorem Still.sound (h : Still w w') (hsound : Sound w) (hpad : w'.view.OnPad) : Sound w' := by
  refine ⟨hpad, ?_, fun hsome => ?_⟩
  · rw [h.exitCode, h.ended]
    exact hsound.exitCode
  · rw [h.ended] at hsome
    obtain ⟨hclosed, htimer, -⟩ := hsound.ended hsome
    exact ⟨h.closed hclosed, h.timer htimer, h.running⟩

theorem moved_sound (h : Sound w) (move : Move) : Sound (w.moved move) := by
  have hpad := moved_onPad h.view move
  -- while the loop runs, no fault has ended the window yet
  cases hr : w.loop.running with
  | false => exact (moved_still h.view hr move).sound h hpad
  | true =>
    cases move with
    | fire =>
      have hnone : w.ended.isSome = true → False := fun hsome => by
        rw [(h.ended hsome).2.2] at hr
        cases hr
      -- a firing goes on, ends the loop, or ends with a fatal fault
      obtain ⟨w₁, hdrives, hend⟩ := w.fire_drives
      have hcode : w₁.exitCode = if w₁.ended.isSome then 1 else 0 := by
        rw [hdrives.rest]
        exact h.exitCode
      have hended : w₁.ended = w.ended := by rw [hdrives.rest]
      have hmoved : w.moved .fire = endState runBatch w := rfl
      rw [hmoved] at hpad ⊢
      rcases hend with hend | hend | ⟨fault, -, -, hend⟩
      · rw [hend] at hpad ⊢
        exact ⟨hpad, hcode, fun hsome => (hnone (hended ▸ hsome)).elim⟩
      · rw [hend] at hpad ⊢
        exact ⟨hpad, hcode, fun _ => ⟨rfl, rfl, rfl⟩⟩
      · rw [hend] at hpad ⊢
        exact ⟨hpad, rfl, fun _ => ⟨rfl, rfl, rfl⟩⟩
    | stroke s => exact ⟨hpad, h.exitCode, h.ended⟩
    | stop =>
      refine ⟨hpad, h.exitCode, fun hsome => ?_⟩
      obtain ⟨hclosed, htimer, -⟩ := h.ended hsome
      exact ⟨hclosed, htimer, rfl⟩
    | close => exact ⟨hpad, h.exitCode, fun _ => ⟨rfl, rfl, rfl⟩⟩

theorem movedAll_sound (h : Sound w) (moves : List Move) : Sound (w.movedAll moves) := by
  induction moves generalizing w with
  | nil => exact h
  | cons move moves ih => exact ih (moved_sound h move)

/-! ## Fatal faults -/

/-- A move ends the window for a fault if it is a firing in which a fatal one is raised, and only then. -/
theorem moved_ended (h : Sound w) (move : Move) : (w.moved move).ended.isSome = true
    ↔ w.ended.isSome = true ∨ move = .fire ∧ ∃ fault, Raises w fault ∧ fault.fatal = true := by
  constructor
  · intro hsome
    cases move with
    | fire =>
      obtain ⟨w₁, hdrives, hend⟩ := w.fire_drives
      have hended : w₁.ended = w.ended := by rw [hdrives.rest]
      have hmoved : (endState runBatch w).ended.isSome = true := hsome
      rcases hend with hend | hend | ⟨fault, hraises, hfatal, hend⟩
      · rw [hend, hended] at hmoved
        exact .inl hmoved
      · rw [hend] at hmoved
        exact .inl (hended ▸ hmoved)
      · exact .inr ⟨rfl, fault, hraises, hfatal⟩
    | stroke _ | stop | close => exact .inl hsome
  · rintro (hsome | ⟨rfl, fault, hraises, hfatal⟩)
    · rw [(moved_still h.view (h.ended hsome).2.2 move).ended]
      exact hsome
    · obtain ⟨w', hrun⟩ := hraises.runBatch hfatal
      have hmoved : w.moved .fire = w'.fail fault := endState_ok hrun
      rw [hmoved]
      rfl

/-- A fault ended the window if a fatal one was raised in one of the firings, and only then. -/
theorem movedAll_ended (h : Sound w) (moves : List Move) : (w.movedAll moves).ended.isSome = true
    ↔ w.ended.isSome = true ∨ ∃ before after fault, moves = before ++ .fire :: after
      ∧ Raises (w.movedAll before) fault ∧ fault.fatal = true := by
  induction moves generalizing w with
  | nil => simp [movedAll]
  | cons move moves ih =>
    have hrest := ih (moved_sound h move)
    rw [moved_ended h move] at hrest
    refine hrest.trans ?_
    -- the first move ends the window itself, or one of the later moves does with the first before it
    rw [or_assoc]
    refine or_congr_right ?_
    constructor
    · rintro (⟨rfl, fault, hraises, hfatal⟩ | ⟨before, after, fault, rfl, hraises, hfatal⟩)
      · exact ⟨[], moves, fault, rfl, hraises, hfatal⟩
      · exact ⟨move :: before, after, fault, rfl, hraises, hfatal⟩
    · rintro ⟨before, after, fault, hmoves, hraises, hfatal⟩
      cases before with
      | nil =>
        cases hmoves
        exact .inl ⟨rfl, fault, hraises, hfatal⟩
      | cons first before =>
        cases hmoves
        exact .inr ⟨before, after, fault, rfl, hraises, hfatal⟩

/-- The window over the loop of a debugged machine, with the view that settings describe, after any moves. Its batch is
that of the settings, and a firing makes no more iterations than that, and none after one that does not go on. The loop
is ended by a request to quit, unless the firing that polls it is refused, and by stopping, closing, and fatal faults.
Once it is ended, whatever comes later leaves all of the machine but its pad as it is, and the loop ended. The exit code
is one if a fault ended the window, which is so if a fatal one was raised in a firing; then the window is closed, the
timer stopped, and the loop ended, so that the exit code stays. -/
theorem nothing_after_end [Toolkit] {settings : Settings} {view : View} (hview : View.ofSettings settings = .ok view)
    (debugger : Debugger) (singleStep : Bool) (due : τ → τ → Bool) (clock : Source τ)
    (disk : Source (Option FileFault)) (moves : List Move) :
    let start := Window.new (.new debugger singleStep due clock disk settings.dumpPath) view settings
    let w := start.movedAll moves
    w.batch = max 1 (settings.cyclesPerSecond / settings.timerHz)
    ∧ (∃ k ≤ w.batch, Firing w k (runBatch w))
    ∧ (.quit ∈ w.view.queue → ∀ w', runBatch w = .ok () w' → w'.loop.running = false)
    ∧ (w.moved .stop).loop.running = false ∧ (w.moved .close).loop.running = false
    ∧ (w.loop.running = false → ∀ later, Still w (w.movedAll later))
    ∧ (w.exitCode = 1 ↔ w.ended.isSome = true)
    ∧ (w.ended.isSome = true ↔ ∃ before after fault, moves = before ++ .fire :: after
        ∧ Raises (start.movedAll before) fault ∧ fault.fatal = true)
    ∧ (w.ended.isSome = true → w.closed = true ∧ w.timerActive = false ∧ w.loop.running = false) := by
  intro start w
  have hstart : Sound start := ⟨(View.ofSettings_codes hview).onPad, rfl, nofun⟩
  have hsound : Sound w := movedAll_sound hstart moves
  have hbatch : w.batch = max 1 (settings.cyclesPerSecond / settings.timerHz) := movedAll_batch start moves
  have hpositive : 0 < w.batch := by
    rw [hbatch]
    exact Nat.le_max_left 1 _
  refine ⟨hbatch, w.runBatch_firing, fun hquit w' hrun => (runBatch_quit hpositive hquit hrun).1, rfl, rfl,
    fun hr later => movedAll_still hsound.view hr later, ?_, ?_, hsound.ended⟩
  · rw [hsound.exitCode]
    cases w.ended.isSome with
    | true => exact ⟨fun _ => rfl, fun _ => rfl⟩
    | false => exact ⟨nofun, nofun⟩
  · refine (movedAll_ended hstart moves).trans (or_iff_right ?_)
    nofun

/-- A machine about to run a word that is no instruction. -/
def lost : Debugger :=
  { vm := { registers := { pc := 0 }, memory := { cells := #[0x01, 0x23] }, random := .constant 0 }
    before := {}
    capacity := Debugger.standardCapacity }

def lostWindow : Window Nat :=
  .new (.new lost false (fun last now => last + 1 ≤ now) (.constant 0) (.constant none) "memdump.dmp") .standard {}

/-- The first firing ends this window, and the later ones leave it so. -/
theorem nothing_after_end_lost : (lostWindow.movedAll [.fire]).closed = true
    ∧ (lostWindow.movedAll [.fire]).exitCode = 1
    ∧ ((lostWindow.movedAll [.fire]).movedAll [.fire, .stroke ⟨0x51, true, false⟩, .close, .fire]).exitCode = 1 := by
  have hended : (lostWindow.movedAll [.fire]).ended.isSome = true := by decide +kernel
  obtain ⟨-, -, -, -, -, hstill, hcode, -, hclosed⟩ := nothing_after_end View.ofSettings_standard lost false
    (fun last now => last + 1 ≤ now) (.constant 0) (.constant none) [.fire]
  obtain ⟨hclosed, -, hrunning⟩ := hclosed hended
  exact ⟨hclosed, hcode.mpr hended, (hstill hrunning _).exitCode.trans (hcode.mpr hended)⟩

end Host.Window

end Chip8
