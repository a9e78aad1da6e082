import Chip8.Proofs.ControlLoop.Hearing

/-!
# Polls, whole or cut short

The events of a poll are taken in their order, those after a request to quit as well as those before it. `told` is the
loop after events that are all taken: the pad has heard them, a request to quit has ended the loop, a request for a step
is kept, and of each image the journal says that it was written, or why it could not be; nothing else has changed. The
first event that is refused cuts the poll: the events before it are taken, and no other event and no instruction, tick
or picture comes after it. A key that the pad does not have is refused. An image that the system does not let be written
is noted only, but one under a name that is no file name is refused.

Main statements: `handle_told` (one event), `handleAll_told` (a poll), `iterate_cut`, `takes_or_cut`, `iterate_poll`,
`image_name_not_noted`.
-/

namespace Chip8

/-! ## What events say of a key -/

/-- Whether the event puts the key down or up, if it is about that key. -/
def InputEvent.press? (k : Nibble) : InputEvent → Option Bool
  | .key i pressed => if i = k.val then some pressed else none
  | .quit | .step | .dump => none

namespace Keypad

variable {pad : Keypad} {k : Nibble} {events : List InputEvent}

theorem entry_onEvent_press (event : InputEvent) :
    (pad.onEvent event).down.entry k = (event.press? k).getD (pad.down.entry k) := by
  cases event with
  | quit | step | dump => rfl
  | key key pressed =>
    simp only [InputEvent.press?]
    by_cases hkey : 0 ≤ key ∧ key < 16
    · obtain ⟨n, rfl⟩ : ∃ n : Nibble, key = n.val := ⟨⟨key.toNat, by omega⟩, (Int.toNat_of_nonneg hkey.1).symm⟩
      have hsame : (n.val : Int) = k.val ↔ n = k := Int.ofNat_inj.trans Fin.ext_iff.symm
      rw [entry_onEvent]
      by_cases hn : n = k
      · rw [if_pos hn, if_pos (hsame.mpr hn), Option.getD_some]
      · rw [if_neg hn, if_neg fun h => hn (hsame.mp h), Option.getD_none]
    · have hother : key ≠ k.val := by omega
      rw [if_neg hother, onEvent, set, Nibble.ofInt?, dif_neg hkey]
      rfl

/-- A key is as the last event about it says, and as it was if there is none. -/
theorem entry_heard (pad : Keypad) (events : List InputEvent) :
    (pad.heard events).down.entry k = (events.filterMap (InputEvent.press? k)).getLastD (pad.down.entry k) := by
  induction events generalizing pad with
  | nil => rfl
  | cons event events ih =>
    have hfirst : (pad.onEvent event).down.entry k = (event.press? k).getD (pad.down.entry k) :=
      entry_onEvent_press event
    show ((pad.onEvent event).heard events).down.entry k = _
    rw [ih, hfirst, List.filterMap_cons]
    cases event.press? k with
    | none => rfl
    | some pressed => rw [List.getLastD_cons, Option.getD_some]

end Keypad

/-- The values that a source will give next. -/
def Source.upcoming {α : Type} (s : Source α) (count : Nat) : List α := (List.range' s.taken count).map s.item

@[simp] theorem Source.upcoming_zero {α : Type} (s : Source α) : s.upcoming 0 = [] := rfl

@[simp] theorem Source.upcoming_one {α : Type} (s : Source α) : s.upcoming 1 = [s.item s.taken] := rfl

theorem Source.upcoming_add {α : Type} (s : Source α) (m n : Nat) :
    s.upcoming (m + n) = s.upcoming m ++ { s with taken := s.taken + m }.upcoming n := by
  rw [upcoming, ← List.range'_append_1, List.map_append]
  rfl

namespace ControlLoop

open Debugger

variable {τ : Type} {loop : ControlLoop τ} {event : InputEvent} {events before after more : List InputEvent}

/-! ## Events that are taken -/

/-- What a request for the memory image leaves in the journal: the image and a notice, or only that the image could not
be written. -/
def imageOutputs (path : Text) (image : List UInt8) : (failure : Option FileFault) → List Output
  | none => [.written path image, .notice (.dumped path)]
  | some fault => [.notice (.dumpFailed fault)]

/-- The loop after events all of which are taken. -/
def told (loop : ControlLoop τ) (events : List InputEvent) : ControlLoop τ :=
  { loop with
    debugger := { loop.debugger with
      vm := { loop.debugger.vm with keypad := loop.debugger.vm.keypad.heard events }
      stepRequested := loop.debugger.stepRequested || decide (.step ∈ events)
      journal := loop.debugger.journal ++ ((loop.disk.upcoming (events.count .dump)).flatMap
        (imageOutputs loop.dumpPath loop.debugger.vm.memory.image)).toArray }
    running := loop.running && decide (.quit ∉ events)
    disk := { loop.disk with taken := loop.disk.taken + events.count .dump } }

/-- No event is refused: the pad has all the keys, and an image that cannot be written is refused by the system. -/
structure Takes (loop : ControlLoop τ) (events : List InputEvent) : Prop where
  keys : KeysOnPad events
  images : ∀ fault, some fault ∈ loop.disk.upcoming (events.count .dump) → fault.isSystem

theorem takes_nil (loop : ControlLoop τ) : loop.Takes [] :=
  ⟨fun k pressed hk => by simp at hk, fun fault hfault => by simp at hfault⟩

@[simp] theorem told_nil (loop : ControlLoop τ) : loop.told [] = loop := by
  simp [told, Keypad.heard]

theorem told_append : (loop.told events).told more = loop.told (events ++ more) := by
  simp [told, Keypad.heard_append, Source.upcoming_add, Bool.or_assoc, Bool.and_assoc, Nat.add_assoc]

theorem told_disk : (loop.told events).disk = { loop.disk with taken := loop.disk.taken + events.count .dump } := rfl

/-- What comes first is taken, and then what comes after. -/
theorem takes_append : loop.Takes (events ++ more) ↔ loop.Takes events ∧ (loop.told events).Takes more := by
  have himages : ∀ fault, some fault ∈ loop.disk.upcoming ((events ++ more).count .dump)
      ↔ some fault ∈ loop.disk.upcoming (events.count .dump)
        ∨ some fault ∈ (loop.told events).disk.upcoming (more.count .dump) := by
    intro fault
    rw [List.count_append, Source.upcoming_add, List.mem_append, told_disk]
  constructor
  · intro h
    refine ⟨⟨fun k pressed hk => h.keys k pressed (List.mem_append_left _ hk), ?_⟩,
      ⟨fun k pressed hk => h.keys k pressed (List.mem_append_right _ hk), ?_⟩⟩
    · exact fun fault hfault => h.images fault ((himages fault).mpr (.inl hfault))
    · exact fun fault hfault => h.images fault ((himages fault).mpr (.inr hfault))
  · rintro ⟨hevents, hmore⟩
    refine ⟨fun k pressed hk => ?_, fun fault hfault => ?_⟩
    · exact (List.mem_append.mp hk).elim (hevents.keys k pressed) (hmore.keys k pressed)
    · exact ((himages fault).mp hfault).elim (hevents.images fault) (hmore.images fault)

/-- An event that is taken. -/
theorem handle_told (h : loop.Takes [event]) : handle event loop = .ok () (loop.told [event]) := by
  cases event with
  | quit =>
    have htold : loop.told [.quit] = loop.stop := by simp [told, stop, Keypad.heard, Keypad.onEvent]
    rw [htold]
    rfl
  | step =>
    have htold : loop.told [.step] = { loop with debugger := loop.debugger.requestStep } := by
      simp [told, requestStep, Keypad.heard, Keypad.onEvent]
    rw [htold]
    rfl
  | key i pressed =>
    obtain ⟨hlow, hhigh⟩ := h.keys i pressed List.mem_cons_self
    have htold : loop.told [.key i pressed]
        = { loop with debugger := { loop.debugger with vm := loop.debugger.vm.act (.setKey i pressed) } } := by
      simp [told]
      rfl
    rw [htold]
    exact setKey_onPad hlow hhigh pressed
  | dump =>
    have hdump : handle .dump loop = _ := loop.dump_eq
    have htold : loop.told [.dump] = { loop with
        debugger := { loop.debugger with
          journal := loop.debugger.journal ++ (imageOutputs loop.dumpPath loop.debugger.vm.memory.image
            (loop.disk.item loop.disk.taken)).toArray }
        disk := loop.disk.next.2 } := by
      simp [told, Keypad.heard, Keypad.onEvent, Source.next]
    rw [hdump, htold]
    -- no fault or one of the system: the image is in the journal, or why it is not
    cases hfailure : loop.disk.item loop.disk.taken with
    | none => rfl
    | some fault =>
      have hsystem : fault.isSystem := h.images fault (by simp [hfailure])
      dsimp only
      rw [if_pos hsystem]
      rfl

theorem handleAll_append (h : loop.Takes before) :
    handleAll (before ++ after) loop = handleAll after (loop.told before) := by
  induction before generalizing loop with
  | nil => rw [told_nil, List.nil_append]
  | cons event before ih =>
    obtain ⟨hfirst, hrest⟩ := takes_append.mp (List.singleton_append ▸ h : loop.Takes ([event] ++ before))
    have hall : handleAll (event :: (before ++ after)) loop = handleAll (before ++ after) (loop.told [event]) :=
      bind_ok (handle_told hfirst)
    rw [List.cons_append, hall, ih hrest, told_append, List.singleton_append]

/-- The events of a poll, all of which are taken. -/
theorem handleAll_told (h : loop.Takes events) : handleAll events loop = .ok () (loop.told events) := by
  have hall : handleAll (events ++ []) loop = .ok () (loop.told events) := handleAll_append h
  rwa [List.append_nil] at hall

/-! ## Events that are refused -/

/-- The ways in which an event is refused, each with the fault and the loop that it leaves. -/
inductive Refuses (loop : ControlLoop τ) : InputEvent → EStateM.Result Fault (ControlLoop τ) Bool → Prop where
  /-- The pad does not have the key. -/
  | offPad {key : Int} {pressed : Bool} (hkey : ¬(0 ≤ key ∧ key < 16)) :
    Refuses loop (.key key pressed) (.error (.invalidKey key) loop)
  /-- The image has a name that is no file name. -/
  | unnamed {failure : FileFault} (hfailure : loop.disk.next.1 = some failure) (hname : ¬failure.isSystem) :
    Refuses loop .dump (.error (.imageName failure) { loop with disk := loop.disk.next.2 })

theorem takes_or_refuses (loop : ControlLoop τ) (event : InputEvent) :
    loop.Takes [event] ∨ ∃ result, loop.Refuses event result := by
  cases event with
  | quit | step => exact .inl ⟨fun k pressed hk => by simp at hk, fun fault hfault => by simp at hfault⟩
  | key i pressed =>
    by_cases hkey : 0 ≤ i ∧ i < 16
    · refine .inl ⟨fun k pressed hk => ?_, fun fault hfault => by simp at hfault⟩
      cases List.mem_singleton.mp hk
      exact hkey
    · exact .inr ⟨_, .offPad hkey⟩
  | dump =>
    by_cases hnamed : ∀ failure, loop.disk.next.1 = some failure → failure.isSystem
    · refine .inl ⟨fun k pressed hk => by simp at hk, fun fault hfault => hnamed fault ?_⟩
      exact (List.mem_singleton.mp hfault).symm
    · obtain ⟨failure, hfailure⟩ := not_forall.mp hnamed
      obtain ⟨hfailure, hname⟩ := Classical.not_imp.mp hfailure
      exact .inr ⟨_, .unnamed hfailure hname⟩

/-- The first event that is refused ends the iteration. -/
theorem iterate_cut {result : EStateM.Result Fault (ControlLoop τ) Bool} (h : loop.Takes before)
    (hrefuses : (loop.told before).Refuses event result) : iterate (before ++ event :: after) loop = result := by
  rw [iterate_eq]
  have hall : handleAll (before ++ event :: after) loop = handleAll (event :: after) (loop.told before) :=
    handleAll_append h
  have hcut : ∀ {fault loop₁}, handle event (loop.told before) = .error fault loop₁ →
      (handleAll (before ++ event :: after) >>= fun _ => proceed) loop = .error fault loop₁ :=
    fun hhandle => bind_error (hall.trans (bind_error hhandle))
  cases hrefuses with
  | offPad hkey =>
    apply hcut
    show setKey _ _ _ = _
    rw [setKey, Keypad.set, Nibble.ofInt?, dif_neg hkey]
  | unnamed hfailure hname =>
    apply hcut
    show dump _ = _
    rw [dump_eq, ← Source.next_fst, hfailure]
    exact if_neg hname

/-- The events of a poll are all taken, or one of them is the first to be refused. -/
theorem takes_or_cut (loop : ControlLoop τ) (events : List InputEvent) :
    loop.Takes events ∨ ∃ before event after result, events = before ++ event :: after ∧ loop.Takes before
      ∧ (loop.told before).Refuses event result := by
  induction events generalizing loop with
  | nil => exact .inl loop.takes_nil
  | cons event events ih =>
    -- whether a later event is refused depends on what the first one leaves
    rcases loop.takes_or_refuses event with hfirst | ⟨result, hrefuses⟩
    · rcases ih (loop.told [event]) with hrest | ⟨before, cut, after, result, rfl, hbefore, hrefuses⟩
      · exact .inl (takes_append.mpr ⟨hfirst, hrest⟩ : loop.Takes ([event] ++ events))
      · rw [told_append, List.singleton_append] at hrefuses
        exact .inr ⟨event :: before, cut, after, result, rfl, takes_append.mpr ⟨hfirst, hbefore⟩, hrefuses⟩
    · exact .inr ⟨[], event, events, result, rfl, loop.takes_nil, by rwa [told_nil]⟩

/-- The events of a poll are all taken, or one of them is the first to be refused. If they are all taken, the iteration
goes on from the loop that has been told them, and ends there if that was ended. If one is refused, the iteration fails
with its fault, and leaves the loop that has been told the events before it: an image with a name that is no file name
has been asked of the disk, and nothing else has happened. In a loop that has been told events, a key of the pad is as
the last event about it says. -/
theorem iterate_poll (loop : ControlLoop τ) (events : List InputEvent) :
    (loop.Takes events ∨ ∃ before event after result, events = before ++ event :: after ∧ loop.Takes before
      ∧ (loop.told before).Refuses event result)
    ∧ (loop.Takes events → iterate events loop = proceed (loop.told events)
      ∧ (.quit ∈ events ∨ loop.running = false → iterate events loop = .ok false (loop.told events)))
    ∧ (∀ before event after result, events = before ++ event :: after → loop.Takes before →
      (loop.told before).Refuses event result → iterate events loop = result)
    ∧ ∀ taken k, (loop.told taken).debugger.vm.keypad.down.entry k
      = (taken.filterMap (InputEvent.press? k)).getLastD (loop.debugger.vm.keypad.down.entry k) := by
  refine ⟨loop.takes_or_cut events, fun h => ?_, ?_, fun taken k => loop.debugger.vm.keypad.entry_heard taken⟩
  · have hgoes : iterate events loop = proceed (loop.told events) := by
      rw [iterate_eq, bind_ok (handleAll_told h)]
    refine ⟨hgoes, fun hended => hgoes.trans (proceed_ended ?_)⟩
    show (loop.running && decide (.quit ∉ events)) = false
    rcases hended with hquit | hstopped
    · rw [decide_eq_false (not_not_intro hquit), Bool.and_false]
    · rw [hstopped, Bool.false_and]
  · rintro before event after result rfl hbefore hrefuses
    exact iterate_cut hbefore hrefuses

/-- A loop over a machine with two cells, which has no directory for its images. -/
def cramped : ControlLoop Nat :=
  .new (.new { memory := { cells := #[0x12, 0x00] }, random := .constant 0 }) false (fun _ _ => true) (.constant 0)
    (.constant (some ⟨.missing, "missing/x"⟩)) "missing/x"

/-- A key, a request to quit, an image, a step, and the key again, before a key that the pad does not have. -/
def beforeStray : List InputEvent := [.key 3 true, .quit, .dump, .step, .key 3 false, .key 5 true]

/-- What stands before the key that the pad does not have is taken, and what comes after it is not. -/
theorem iterate_poll_stray : ∃ loop', iterate (beforeStray ++ .key (-1) true :: [.key 3 true, .dump]) cramped
      = .error (.invalidKey (-1)) loop'
    ∧ loop'.debugger.vm.keypad.pressed = [5] ∧ loop'.running = false ∧ loop'.debugger.stepRequested = true
    ∧ loop'.debugger.journal = #[.notice (.dumpFailed ⟨.missing, "missing/x"⟩)] ∧ loop'.debugger.vm.cycles = 0 := by
  have htakes : cramped.Takes beforeStray := by
    refine ⟨fun k pressed hk => ?_, fun fault hfault => ?_⟩
    · simp only [beforeStray, List.mem_cons, List.not_mem_nil, or_false, InputEvent.key.injEq, reduceCtorEq,
        false_or] at hk
      omega
    · cases List.mem_singleton.mp hfault
      rfl
  obtain ⟨-, -, hcut, -⟩ := iterate_poll cramped (beforeStray ++ .key (-1) true :: [.key 3 true, .dump])
  refine ⟨cramped.told beforeStray, hcut _ _ _ _ rfl htakes (.offPad (by decide)), ?_⟩
  decide +kernel

/-- A request for an image with a name that is no file name is not noted: it ends the iteration, and the key after it
stays up, though the pad has it. -/
theorem image_name_not_noted : KeysOnPad [.dump, .key 4 true]
    ∧ ∃ loop', iterate [.dump, .key 4 true]
        { cramped with disk := .constant (some ⟨.nullCharacter, "a\x00b"⟩), dumpPath := "a\x00b" }
      = .error (.imageName ⟨.nullCharacter, "a\x00b"⟩) loop'
      ∧ loop'.debugger.journal = #[] ∧ loop'.debugger.vm.keypad = .released := by
  refine ⟨fun k pressed hk => ?_, _, rfl, rfl, rfl⟩
  simp only [List.mem_cons, List.not_mem_nil, or_false, InputEvent.key.injEq, reduceCtorEq, false_or] at hk
  omega

end ControlLoop

end Chip8
