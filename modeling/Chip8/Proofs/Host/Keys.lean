import Chip8.Proofs.ControlLoop.Hearing
import Chip8.Proofs.Host.Window

/-!
# Keys reach the pad

Strokes arrive at the view at any time, and now and then an iteration polls it. As long as no poll is refused, the
events of the polls are those that the strokes mean, each once and in their order: what the strokes so far mean is what
the polls so far took, and then what is still in the queue. So after a poll a key of the pad is down if the last stroke
of its key was a press. A poll is refused if it asks for the memory image under a name that is no file name; then what
comes after the request in the same poll is lost.

Main statements: `heard?_eq_meaning?`, `stepped_queue` (one step), `delivered_queue`, `steps_hears` (a run),
`keys_delivered`, `key_lost_after_dump`.
-/

namespace Chip8

namespace Host

variable {settings : Settings} {view : View} {s : Stroke} {strokes : List Stroke} {code : Int} {k : Nibble}

/-! ## What strokes mean -/

section Meaning

variable [Toolkit]

/-- The key of the keyboard with a code is the one that a name stands for. -/
def isNamed (name : Text) (code : Int) : Bool :=
  match resolve name with
  | .ok c => c = code
  | .error _ => false

theorem isNamed_iff {name : Text} : isNamed name code = true ↔ ∃ c : Nat, resolve name = .ok c ∧ (c : Int) = code := by
  unfold isNamed
  cases resolve name with
  | ok c => simp
  | error fault => simp

/-- The key of the pad that the settings name for a key of the keyboard. -/
def keyOf? (settings : Settings) (code : Int) : Option Nibble :=
  (settings.keyMap.find? fun p => isNamed p.1 code).map Prod.snd

/-- What a stroke means by the settings: nothing if it only repeats, a key of the pad going up or down, or one of the
three requests if their key goes down. -/
def meaning? (settings : Settings) (s : Stroke) : Option InputEvent :=
  if s.repeated then none
  else
    match keyOf? settings s.code with
    | some key => some (.key key.val s.pressed)
    | none =>
      if !s.pressed then none
      else if isNamed settings.quitKey s.code then some .quit
      else if isNamed settings.stepKey s.code then some .step
      else if isNamed settings.dumpKey s.code then some .dump
      else none

/-- A stroke, and not one that only repeats, of the key for a key of the pad. -/
def Strikes (settings : Settings) (k : Nibble) (s : Stroke) : Bool := !s.repeated && keyOf? settings s.code = some k

/-- The codes of the names of the settings, those of the key map first. -/
def codesOf (settings : Settings) : List (Option Nat) :=
  (settings.keyMap.map Prod.fst ++ [settings.quitKey, settings.stepKey, settings.dumpKey]).map fun name =>
    (resolve name).toOption

theorem codesOf_eq (h : View.Codes settings view) :
    codesOf settings = (view.padCodes.map Prod.fst ++ view.controlCodes.map Prod.fst).map some := by
  obtain ⟨quit, step, dump, hquit, hstep, hdump, hcontrols⟩ := h.controls
  have hpad := congrArg (List.map (Option.map Prod.fst)) h.pad
  rw [List.map_map, List.map_map] at hpad
  have hnames : settings.keyMap.map (fun p => (resolve p.1).toOption) = (view.padCodes.map Prod.fst).map some := by
    rw [List.map_map]
    refine Eq.trans (List.map_congr_left fun p _ => ?_) hpad.symm
    show _ = ((resolve p.1).toOption.map fun code => (code, p.2)).map Prod.fst
    cases resolve p.1 with
    | ok code => rfl
    | error fault => rfl
  have hrequests : [settings.quitKey, settings.stepKey, settings.dumpKey].map (fun name => (resolve name).toOption)
      = (view.controlCodes.map Prod.fst).map some := by
    rw [hcontrols, List.map_cons, List.map_cons, List.map_cons, hquit, hstep, hdump]
    rfl
  rw [codesOf, List.map_append, List.map_append, List.map_map, ← hnames, ← hrequests]
  rfl

theorem mem_padCodes (h : View.Codes settings view) :
    (∃ c : Nat, (c : Int) = code ∧ (c, k) ∈ view.padCodes)
      ↔ ∃ p ∈ settings.keyMap, isNamed p.1 code = true ∧ p.2 = k := by
  have hmem : ∀ c, (c, k) ∈ view.padCodes ↔ ∃ p ∈ settings.keyMap, resolve p.1 = .ok c ∧ p.2 = k := by
    intro c
    have hsome : (c, k) ∈ view.padCodes ↔ some (c, k) ∈ view.padCodes.map some := by simp
    rw [hsome, h.pad, List.mem_map]
    refine exists_congr fun p => and_congr_right fun _ => ?_
    cases resolve p.1 with
    | ok code => simp [Except.toOption]
    | error fault => simp [Except.toOption]
  constructor
  · rintro ⟨c, hc, hpair⟩
    obtain ⟨p, hp, hname, hk⟩ := (hmem c).mp hpair
    exact ⟨p, hp, isNamed_iff.mpr ⟨c, hname, hc⟩, hk⟩
  · rintro ⟨p, hp, hnamed, hk⟩
    obtain ⟨c, hname, hc⟩ := isNamed_iff.mp hnamed
    exact ⟨c, hc, (hmem c).mpr ⟨p, hp, hname, hk⟩⟩

theorem keyOf?_eq (h : View.Codes settings view) (hdistinct : (view.padCodes.map Prod.fst).Nodup) (code : Int) :
    keyOf? settings code = View.entry? view.padCodes code := by
  unfold keyOf?
  cases hfind : settings.keyMap.find? fun p => isNamed p.1 code with
  | some p =>
    have hnamed := List.find?_some hfind
    obtain ⟨c, rfl, hpair⟩ := (mem_padCodes h).mpr ⟨p, List.mem_of_find?_eq_some hfind, hnamed, rfl⟩
    exact (View.entry?_of_mem hdistinct hpair).symm
  | none =>
    cases hentry : View.entry? view.padCodes code with
    | none => rfl
    | some key =>
      obtain ⟨p, hp, hnamed, -⟩ := (mem_padCodes h).mp (View.mem_of_entry? hentry)
      exact absurd hnamed (List.find?_eq_none.mp hfind p hp)

theorem request_eq (h : View.Codes settings view) (hdistinct : (view.controlCodes.map Prod.fst).Nodup) (code : Int) :
    View.entry? view.controlCodes code = if isNamed settings.quitKey code then some .quit
      else if isNamed settings.stepKey code then some .step
      else if isNamed settings.dumpKey code then some .dump
      else none := by
  obtain ⟨quit, step, dump, hquit, hstep, hdump, hcontrols⟩ := h.controls
  have hnamed : isNamed settings.quitKey code = decide ((quit : Int) = code)
      ∧ isNamed settings.stepKey code = decide ((step : Int) = code)
      ∧ isNamed settings.dumpKey code = decide ((dump : Int) = code) := by
    simp only [isNamed, hquit, hstep, hdump, and_self]
  rw [hcontrols] at hdistinct ⊢
  rw [hnamed.1, hnamed.2.1, hnamed.2.2]
  obtain ⟨⟨hquitStep, hquitDump⟩, hstepDump⟩ : (quit ≠ step ∧ quit ≠ dump) ∧ step ≠ dump := by
    simpa using hdistinct
  -- the table is searched from its end, but at most one entry can be found
  show Option.map Prod.snd (List.find? _ [(dump, InputEvent.dump), (step, .step), (quit, .quit)]) = _
  by_cases hq : (quit : Int) = code
  · have hd : ¬(dump : Int) = code := by omega
    have hs : ¬(step : Int) = code := by omega
    simp [List.find?, hq, hs, hd]
  · by_cases hs : (step : Int) = code
    · have hd : ¬(dump : Int) = code := by omega
      simp [List.find?, hq, hs, hd]
    · by_cases hd : (dump : Int) = code
      · simp [List.find?, hq, hs, hd]
      · simp [List.find?, hq, hs, hd]

/-- What the view hears is what strokes mean by the settings. -/
theorem heard?_eq_meaning? (h : View.Codes settings view) (hdistinct : (codesOf settings).Nodup) (s : Stroke) :
    view.heard? s = meaning? settings s := by
  have hcodes : (view.padCodes.map Prod.fst ++ view.controlCodes.map Prod.fst).Nodup :=
    List.Nodup.of_map some (codesOf_eq h ▸ hdistinct)
  obtain ⟨hpad, hcontrols, -⟩ := List.nodup_append.mp hcodes
  unfold View.heard? View.event? meaning?
  rw [keyOf?_eq h hpad, request_eq h hcontrols]
  cases s.pressed with
  | true => rfl
  | false => rfl

/-- A stroke of the key for `k` puts it down or up, and no other stroke touches it. -/
theorem entry_meaning? (pad : Keypad) (s : Stroke) : (pad.heard (meaning? settings s).toList).down.entry k
    = if Strikes settings k s then s.pressed else pad.down.entry k := by
  unfold meaning? Strikes
  cases s.repeated with
  | true => rfl
  | false =>
    cases keyOf? settings s.code with
    | some key =>
      refine Keypad.entry_onEvent.trans ?_
      by_cases hkey : key = k
      · simp [hkey]
      · simp [hkey]
    | none =>
      -- a request, or nothing at all
      have hnot : (!false && decide ((none : Option Nibble) = some k)) = false := by simp
      rw [hnot, if_neg Bool.false_ne_true, if_neg Bool.false_ne_true]
      dsimp only
      split_ifs <;> rfl

/-- The strokes so far leave a key of the pad as the last stroke of its key says, and as it was if there was none. -/
theorem entry_meanings (pad : Keypad) (strokes : List Stroke) :
    (pad.heard (strokes.filterMap (meaning? settings))).down.entry k
      = ((strokes.filter (Strikes settings k)).map Stroke.pressed).getLastD (pad.down.entry k) := by
  induction strokes generalizing pad with
  | nil => rfl
  | cons s strokes ih =>
    have hcons : (s :: strokes).filterMap (meaning? settings)
        = (meaning? settings s).toList ++ strokes.filterMap (meaning? settings) := by
      rw [List.filterMap_cons]
      cases meaning? settings s with
      | none => rfl
      | some event => rfl
    rw [hcons, Keypad.heard_append, ih, entry_meaning?, List.filter_cons]
    split
    · rw [List.map_cons, List.getLastD_cons]
    · rfl

end Meaning

namespace Window

/-! ## Runs -/

/-- What concerns the keys: a stroke arrives, or an iteration polls the view. -/
inductive Step where
  | stroke (s : Stroke)
  | iterate

def Step.stroke? : Step → Option Stroke
  | stroke s => some s
  | iterate => none

variable {τ : Type} {w : Window τ} {steps : List Step}

def stepped (w : Window τ) : Step → Window τ
  | .stroke s => (w.take s).2
  | .iterate => endState Window.iterate w

def steppedAll (w : Window τ) (steps : List Step) : Window τ := steps.foldl stepped w

/-- The events that a step hands to the loop. -/
def handed (w : Window τ) : Step → List InputEvent
  | .stroke _ => []
  | .iterate => w.view.poll.1

/-- The events that steps hand to the loop, in order. -/
def delivered (w : Window τ) : (steps : List Step) → List InputEvent
  | [] => []
  | step :: steps => w.handed step ++ (w.stepped step).delivered steps

def strokesOf (steps : List Step) : List Stroke := steps.filterMap Step.stroke?

theorem stepped_heard? (w : Window τ) (step : Step) : (w.stepped step).view.heard? = w.view.heard? := by
  cases step with
  | stroke s =>
    show (w.view.take s).2.heard? = _
    rw [View.take_eq]
    rfl
  | iterate =>
    obtain ⟨picture, updates, hview⟩ := w.iterate_view
    show (endState Window.iterate w).view.heard? = _
    rw [hview]
    rfl

/-- What a step hands over, and what is in the queue after it, is what was in the queue before, and what its stroke
means. -/
theorem stepped_queue (w : Window τ) (step : Step) : w.handed step ++ (w.stepped step).view.queue
    = w.view.queue ++ (step.stroke?.bind w.view.heard?).toList := by
  cases step with
  | stroke s =>
    show (w.view.take s).2.queue = _
    rw [View.take_eq]
    rfl
  | iterate =>
    obtain ⟨picture, updates, hview⟩ := w.iterate_view
    show w.view.queue ++ (endState Window.iterate w).view.queue = w.view.queue ++ []
    rw [hview]

/-- Nothing that a stroke means is lost, made up, or moved before something else: what was handed over, and then what is
still in the queue, is what the strokes mean. -/
theorem delivered_queue (w : Window τ) (steps : List Step) :
    w.delivered steps ++ (w.steppedAll steps).view.queue
      = w.view.queue ++ (strokesOf steps).filterMap w.view.heard? := by
  -- what a stroke means does not depend on when it arrives (`stepped_heard?`)
  induction steps generalizing w with
  | nil => exact (List.append_nil _).symm
  | cons step steps ih =>
    have hrest := ih (w.stepped step)
    rw [stepped_heard?] at hrest
    have hstrokes : (strokesOf (step :: steps)).filterMap w.view.heard?
        = (step.stroke?.bind w.view.heard?).toList ++ (strokesOf steps).filterMap w.view.heard? := by
      cases step with
      | iterate => rfl
      | stroke s =>
        show (s :: strokesOf steps).filterMap w.view.heard? = _
        rw [List.filterMap_cons]
        cases hheard : w.view.heard? s with
        | none => simp [Step.stroke?, hheard]
        | some event => simp [Step.stroke?, hheard]
    calc w.delivered (step :: steps) ++ (w.steppedAll (step :: steps)).view.queue
      _ = w.handed step ++ ((w.stepped step).delivered steps ++ ((w.stepped step).steppedAll steps).view.queue) :=
          List.append_assoc _ _ _
      _ = w.handed step ++ (w.stepped step).view.queue ++ (strokesOf steps).filterMap w.view.heard? := by
          rw [hrest, List.append_assoc]
      _ = w.view.queue ++ (strokesOf (step :: steps)).filterMap w.view.heard? := by
          rw [stepped_queue, List.append_assoc, hstrokes]

theorem stepped_onPad (hpad : w.view.OnPad) (step : Step) : (w.stepped step).view.OnPad := by
  cases step with
  | stroke s => exact hpad.take s
  | iterate => exact w.iterate_drives.onPad hpad

theorem stepped_hears (hpad : w.view.OnPad) (hdisk : Refusing w.loop.disk) (step : Step) :
    w.loop.Hears (w.handed step) (w.stepped step).loop := by
  cases step with
  | stroke s => exact .refl w.loop
  | iterate =>
    show w.loop.Hears w.view.queue (endState Window.iterate w).loop
    rw [w.iterate_loop]
    exact ControlLoop.iterate_hears hpad.queue hdisk

theorem steps_hears (hpad : w.view.OnPad) (hdisk : Refusing w.loop.disk) (steps : List Step) :
    w.loop.Hears (w.delivered steps) (w.steppedAll steps).loop := by
  induction steps generalizing w with
  | nil => exact .refl w.loop
  | cons step steps ih =>
    have hfirst := stepped_hears hpad hdisk step
    exact hfirst.append (ih (stepped_onPad hpad step) (hfirst.refusing hdisk))

/-- The window of a loop, with the view that settings describe, whose names are of different keys; all keys of the pad
are up, and the file of the memory image can at worst be refused by the system. After any strokes and iterations, what
the polls took, and then what is still in the queue, is what the strokes mean, each once and in their order. After one
more poll, all of that is delivered: a key of the pad is down if the last stroke of its key was a press, the loop is
ended if there was a request to quit, and the disk was asked for an image for each request to dump. -/
theorem keys_delivered [Toolkit] (hview : View.ofSettings settings = .ok view) (hdistinct : (codesOf settings).Nodup)
    (loop : ControlLoop τ) (hup : loop.debugger.vm.keypad = .released) (hdisk : Refusing loop.disk)
    (steps : List Step) :
    let start := Window.new loop view settings
    let w := start.steppedAll (steps ++ [.iterate])
    let meanings := (strokesOf steps).filterMap (meaning? settings)
    start.delivered steps ++ (start.steppedAll steps).view.queue = meanings
    ∧ start.delivered (steps ++ [.iterate]) = meanings
    ∧ (∀ k, w.loop.debugger.vm.keypad.down.entry k
        = (((strokesOf steps).filter (Strikes settings k)).map Stroke.pressed).getLastD false)
    ∧ w.loop.running = (loop.running && decide (.quit ∉ meanings))
    ∧ w.loop.disk.taken = loop.disk.taken + meanings.count .dump := by
  intro start w meanings
  have hcodes := View.ofSettings_codes hview
  have hheard : start.view.heard? = meaning? settings := funext (heard?_eq_meaning? hcodes hdistinct)
  have hqueue : start.view.queue = [] := hcodes.queue
  have hbefore : start.delivered steps ++ (start.steppedAll steps).view.queue = meanings := by
    rw [delivered_queue, hheard, hqueue]
    rfl
  -- the iteration at the end polls, so what was in the queue is handed over
  have hempty : w.view.queue = [] := by
    obtain ⟨picture, updates, hlast⟩ := (start.steppedAll steps).iterate_view
    have hw : w = endState Window.iterate (start.steppedAll steps) := List.foldl_append
    rw [hw, hlast]
  have hafter : start.delivered (steps ++ [.iterate]) = meanings := by
    have hall := start.delivered_queue (steps ++ [.iterate])
    have hstrokes : strokesOf (steps ++ [.iterate]) = strokesOf steps := by
      rw [strokesOf, List.filterMap_append]
      exact List.append_nil _
    rw [show (start.steppedAll (steps ++ [.iterate])).view.queue = [] from hempty, List.append_nil, hheard, hqueue,
      hstrokes] at hall
    exact hall
  have hears : loop.Hears (start.delivered (steps ++ [.iterate])) w.loop :=
    steps_hears (w := start) hcodes.onPad hdisk (steps ++ [Step.iterate])
  rw [hafter] at hears
  refine ⟨hbefore, hafter, fun k => ?_, hears.running, congrArg Source.taken hears.disk⟩
  rw [hears.keypad, hup, entry_meanings, Keypad.entry_released]

def staying : Debugger :=
  { vm := { registers := { pc := 0 }, memory := { cells := #[0x10, 0] }, random := .constant 0 }
    before := {}
    capacity := Debugger.standardCapacity }

/-- The window over this machine, with its file for the memory image, and what becomes of writing that. -/
def stayingWindow (outcome : Option FileFault) (dumpPath : Text) : Window Nat :=
  .new (.new staying false (fun last now => last + 1 ≤ now) (.constant 0) (.constant outcome) dumpPath) .standard
    { dumpPath }

/-- The key for an image and one of the pad go down; the latter is held, and the one for a step comes up. -/
def dumpAndHold : List Step :=
  [.stroke ⟨0x4d, true, false⟩, .stroke ⟨0x51, true, false⟩, .stroke ⟨0x51, true, true⟩, .stroke ⟨0x4b, false, false⟩]

/-- Even if there is no directory for the image, the key of the pad is down after the next poll. -/
theorem keys_delivered_dumpAndHold :
    (stayingWindow (some ⟨.missing, "missing/x"⟩) "missing/x").delivered (dumpAndHold ++ [.iterate])
      = [.dump, .key 4 true]
    ∧ ((stayingWindow (some ⟨.missing, "missing/x"⟩) "missing/x").steppedAll
      (dumpAndHold ++ [.iterate])).loop.debugger.vm.keypad.down.entry 4 = true := by
  have hview : View.ofSettings { dumpPath := "missing/x" } = .ok .standard := rfl
  have hdistinct : (codesOf { dumpPath := "missing/x" }).Nodup := by decide +kernel
  have hdisk : Refusing (stayingWindow (some ⟨.missing, "missing/x"⟩) "missing/x").loop.disk := by
    intro n fault hfault
    obtain rfl := Option.some.inj hfault
    rfl
  obtain ⟨-, hdelivered, hpad, -⟩ := keys_delivered hview hdistinct _ rfl hdisk dumpAndHold
  have hmeanings : (strokesOf dumpAndHold).filterMap (meaning? { dumpPath := "missing/x" })
      = [.dump, .key 4 true] := by
    decide +kernel
  have hheld : (((strokesOf dumpAndHold).filter (Strikes { dumpPath := "missing/x" } 4)).map
      Stroke.pressed).getLastD false = true := by
    decide +kernel
  exact ⟨hdelivered.trans hmeanings, (hpad 4).trans hheld⟩

/-- If the image has a name that is no file name, the key goes down, and after the next poll it is still up. -/
theorem key_lost_after_dump :
    View.ofSettings { dumpPath := "a\x00b" } = .ok .standard
    ∧ (codesOf { dumpPath := "a\x00b" }).Nodup
    ∧ (stayingWindow (some ⟨.nullCharacter, "a\x00b"⟩) "a\x00b").loop.debugger.vm.keypad = .released
    ∧ (((strokesOf dumpAndHold).filter (Strikes { dumpPath := "a\x00b" } 4)).map Stroke.pressed).getLastD false = true
    ∧ ((stayingWindow (some ⟨.nullCharacter, "a\x00b"⟩) "a\x00b").steppedAll
      (dumpAndHold ++ [.iterate])).loop.debugger.vm.keypad.down.entry 4 = false := by
  refine ⟨rfl, ?_, rfl, ?_, ?_⟩
  · decide +kernel
  · decide +kernel
  · decide +kernel

end Window

end Host

end Chip8
