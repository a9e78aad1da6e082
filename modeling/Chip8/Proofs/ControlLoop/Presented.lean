import Chip8.Proofs.ControlLoop.Instructions
import Chip8.Proofs.Vm.Drawing
import Mathlib.Data.List.Chain

/-!
# The picture shown is never stale

The loop shows the picture when it counts as changed, and then it counts as shown. Seen from outside, the loop draws
and shows: `Views` says what one debugger gives to see on the way to another, and `UpToDate` what stays true on the way:
a picture that does not count as changed is the last one shown, and something was drawn before every picture shown,
after the one before it.

The moves are the iterations, their parts, so that the moments within an iteration are seen too, and the calls by which
the loop is ended and the machine starts over.

Main statements: `move_views` (one move), `sights_upToDate` (a run), `shown_never_stale`.
-/

namespace Chip8

/-- The picture of a new display. -/
def darkPicture : Picture := ({} : Screen).pixels

/-- What can be seen of a machine: that it drew, and the pictures shown. -/
inductive Sight where
  | drawn
  | shown (picture : Picture)

namespace Sight

def shown? : Sight → Option Picture
  | drawn => none
  | shown picture => some picture

/-- The sight of an instruction. -/
def drawnIf (drew : Bool) : List Sight := if drew then [drawn] else []

/-- One sight may come right after another: a picture is shown only once something was drawn. -/
def MayFollow (a b : Sight) : Prop := b.shown?.isSome → a = drawn

theorem shown?_drawnIf (drew : Bool) : (drawnIf drew).filterMap shown? = [] := by
  cases drew <;> rfl

theorem shown?_map (pictures : List Picture) : (pictures.map shown).filterMap shown? = pictures := by
  induction pictures with
  | nil => rfl
  | cons picture pictures ih => exact congrArg (picture :: ·) ih

end Sight

namespace Debugger

variable {d d₁ d₂ : Debugger} {sights more : List Sight} {s : Snapshot}

/-! ## What is seen between two debuggers -/

/-- What there is to see on the way from one debugger to another. -/
inductive Views : Debugger → List Sight → Debugger → Prop where
  /-- Nothing: the display is left alone. -/
  | still {d d₁ : Debugger} (hdisplay : d₁.vm.display = d.vm.display) (hframes : d₁.frames = d.frames) :
    Views d [] d₁
  /-- Something was drawn, and the picture counts as changed. -/
  | drawn {d d₁ : Debugger} (hdirty : d₁.vm.display.dirty = true) (hframes : d₁.frames = d.frames) :
    Views d [.drawn] d₁
  /-- The picture counted as changed; it was shown, and does not any more. -/
  | shown {d d₁ : Debugger} (hdirty : d.vm.display.dirty = true) (hdisplay : d₁.vm.display = d.vm.display.markClean)
    (hframes : d₁.frames = d.frames ++ [d.vm.display.pixels]) : Views d [.shown d.vm.display.pixels] d₁
  | trans {d d₁ d₂ : Debugger} {sights more : List Sight} (h : Views d sights d₁) (h' : Views d₁ more d₂) :
    Views d (sights ++ more) d₂

theorem Views.frames (h : Views d sights d₁) : d₁.frames = d.frames ++ sights.filterMap Sight.shown? := by
  induction h with
  | still hdisplay hframes => exact hframes.trans (List.append_nil _).symm
  | drawn hdirty hframes => exact hframes.trans (List.append_nil _).symm
  | shown hdirty hdisplay hframes => exact hframes
  | trans h h' ih ih' => rw [ih', ih, List.filterMap_append, List.append_assoc]

theorem Views.frames_eq {drew : Bool} {pictures : List Picture}
    (h : Views d (Sight.drawnIf drew ++ pictures.map .shown) d₁) : d₁.frames = d.frames ++ pictures := by
  rw [h.frames, List.filterMap_append, Sight.shown?_drawnIf, List.nil_append, Sight.shown?_map]

theorem Views.quiet (h : Views d sights d₁) (h' : Views d₁ [] d₂) : Views d sights d₂ := by
  rw [← List.append_nil sights]
  exact h.trans h'

/-- After the sights, the picture is up to date. -/
structure UpToDate (sights : List Sight) (d : Debugger) : Prop where
  /-- A picture that does not count as changed is the last one shown, or still dark. -/
  clean : d.vm.display.dirty = false → d.vm.display.pixels = d.frames.getLastD darkPicture
  /-- If it counts as changed, something was drawn since. -/
  dirty : d.vm.display.dirty = true → sights.getLast? = some .drawn
  frames : sights.filterMap Sight.shown? = d.frames
  /-- The dark picture counts as shown at the start. -/
  chain : (.shown darkPicture :: sights).IsChain Sight.MayFollow

theorem UpToDate.views (h : UpToDate sights d) (hviews : Views d more d₁) : UpToDate (sights ++ more) d₁ := by
  -- by induction on what is seen: nothing, one drawing, one picture shown, or two stretches
  induction hviews generalizing sights with
  | still hdisplay hframes =>
    rw [List.append_nil]
    refine ⟨?_, ?_, h.frames.trans hframes.symm, h.chain⟩
    · rw [hdisplay, hframes]
      exact h.clean
    · rw [hdisplay]
      exact h.dirty
  | drawn hdirty hframes =>
    refine ⟨fun hclean => ?_, fun _ => List.getLast?_concat, ?_, ?_⟩
    · rw [hdirty] at hclean
      cases hclean
    · rw [List.filterMap_append, hframes, ← h.frames]
      exact List.append_nil _
    · rw [← List.cons_append, List.isChain_append]
      refine ⟨h.chain, .singleton _, fun a _ b hb => ?_⟩
      cases hb
      exact nofun
  | @shown d d₁ hdirty hdisplay hframes =>
    refine ⟨fun _ => ?_, fun hstill => ?_, ?_, ?_⟩
    · rw [hdisplay, hframes, List.getLastD_concat]
      rfl
    · rw [hdisplay] at hstill
      cases hstill
    · rw [List.filterMap_append, hframes, ← h.frames]
      rfl
    · -- the picture counted as changed, so the sight before it is of drawing
      rw [← List.cons_append, List.isChain_append]
      refine ⟨h.chain, .singleton _, fun a ha b hb => ?_⟩
      cases hb
      intro _
      have hlast := h.dirty hdirty
      rw [List.getLast?_cons, hlast] at ha
      cases ha
      rfl
  | trans _ _ ih ih' =>
    rw [← List.append_assoc]
    exact ih' (ih h)

/-! ## The parts of an iteration -/

/-- Whether the instruction completed between two debuggers, if any, draws. -/
def drewSince (d d₁ : Debugger) : Bool := d₁.vm.cycles ≠ d.vm.cycles && d₁.latest.any Snapshot.draws

theorem drewSince_same (h : d₁.vm.cycles = d.vm.cycles) : drewSince d d₁ = false := by
  rw [drewSince, h]
  simp

/-- All that there is to see on the way is what the instruction completed draws. -/
def RunsTo (d d₁ : Debugger) : Prop := Views d (Sight.drawnIf (drewSince d d₁)) d₁

namespace RunsTo

theorem refused (h : Views d [] d₁) (hcycles : d₁.vm.cycles = d.vm.cycles) : RunsTo d d₁ := by
  rw [RunsTo, drewSince_same hcycles]
  exact h

theorem completed (h : Views d (Sight.drawnIf s.draws) d₁) (hcycles : d₁.vm.cycles = d.vm.cycles + 1)
    (hlatest : d₁.latest = some s) : RunsTo d d₁ := by
  have hdrew : drewSince d d₁ = s.draws := by
    rw [drewSince, hcycles, hlatest]
    simp
  rw [RunsTo, hdrew]
  exact h

theorem after (h : Views d [] d₁) (hcycles : d₁.vm.cycles = d.vm.cycles) (h' : RunsTo d₁ d₂) : RunsTo d d₂ := by
  have hdrew : drewSince d d₂ = drewSince d₁ d₂ := by rw [drewSince, ← hcycles, drewSince]
  rw [RunsTo, hdrew]
  exact h.trans h'

theorem put (h : RunsTo d d₁) {output : Output} (houtput : output.shown? = none) : RunsTo d (d₁.put output) :=
  Views.quiet h (.still rfl (by rw [frames_put, houtput]; exact List.append_nil _))

theorem unshown (h : RunsTo d d₁) : ∃ pictures : List Picture, pictures.length ≤ 1
    ∧ Views d (Sight.drawnIf (drewSince d d₁) ++ pictures.map .shown) d₁ := by
  refine ⟨[], Nat.zero_le 1, ?_⟩
  rw [List.map_nil, List.append_nil]
  exact h

end RunsTo

theorem stepInstruction_runsTo (d : Debugger) : RunsTo d (endState stepInstruction d) := by
  have hdisplay := Vm.step_display d.vm
  have hcycles := Vm.step_cycles d.vm
  rw [endState, stepInstruction_eq]
  cases hstep : Vm.step d.vm with
  | ok s vm =>
    rw [hstep] at hdisplay hcycles
    dsimp only at hdisplay
    refine .completed (s := s) ?_ hcycles rfl
    cases hdraws : s.draws with
    | true =>
      rw [hdraws, if_pos rfl] at hdisplay
      exact .drawn hdisplay (frames_recorded d vm s)
    | false =>
      rw [hdraws, if_neg Bool.false_ne_true] at hdisplay
      exact .still hdisplay (frames_recorded d vm s)
  | error fault vm =>
    rw [hstep] at hdisplay hcycles
    exact .refused (.still hdisplay d.frames_started) hcycles

/-- The picture, if it is about to be shown. -/
def due (d : Debugger) : List Picture := if d.vm.display.dirty then [d.vm.display.pixels] else []

theorem due_length (d : Debugger) : d.due.length ≤ 1 := by
  unfold due
  split
  · exact Nat.le_refl 1
  · exact Nat.zero_le 1

theorem tick_views (d : Debugger) : Views d [] d.tick := by
  refine .still ?_ ?_
  · obtain ⟨journal, htick⟩ := d.tick_eq
    rw [htick]
    rfl
  · simp only [tick]
    split
    · exact frames_note _ _
    · rfl

theorem shown_views (d : Debugger) : Views d (d.due.map .shown) d.shown := by
  unfold due shown
  split
  · next hdirty => exact .shown hdirty rfl (frames_put _ _)
  · exact .still rfl rfl

theorem shown_clean (d : Debugger) : d.shown.vm.display.dirty = false := by
  unfold shown
  split
  · rfl
  · next hdirty => exact Bool.eq_false_iff.mpr hdirty

end Debugger

namespace ControlLoop

open Debugger

variable {τ : Type} {loop loop' heard : ControlLoop τ} {events : List InputEvent}

/-! ## Moves -/

/-- Runs an instruction if the mode says so. -/
def instruct : Action τ Unit := do
  if (← get).singleStep then runSingle else runFree

/-- What can be done to a loop: an iteration, a part of one, or a call from outside. -/
inductive Move where
  | iterate (events : List InputEvent)
  | handle (event : InputEvent)
  | instruct
  | tickTimers
  | present
  | stop
  | reset

variable {move : Move} {moves : List Move} {pictures : List Picture}

def moved (loop : ControlLoop τ) : Move → ControlLoop τ
  | .iterate events => endState (ControlLoop.iterate events) loop
  | .handle event => endState (ControlLoop.handle event) loop
  | .instruct => endState ControlLoop.instruct loop
  | .tickTimers => endState ControlLoop.tickTimers loop
  | .present => endState ControlLoop.present loop
  | .stop => loop.stop
  | .reset => { loop with debugger := { loop.debugger with vm := loop.debugger.vm.reset } }

def movedAll (loop : ControlLoop τ) (moves : List Move) : ControlLoop τ := moves.foldl moved loop

/-- Whether a move draws: starting over does, and so does an instruction that is completed and draws. -/
def drew (loop : ControlLoop τ) : Move → Bool
  | .reset => true
  | move => drewSince loop.debugger (loop.moved move).debugger

/-- What is seen of a move: that it draws, and the pictures shown after that. -/
def sightsOf (loop : ControlLoop τ) (move : Move) : List Sight :=
  Sight.drawnIf (loop.drew move)
    ++ ((loop.moved move).debugger.frames.drop loop.debugger.frames.length).map .shown

/-- What is seen of moves, in order. -/
def sights (loop : ControlLoop τ) : (moves : List Move) → List Sight
  | [] => []
  | move :: moves => loop.sightsOf move ++ (loop.moved move).sights moves

theorem sightsOf_eq
    (h : Views loop.debugger (Sight.drawnIf (loop.drew move) ++ pictures.map .shown) (loop.moved move).debugger) :
    loop.sightsOf move = Sight.drawnIf (loop.drew move) ++ pictures.map .shown := by
  rw [sightsOf, h.frames_eq, List.drop_left]

theorem Touched.views (h : Touched loop events heard) : Views loop.debugger [] heard.debugger := by
  refine .still ?_ h.frames
  obtain ⟨keypad, hvm⟩ := h.vm
  rw [hvm]

theorem instruct_eq (loop : ControlLoop τ) :
    instruct loop = (if loop.singleStep then runSingle else runFree) loop := by
  refine Eq.trans bind_get ?_
  cases loop.singleStep <;> rfl

theorem instruct_runsTo (loop : ControlLoop τ) : RunsTo loop.debugger (endState instruct loop).debugger := by
  rw [endState, instruct_eq]
  split
  · cases hasked : loop.debugger.stepRequested with
    | false =>
      rw [runSingle_idle hasked]
      exact .refused (.still rfl rfl) rfl
    | true =>
      -- taking the request shows nothing and runs nothing
      have hconsumed : Views loop.debugger [] loop.debugger.consumeStep.2 := .still rfl rfl
      have hstep := RunsTo.after hconsumed rfl loop.debugger.consumeStep.2.stepInstruction_runsTo
      rw [endState] at hstep
      rw [runSingle_asked hasked]
      cases hd : stepInstruction loop.debugger.consumeStep.2 with
      | ok s d =>
        rw [hd] at hstep
        exact hstep.put rfl
      | error fault d =>
        rw [hd] at hstep
        exact hstep
  · have hstep := loop.debugger.stepInstruction_runsTo
    rw [endState] at hstep
    rw [runFree_eq, stepAndCheck_instruction]
    cases hd : stepInstruction loop.debugger with
    | ok s d =>
      rw [hd] at hstep
      dsimp only
      cases d.isMet s with
      | false => exact hstep
      | true => exact (hstep.put rfl).put rfl
    | error fault d =>
      rw [hd] at hstep
      exact hstep

/-- At the end of an iteration the picture is shown if it counts as changed. -/
theorem finished_views (loop : ControlLoop τ) :
    Views loop.debugger (loop.debugger.due.map .shown) loop.finished.debugger := by
  have hfinished : loop.finished.debugger
      = (if loop.pace.strikes then loop.debugger.tick else loop.debugger).shown := rfl
  rw [hfinished]
  split
  · have hdue : loop.debugger.tick.due = loop.debugger.due := by
      obtain ⟨journal, htick⟩ := loop.debugger.tick_eq
      rw [htick]
      rfl
    rw [← hdue]
    exact (tick_views _).trans (shown_views _)
  · exact shown_views _

theorem finished_clean (loop : ControlLoop τ) : loop.finished.debugger.vm.display.dirty = false := shown_clean _

/-! ## One move -/

/-- If an iteration runs an instruction, that is a step of the debugger, with or without the request for it, and all
that comes after it is a report and the notice of a breakpoint. -/
theorem instruct_steps (loop : ControlLoop τ) : (endState instruct loop).debugger = loop.debugger
    ∨ ∃ asked, ∃ outputs : List Output,
      (∀ output ∈ outputs, (∃ text, output = .printed text) ∨ ∃ pc, output = .notice (.stopped pc))
      ∧ (endState instruct loop).debugger
        = outputs.foldl put (endState stepInstruction { loop.debugger with stepRequested := asked }) := by
  rw [endState, instruct_eq]
  cases hs : loop.singleStep with
  | true =>
    rw [if_pos rfl]
    -- in single-step mode there is a step only if one was asked for, and then a report is printed
    cases hasked : loop.debugger.stepRequested with
    | false =>
      rw [runSingle_idle hasked]
      exact .inl rfl
    | true =>
      rw [runSingle_asked hasked]
      cases hd : stepInstruction loop.debugger.consumeStep.2 with
      | ok s d =>
        refine .inr ⟨false, [.printed (d.report ++ "\n")], fun output houtput => ?_, ?_⟩
        · exact .inl ⟨_, List.mem_singleton.mp houtput⟩
        · have hstep : endState stepInstruction { loop.debugger with stepRequested := false } = d := endState_ok hd
          rw [hstep]
          rfl
      | error fault d => exact .inr ⟨false, [], List.forall_mem_nil _, (endState_error hd).symm⟩
  | false =>
    rw [if_neg Bool.false_ne_true, runFree_eq, stepAndCheck_instruction]
    have hsame : { loop.debugger with stepRequested := loop.debugger.stepRequested } = loop.debugger := rfl
    -- in free running there is always a step; one that is met is noted and reported on
    cases hd : stepInstruction loop.debugger with
    | ok s d =>
      dsimp only
      cases d.isMet s with
      | false => exact .inr ⟨_, [], List.forall_mem_nil _, (endState_ok hd).symm⟩
      | true =>
        refine .inr ⟨loop.debugger.stepRequested, [.notice (.stopped d.vm.registers.pc),
          .printed ((d.note (.stopped d.vm.registers.pc)).report ++ "\n")], fun output houtput => ?_, ?_⟩
        · rcases List.mem_pair.mp houtput with rfl | rfl
          · exact .inr ⟨_, rfl⟩
          · exact .inl ⟨_, rfl⟩
        · rw [hsame, endState_ok hd]
          rfl
    | error fault d => exact .inr ⟨_, [], List.forall_mem_nil _, (endState_error hd).symm⟩

theorem instruct_rest (loop : ControlLoop τ) :
    ∃ debugger singleStep, endState instruct loop = { loop with debugger, singleStep } := by
  rw [endState, instruct_eq]
  cases hs : loop.singleStep with
  | true =>
    rw [if_pos rfl]
    cases hasked : loop.debugger.stepRequested with
    | false =>
      rw [runSingle_idle hasked]
      exact ⟨_, _, rfl⟩
    | true =>
      rw [runSingle_asked hasked]
      cases stepInstruction loop.debugger.consumeStep.2 with
      | ok s d => exact ⟨_, _, rfl⟩
      | error fault d => exact ⟨_, _, rfl⟩
  | false =>
    rw [if_neg Bool.false_ne_true, runFree_eq]
    cases stepAndCheck loop.debugger with
    | ok met d => cases met <;> exact ⟨_, _, rfl⟩
    | error fault d => exact ⟨_, _, rfl⟩

/-- Unless an iteration comes to its end, all it does is what its events do, or its events and its instruction. -/
theorem iterate_parts (events : List InputEvent) (loop : ControlLoop τ) :
    ((endState (iterate events) loop = endState (handleAll events) loop
        ∨ endState (iterate events) loop = endState instruct (endState (handleAll events) loop))
      ∧ ∀ loop', iterate events loop ≠ .ok true loop')
    ∨ iterate events loop = .ok true (endState instruct (endState (handleAll events) loop)).finished := by
  cases hhandle : handleAll events loop with
  | error fault heard =>
    have hrun : iterate events loop = .error fault heard := bind_error hhandle
    rw [endState_error hhandle, endState_error hrun, hrun]
    exact .inl ⟨.inl rfl, fun _ h => by cases h⟩
  | ok _ heard =>
    have hrun : iterate events loop = proceed heard := bind_ok hhandle
    rw [endState_ok hhandle, endState, hrun]
    cases hr : heard.running with
    | false =>
      rw [proceed_ended hr]
      exact .inl ⟨.inl rfl, fun _ h => by cases h⟩
    | true =>
      -- an instruction does not end the loop, so the iteration comes to its end unless it was refused
      obtain ⟨debugger, singleStep, hrest⟩ := heard.instruct_rest
      have hrunning : (endState instruct heard).running = true := by rw [hrest]; exact hr
      rw [proceed_running hr]
      have hinstruct := heard.instruct_eq
      cases hi : (if heard.singleStep then runSingle else runFree) heard with
      | ok _ mid =>
        rw [hi] at hinstruct
        rw [endState_ok hinstruct] at hrunning ⊢
        rw [bind_ok hi, finish_running hrunning]
        exact .inr rfl
      | error fault mid =>
        rw [hi] at hinstruct
        rw [endState_error hinstruct, bind_error hi]
        exact .inl ⟨.inr rfl, fun _ h => by cases h⟩

/-- An iteration ends before its picture, and then it is not one that goes on; or else it comes to its end. -/
theorem iterate_end (events : List InputEvent) (loop : ControlLoop τ) :
    (RunsTo loop.debugger (endState (iterate events) loop).debugger ∧ ∀ loop', iterate events loop ≠ .ok true loop')
      ∨ ∃ mid : ControlLoop τ, RunsTo loop.debugger mid.debugger
        ∧ iterate events loop = .ok mid.running mid.finished := by
  have htouched := handleAll_touched events loop
  cases hhandle : handleAll events loop with
  -- an event was refused: nothing was run, and the iteration is not completed
  | error fault heard =>
    have hrun : iterate events loop = .error fault heard := bind_error hhandle
    rw [endState_error hhandle] at htouched
    refine .inl ⟨?_, fun loop' h => ?_⟩
    · rw [endState_error hrun]
      exact .refused htouched.views htouched.cycles
    · rw [hrun] at h
      cases h
  | ok _ heard =>
    have hrun : iterate events loop = proceed heard := bind_ok hhandle
    rw [endState_ok hhandle] at htouched
    have hran := RunsTo.after htouched.views htouched.cycles heard.instruct_runsTo
    rw [endState, hrun]
    cases hr : heard.running with
    | false =>
      rw [proceed_ended hr]
      refine .inl ⟨.refused htouched.views htouched.cycles, fun loop' h => ?_⟩
      cases h
    | true =>
      rw [proceed_running hr]
      have hinstruct := heard.instruct_eq
      cases hi : (if heard.singleStep then runSingle else runFree) heard with
      | ok _ mid =>
        rw [endState, hinstruct, hi] at hran
        rw [bind_ok hi, finish_eq]
        exact .inr ⟨mid, hran, rfl⟩
      | error fault mid =>
        rw [endState, hinstruct, hi] at hran
        rw [bind_error hi]
        refine .inl ⟨hran, fun loop' h => ?_⟩
        cases h

theorem iterate_clean (h : iterate events loop = .ok true loop') : loop'.debugger.vm.display.dirty = false := by
  rcases iterate_end events loop with ⟨-, hended⟩ | ⟨mid, -, hrun⟩
  · exact absurd h (hended loop')
  · rw [hrun] at h
    injection h with hrunning hfinished
    rw [← hfinished]
    exact mid.finished_clean

theorem iterate_views (events : List InputEvent) (loop : ControlLoop τ) :
    ∃ pictures : List Picture, pictures.length ≤ 1 ∧ Views loop.debugger
      (Sight.drawnIf (drewSince loop.debugger (endState (iterate events) loop).debugger) ++ pictures.map .shown)
      (endState (iterate events) loop).debugger := by
  rcases iterate_end events loop with ⟨hran, -⟩ | ⟨mid, hran, hrun⟩
  · exact RunsTo.unshown hran
  · have hstands := mid.finished_stands
    have hdrew : drewSince loop.debugger mid.finished.debugger = drewSince loop.debugger mid.debugger := by
      rw [drewSince, hstands.cycles, hstands.latest, drewSince]
    rw [endState_ok hrun, hdrew]
    exact ⟨mid.debugger.due, mid.debugger.due_length, Views.trans hran mid.finished_views⟩

/-- A move draws, or not, and then shows at most one picture. -/
theorem move_views (move : Move) (loop : ControlLoop τ) : ∃ pictures : List Picture, pictures.length ≤ 1
    ∧ Views loop.debugger (Sight.drawnIf (loop.drew move) ++ pictures.map .shown) (loop.moved move).debugger := by
  -- only an iteration can draw and show; the others do at most one of the two
  cases move with
  | iterate events => exact iterate_views events loop
  | handle event =>
    have htouched := handle_touched event loop
    exact RunsTo.unshown (.refused htouched.views htouched.cycles)
  | instruct => exact RunsTo.unshown loop.instruct_runsTo
  | tickTimers =>
    have hticked : RunsTo loop.debugger loop.ticked.debugger := by
      show RunsTo _ (if loop.pace.strikes then loop.debugger.tick else loop.debugger)
      split
      · exact .refused (tick_views _) (Stands.tick _).cycles
      · exact .refused (.still rfl rfl) rfl
    have hmoved : loop.moved .tickTimers = loop.ticked := endState_ok loop.tickTimers_eq
    rw [← hmoved] at hticked
    exact RunsTo.unshown hticked
  | present =>
    have hmoved : (loop.moved .present).debugger = loop.debugger.shown := rfl
    have hdrew : loop.drew .present = false := by
      show drewSince loop.debugger loop.debugger.shown = false
      exact drewSince_same (Stands.shown _).cycles
    rw [hdrew, hmoved]
    exact ⟨loop.debugger.due, loop.debugger.due_length, shown_views _⟩
  | stop => exact RunsTo.unshown (.refused (.still rfl rfl) rfl)
  | reset => exact ⟨[], Nat.zero_le 1, .drawn rfl rfl⟩

/-! ## Runs -/

/-- What is up to date stays up to date with what is seen of the moves. -/
theorem sights_upToDate {sights : List Sight} (h : UpToDate sights loop.debugger) (moves : List Move) :
    UpToDate (sights ++ loop.sights moves) (loop.movedAll moves).debugger := by
  induction moves generalizing loop sights with
  | nil =>
    rw [ControlLoop.sights, List.append_nil]
    exact h
  | cons move moves ih =>
    obtain ⟨pictures, -, hviews⟩ := move_views move loop
    rw [ControlLoop.sights, ← List.append_assoc, sightsOf_eq hviews]
    exact ih (h.views hviews)

/-- A loop over a machine with a new display, to which no picture was shown yet, is up to date. -/
theorem upToDate_new (hdisplay : loop.debugger.vm.display = {}) (hframes : loop.debugger.frames = []) :
    UpToDate [] loop.debugger where
  clean := fun _ => by
    rw [hdisplay, hframes]
    rfl
  dirty := fun hdirty => by
    rw [hdisplay] at hdirty
    cases hdirty
  frames := hframes.symm
  chain := .singleton _

theorem drawn_before {d : Debugger} {sights before after : List Sight} {picture : Picture} (h : UpToDate sights d)
    (hsights : sights = before ++ .shown picture :: after) : before.getLast? = some .drawn := by
  have hchain := h.chain
  rw [hsights, ← List.cons_append, List.isChain_append] at hchain
  have hlast := hchain.2.2 _ (Option.mem_def.mpr List.getLast?_cons) (.shown picture) rfl rfl
  cases hbefore : before.getLast? with
  | none =>
    -- then the picture would come right after the dark one
    rw [hbefore] at hlast
    cases hlast
  | some a =>
    rw [hbefore] at hlast
    exact congrArg some hlast

/-- A loop over a machine with a new display, no picture shown yet, after any moves. A picture that does not count as
changed is the last one shown; so it is after an iteration that goes on. No iteration shows more than one picture. And
before every picture shown, after the one before it, the screen was cleared, a sprite with a set bit was drawn, or the
machine started over. -/
theorem shown_never_stale (hdisplay : loop.debugger.vm.display = {}) (hframes : loop.debugger.frames = [])
    (moves : List Move) :
    ((loop.movedAll moves).debugger.vm.display.dirty = false →
      (loop.movedAll moves).debugger.vm.display.pixels = (loop.movedAll moves).debugger.frames.getLastD darkPicture)
    ∧ (∀ events loop', iterate events (loop.movedAll moves) = .ok true loop' →
      loop'.debugger.vm.display.dirty = false
        ∧ loop'.debugger.frames.getLastD darkPicture = loop'.debugger.vm.display.pixels)
    ∧ (∀ events, ∃ pictures : List Picture, pictures.length ≤ 1
      ∧ (endState (iterate events) (loop.movedAll moves)).debugger.frames
        = (loop.movedAll moves).debugger.frames ++ pictures)
    ∧ (loop.sights moves).filterMap Sight.shown? = (loop.movedAll moves).debugger.frames
    ∧ ∀ before picture after, loop.sights moves = before ++ .shown picture :: after →
      before.getLast? = some .drawn := by
  have hnow : UpToDate (loop.sights moves) (loop.movedAll moves).debugger :=
    sights_upToDate (upToDate_new hdisplay hframes) moves
  refine ⟨hnow.clean, fun events loop' hrun => ?_, fun events => ?_, hnow.frames, fun before picture after hsights =>
    drawn_before hnow hsights⟩
  · have hclean := iterate_clean hrun
    obtain ⟨pictures, -, hviews⟩ := iterate_views events (loop.movedAll moves)
    rw [endState_ok hrun] at hviews
    exact ⟨hclean, ((hnow.views hviews).clean hclean).symm⟩
  · obtain ⟨pictures, hlength, hviews⟩ := iterate_views events (loop.movedAll moves)
    exact ⟨pictures, hlength, hviews.frames_eq⟩

/-- A loop over a machine that points to a sprite of one row, draws it, draws it again, and stays there. -/
def blinking : ControlLoop Nat :=
  .new
    { vm := {
        registers := { pc := 0 }
        memory := { cells := #[0xA0, 0x08, 0xD0, 0x01, 0xD0, 0x01, 0x10, 0x06, 0x80] }
        random := .constant 0 }
      before := {}
      capacity := standardCapacity }
    false (fun last now => last + 1 ≤ now) (.constant 0) (.constant none) "memory.dmp"

/-- Both drawings, and starting over. -/
def blinks : List Move := [.iterate [], .iterate [], .iterate [], .reset, .present]

/-- The sprite is shown, then the screen without it, and the screen again once the machine has started over. -/
theorem shown_never_stale_blinking : (blinking.movedAll blinks).debugger.frames.length = 3
    ∧ (blinking.movedAll blinks).debugger.vm.display.pixels
      = (blinking.movedAll blinks).debugger.frames.getLastD darkPicture := by
  have hdisplay : blinking.debugger.vm.display = {} := rfl
  have hframes : blinking.debugger.frames = [] := rfl
  have hclean : (blinking.movedAll blinks).debugger.vm.display.dirty = false := by decide +kernel
  refine ⟨?_, (shown_never_stale hdisplay hframes blinks).1 hclean⟩
  decide +kernel

end ControlLoop

end Chip8
