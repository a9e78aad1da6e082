import Chip8.Proofs.Vm.Drawing
import Chip8.Proofs.Vm.Picture

/-!
# Starting over

A machine that starts over is as good as a new one over the same memory. What happens to both from then on has the same
results, and leaves the same to be seen. Two things may tell them apart, and neither has a part in what a machine does:
accesses that were pending when one of them started over, which the next cycle drops without showing them, and whether
the picture counts as shown, until it is shown.

Main statements: `Beside.used` (one use), `Beside.usedAll` (a run), `reset_like_new`.
-/

namespace Chip8

namespace Vm

/-- What happens to a machine in use: something is done to it, or its picture is shown. -/
inductive Use where
  | act (a : Act)
  | shown

def Use.isCycle : Use → Bool
  | .act .step => true
  | _ => false

def used (m : Vm) : Use → Vm
  | .act a => m.act a
  | .shown => { m with display := m.display.markClean }

def usedAll (m : Vm) (uses : List Use) : Vm := uses.foldl used m

/-- What a use gives back. -/
inductive Outcome where
  | snapshot (s : Snapshot)
  | refused (fault : Fault)
  | ticked (ranOut : Bool)
  | done

/-- The outcome of something that may be refused and gives nothing back. -/
def Outcome.ofExcept {α : Type} : Except Fault α → Outcome
  | .ok _ => .done
  | .error fault => .refused fault

theorem Outcome.ofExcept_map {α β : Type} (f : α → β) (x : Except Fault α) :
    ofExcept (x.map f) = ofExcept x := by
  cases x <;> rfl

def outcome (m : Vm) : Use → Outcome
  | .act .step =>
    match step m with
    | .ok s _ => .snapshot s
    | .error fault _ => .refused fault
  | .act .tick => .ticked m.tick.2
  | .act (.setKey key pressed) => .ofExcept (m.keypad.set key pressed)
  | .act (.load offset data) => .ofExcept (m.memory.load offset data)
  | .act (.write address value) => .ofExcept (m.memory.write address value)
  | .act .reset | .act .releaseKeys | .shown => .done

/-- What there is to be seen of a machine, and what is left of its random bytes. -/
structure Visible where
  registers : Registers
  cycles : Nat
  pixels : Picture
  keypad : Keypad
  cells : Array UInt8
  random : Source UInt8

/-- What there is to be seen of a machine. -/
def visible (m : Vm) : Visible where
  registers := m.registers
  cycles := m.cycles
  pixels := m.display.pixels
  keypad := m.keypad
  cells := m.memory.cells
  random := m.random

def course (m : Vm) : List Use → List (Outcome × Visible)
  | [] => []
  | u :: uses => (m.outcome u, (m.used u).visible) :: (m.used u).course uses

end Vm

/-! ## Pending accesses -/

namespace Memory

/-- The memory with accesses that are pending before its own. -/
def pend (pending : List Access) (memory : Memory) : Memory := { memory with log := pending ++ memory.log }

variable (memory : Memory) (pending : List Access)

theorem load_pend (offset : Int) (data : List UInt8) :
    (memory.pend pending).load offset data = (memory.load offset data).map (pend pending) := by
  by_cases h : offset < 0 ∨ memory.size < offset + data.length
  · have h' : offset < 0 ∨ (memory.pend pending).size < offset + data.length := h
    rw [load, load, if_pos h, if_pos h']
    rfl
  · have h' : ¬(offset < 0 ∨ (memory.pend pending).size < offset + data.length) := h
    rw [load, load, if_neg h, if_neg h']
    rfl

theorem store_pend (address : Int) (data : UInt8) :
    (memory.pend pending).store address data = (memory.store address data).map (pend pending) := by
  have hcell : (memory.pend pending).cell? address = memory.cell? address := rfl
  unfold store
  rw [hcell]
  cases memory.cell? address with
  | none => rfl
  | some i =>
    apply congrArg Except.ok
    simp only [pend, List.append_assoc]

theorem write_pend (address value : Int) :
    (memory.pend pending).write address value = (memory.write address value).map (pend pending) := by
  have hcell : (memory.pend pending).cell? address = memory.cell? address := rfl
  unfold write
  rw [hcell]
  cases memory.cell? address with
  | none => rfl
  | some i =>
    cases byte? value with
    | none => rfl
    | some data => exact store_pend memory pending address data

end Memory

namespace Vm

/-- The machine with accesses that are pending before its own. -/
def pend (pending : List Access) (m : Vm) : Vm := { m with memory := m.memory.pend pending }

variable {m m' n n' : Vm} {pending pending' : List Access} {u : Use} {uses : List Use}

theorem toOption_map_getD {x : Except Fault Memory} {f : Memory → Memory} {memory : Memory} :
    (x.map f).toOption.getD (f memory) = f (x.toOption.getD memory) := by
  cases x <;> rfl

/-- What is left of pending accesses after uses: a cycle drops them. -/
def left (pending : List Access) (uses : List Use) : List Access :=
  if uses.any Use.isCycle then [] else pending

theorem left_cons (pending : List Access) (u : Use) (uses : List Use) :
    left pending (u :: uses) = left (left pending [u]) uses := by
  unfold left
  rw [List.any_cons, List.any_cons, List.any_nil, Bool.or_false]
  cases u.isCycle with
  | true => simp
  | false => rfl

/-- Apart from dropping them, nothing that happens to a machine touches the accesses that are pending. -/
theorem used_pend (u : Use) : (m.pend pending).used u = (m.used u).pend (left pending [u]) := by
  cases u with
  | shown => rfl
  | act a =>
    cases a with
    | step | tick | reset | setKey _ _ | releaseKeys => rfl
    | load offset data =>
      have hload := m.memory.load_pend pending offset data
      show ({ m with memory :=
        ((m.memory.pend pending).load offset data).toOption.getD (m.memory.pend pending) } : Vm) = _
      rw [hload, toOption_map_getD]
      rfl
    | write address value =>
      have hwrite := m.memory.write_pend pending address value
      show ({ m with memory :=
        ((m.memory.pend pending).write address value).toOption.getD (m.memory.pend pending) } : Vm) = _
      rw [hwrite, toOption_map_getD]
      rfl

theorem outcome_pend (u : Use) : (m.pend pending).outcome u = m.outcome u := by
  cases u with
  | shown => rfl
  | act a =>
    cases a with
    | step | tick | reset | setKey _ _ | releaseKeys => rfl
    | load offset data =>
      show Outcome.ofExcept ((m.memory.pend pending).load offset data) = Outcome.ofExcept (m.memory.load offset data)
      rw [Memory.load_pend, Outcome.ofExcept_map]
    | write address value =>
      show Outcome.ofExcept ((m.memory.pend pending).write address value)
        = Outcome.ofExcept (m.memory.write address value)
      rw [Memory.write_pend, Outcome.ofExcept_map]

/-! ## Two machines beside each other -/

theorem SamePicture.visible (h : SamePicture m m') : m'.visible = m.visible := by
  obtain ⟨dirty, rfl⟩ := h.exists_dirty
  rfl

theorem SamePicture.outcome (h : SamePicture m m') (u : Use) : m'.outcome u = m.outcome u := by
  by_cases hstep : u = .act .step
  · subst hstep
    have hend := step_samePicture h
    unfold Vm.outcome
    generalize step m = x at hend
    generalize step m' = y at hend
    cases hend with
    | ok _ _ => rfl
    | error _ _ => rfl
  · obtain ⟨dirty, rfl⟩ := h.exists_dirty
    cases u with
    | shown => rfl
    | act a =>
      cases a with
      | step => exact absurd rfl hstep
      | tick | reset | setKey _ _ | releaseKeys | load _ _ | write _ _ => rfl

theorem SamePicture.used (h : SamePicture m m') (u : Use) : SamePicture (m.used u) (m'.used u) := by
  cases u with
  | act a => exact h.act a
  | shown =>
    obtain ⟨dirty, rfl⟩ := h.exists_dirty
    rfl

/-- A use raises the flag of the picture on both machines, or lowers it on both, or leaves it alone on both. -/
theorem SamePicture.used_dirty (h : SamePicture m m') (u : Use) :
    (m.used u).display.dirty = (m'.used u).display.dirty
      ∨ (m.used u).display.dirty = m.display.dirty ∧ (m'.used u).display.dirty = m'.display.dirty := by
  cases u with
  | shown => exact .inl rfl
  | act a =>
    cases a with
    | reset => exact .inl rfl
    | tick | setKey _ _ | releaseKeys | load _ _ | write _ _ => exact .inr ⟨rfl, rfl⟩
    | step =>
      -- both cycles have the same snapshot, which says whether they drew
      have hend := step_samePicture h
      have hdrawn := step_display m
      have hdrawn' := step_display m'
      show (after step m).display.dirty = (after step m').display.dirty ∨ (after step m).display.dirty = _
        ∧ (after step m').display.dirty = _
      unfold after
      generalize step m = x at hend hdrawn
      generalize step m' = y at hend hdrawn'
      cases hend with
      | error fault _ =>
        simp only at hdrawn hdrawn'
        exact .inr ⟨congrArg Display.dirty hdrawn, congrArg Display.dirty hdrawn'⟩
      | ok s _ =>
        simp only at hdrawn hdrawn'
        split at hdrawn
        · next hdraws =>
          rw [if_pos hdraws] at hdrawn'
          exact .inl (hdrawn.trans hdrawn'.symm)
        · next hdraws =>
          rw [if_neg hdraws] at hdrawn'
          exact .inr ⟨congrArg Display.dirty hdrawn, congrArg Display.dirty hdrawn'⟩

/-- How two machines stand beside each other: but for what is pending, they are the same apart from the flag of the
picture, and that of the second is up only if that of the first is. -/
structure Beside (pending pending' : List Access) (m m' : Vm) : Prop where
  same : ∃ n n', SamePicture n n' ∧ m = n.pend pending ∧ m' = n'.pend pending'
  flag : m'.display.dirty = true → m.display.dirty = true

namespace Beside

theorem visible (h : Beside pending pending' m m') : m'.visible = m.visible := by
  obtain ⟨n, n', hsame, rfl, rfl⟩ := h.same
  exact hsame.visible

theorem outcome (h : Beside pending pending' m m') (u : Use) : m'.outcome u = m.outcome u := by
  obtain ⟨n, n', hsame, rfl, rfl⟩ := h.same
  rw [outcome_pend, outcome_pend, hsame.outcome]

theorem log (h : Beside pending pending' m m') :
    ∃ added, m.memory.log = pending ++ added ∧ m'.memory.log = pending' ++ added := by
  obtain ⟨n, n', hsame, rfl, rfl⟩ := h.same
  refine ⟨n.memory.log, rfl, ?_⟩
  rw [← hsame.memory]
  rfl

/-- A use brings the flag of the picture to the same on both machines, or leaves it alone on both. -/
theorem used_dirty (h : Beside pending pending' m m') (u : Use) :
    (m.used u).display.dirty = (m'.used u).display.dirty
      ∨ (m.used u).display.dirty = m.display.dirty ∧ (m'.used u).display.dirty = m'.display.dirty := by
  obtain ⟨n, n', hsame, rfl, rfl⟩ := h.same
  rw [used_pend, used_pend]
  exact hsame.used_dirty u

theorem used (h : Beside pending pending' m m') (u : Use) :
    Beside (left pending [u]) (left pending' [u]) (m.used u) (m'.used u) := by
  have hdirty := h.used_dirty u
  have hflag : (m'.used u).display.dirty = true → (m.used u).display.dirty = true := by
    intro hup
    rcases hdirty with heq | ⟨hkept, hkept'⟩
    · exact heq.trans hup
    · exact hkept.trans (h.flag (hkept'.symm.trans hup))
  obtain ⟨n, n', hsame, rfl, rfl⟩ := h.same
  exact ⟨⟨_, _, hsame.used u, used_pend u, used_pend u⟩, hflag⟩

theorem usedAll (h : Beside pending pending' m m') (uses : List Use) :
    Beside (left pending uses) (left pending' uses) (m.usedAll uses) (m'.usedAll uses) := by
  induction uses generalizing pending pending' m m' with
  | nil => exact h
  | cons u uses ih =>
    rw [left_cons pending, left_cons pending']
    exact ih (h.used u)

theorem course (h : Beside pending pending' m m') (uses : List Use) : m'.course uses = m.course uses := by
  induction uses generalizing pending pending' m m' with
  | nil => rfl
  | cons u uses ih =>
    have hnext := h.used u
    rw [Vm.course, Vm.course, h.outcome, hnext.visible, ih hnext]

theorem same_dirty (h : Beside pending pending' m m') (hsame : m.display.dirty = m'.display.dirty) (uses : List Use) :
    (m.usedAll uses).display.dirty = (m'.usedAll uses).display.dirty := by
  induction uses generalizing pending pending' m m' with
  | nil => exact hsame
  | cons u uses ih =>
    apply ih (h.used u)
    rcases h.used_dirty u with heq | ⟨hkept, hkept'⟩
    · exact heq
    · rw [hkept, hkept', hsame]

theorem shown_dirty (h : Beside pending pending' m m') (hshown : Use.shown ∈ uses) :
    (m.usedAll uses).display.dirty = (m'.usedAll uses).display.dirty := by
  obtain ⟨before, later, rfl⟩ := List.append_of_mem hshown
  have hrest := ((h.usedAll before).used .shown).same_dirty rfl later
  have hsplit : ∀ m : Vm, m.usedAll (before ++ .shown :: later) = ((m.usedAll before).used .shown).usedAll later :=
    fun m => List.foldl_append
  rw [hsplit, hsplit]
  exact hrest

end Beside

/-- A machine that starts over stands beside a new one over its bytes. -/
theorem reset_beside (m : Vm) (log : List Access) :
    Beside m.memory.log log m.reset (new { cells := m.memory.cells, log } m.random) where
  same := by
    let fresh := new { cells := m.memory.cells } m.random
    refine ⟨{ fresh with display := .cleared }, fresh, rfl, ?_, ?_⟩
    · simp [reset, pend, Memory.pend, fresh, new, Keypad.released]
    · simp [pend, Memory.pend, fresh, new]
  flag := fun _ => rfl

/-- A machine that starts over, in whatever state it was left, and a new one over the same bytes and with the same
random bytes ahead. Every use has the same outcome on both and leaves the same to be seen. What was pending on one of
them is gone with the first cycle, and all other accesses are the same; the flag of the picture may be up on the old
machine only, and no longer so once the picture was shown. -/
theorem reset_like_new (m : Vm) (log : List Access) (uses : List Use) :
    let fresh := new { cells := m.memory.cells, log } m.random
    let m₁ := m.reset.usedAll uses
    let m₂ := fresh.usedAll uses
    m.reset.visible = fresh.visible
    ∧ m.reset.course uses = fresh.course uses
    ∧ (∃ added, m₁.memory.log = left m.memory.log uses ++ added ∧ m₂.memory.log = left log uses ++ added)
    ∧ (m₂.display.dirty = true → m₁.display.dirty = true)
    ∧ (.shown ∈ uses → m₁.display.dirty = m₂.display.dirty) := by
  intro fresh m₁ m₂
  have hstart := m.reset_beside log
  have hend := hstart.usedAll uses
  exact ⟨hstart.visible.symm, (hstart.course uses).symm, hend.log, hend.flag,
    fun hshown => hstart.shown_dirty hshown⟩

end Vm

end Chip8
