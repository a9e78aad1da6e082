import Chip8.Proofs.Display.Sprite
import Chip8.Proofs.Vm.Cycle

/-!
# Which cycles draw

A cycle changes the picture only if it clears the screen or draws a sprite with a set bit, and then the picture counts
as changed, even if drawing put every pixel back. Which cycles these are can be told from their snapshots. Any other
cycle, and any that is refused, leaves the display alone, its flag included.

Main statement: `step_display`.
-/

namespace Chip8

namespace Memory

theorem map_data_readRecords {a : Nat} {data : List UInt8} : (readRecords a data).map Access.data = data := by
  induction data generalizing a with
  | nil => rfl
  | cons byte data ih => rw [readRecords_cons, List.map_cons, ih]

end Memory

/-- The bytes that the instruction read or wrote, after the two of its word. -/
def Snapshot.moved (s : Snapshot) : List UInt8 := (s.activity.drop 2).map Access.data

/-- Whether the instruction cleared the screen or drew a sprite with a set bit. -/
def Snapshot.draws (s : Snapshot) : Bool :=
  s.operation.pattern = Instruction.clear.pattern
    || s.operation.pattern = (Instruction.draw 0 0 0).pattern && s.moved.any (· ≠ 0)

namespace Vm

variable {m : Vm} {w : UInt16} {i : Instruction}

/-! ## Snapshots -/

/-- The bytes moved by a completed instruction are those of its own accesses. -/
theorem snapshot_moved (hw : m.word? = some w) :
    (m.snapshot w i).moved = (m.accesses i).map Access.data := by
  rw [Snapshot.moved, snapshot_activity, fetchRecords_eq (word?_inside hw)]
  rfl

theorem snapshot_draws_draw {x y rows : Nibble} (hw : m.word? = some w) :
    (m.snapshot w (.draw x y rows)).draws
      = (Memory.block m.memory.cells m.registers.i.toNat rows).any (· ≠ 0) := by
  have hmoved := snapshot_moved (i := .draw x y rows) hw
  have haccesses : m.accesses (.draw x y rows)
      = Memory.readRecords m.registers.i.toNat (Memory.block m.memory.cells m.registers.i.toNat rows) := by
    show _ ++ Memory.writeRecords _ _ [] = _
    rw [Memory.writeRecords_nil, List.append_nil]
    rfl
  rw [haccesses, Memory.map_data_readRecords] at hmoved
  rw [Snapshot.draws, hmoved]
  rfl

/-! ## Cycles -/

theorem execute_display (i : Instruction) (hclear : i ≠ .clear) (hdraw : ∀ x y rows, i ≠ .draw x y rows) (m : Vm) :
    (after (execute i) m).display = m.display := by
  cases i with
  | clear => exact absurd rfl hclear
  | draw x y rows => exact absurd rfl (hdraw x y rows)
  | storeDecimal x => rw [after_conclude (execute_storeDecimal x m)]
  | storeRegisters x => rw [after_conclude (execute_storeRegisters x m)]
  | loadRegisters x =>
    rw [after_conclude (execute_loadRegisters x m)]
    rfl
  | _ =>
    have hself : Parallel (fun m₁ _ => m₁.display = m.display) m m := ⟨rfl, rfl, rfl, fun _ _ => rfl⟩
    exact execute_local hself rfl

/-- A completed cycle that draws leaves a picture that counts as changed, and any other leaves the display alone. -/
theorem completed_display (hw : m.word? = some w) (hf : m.refusal? i = none) :
    if (m.snapshot w i).draws then (m.completed i).display.dirty = true
    else (m.completed i).display = m.display := by
  -- the two instructions that draw, and all others
  by_cases hclear : i = .clear
  · subst hclear
    exact rfl
  · by_cases hdraw : ∃ x y rows, i = .draw x y rows
    · obtain ⟨x, y, rows, rfl⟩ := hdraw
      rw [snapshot_draws_draw hw]
      have hmissing : m.fetched.missing? rows = none := hf
      have hdisplay : (m.completed (.draw x y rows)).display
          = (m.fetched.drawn x y (Memory.block m.memory.cells m.registers.i.toNat rows)).display := by
        show (after (execute (.draw x y rows)) m.fetched).display = _
        rw [after_ok (execute_draw x y hmissing)]
        rfl
      rw [hdisplay]
      exact Display.draw_bytes _ _ _ _
    · have hother : ∀ x y rows, i ≠ .draw x y rows := fun x y rows h => hdraw ⟨x, y, rows, h⟩
      have hnot : (m.snapshot w i).draws = false := by
        show (decide (i.pattern = _) || decide (i.pattern = _) && _) = false
        cases i with
        | clear => exact absurd rfl hclear
        | draw x y rows => exact absurd rfl (hother x y rows)
        | _ => rfl
      rw [hnot, if_neg Bool.false_ne_true]
      exact execute_display i hclear hother m.fetched

/-- What a cycle does to the display: if it is completed and draws, the picture counts as changed; otherwise the
display is left alone. -/
theorem step_display (m : Vm) :
    match step m with
    | .ok s m' => if s.draws then m'.display.dirty = true else m'.display = m.display
    | .error _ m' => m'.display = m.display := by
  have hcycle := step_cycle m
  generalize step m = result at hcycle
  cases hcycle with
  | unfetched hw => rfl
  | illegal hw hi => rfl
  | refused hw hi hf => rfl
  | completed hw hi hf => exact completed_display hw hf

end Vm

end Chip8
