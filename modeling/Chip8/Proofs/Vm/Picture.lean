import Chip8.Proofs.Vm.Reachable

/-!
# The flag of the picture

Whether the picture counts as shown has no part in what the machine does: a cycle goes the same way on machines that
are the same but for this flag, with the same fault or snapshot, and leaves machines that are the same but for it.

Main statement: `step_samePicture`.
-/

namespace Chip8

namespace Display

variable {width height : Nat} [Positive width] [Positive height] {d d' : Display width height}

theorem plot_congr (h : d'.pixels = d.pixels) (collision : Bool) (x y : Int) :
    plot (d', collision) x y = plot (d, collision) x y := by
  simp only [plot, pixel, h]

/-- Drawing goes by the pixels: the new ones and the collision do not depend on the flag. -/
theorem draw_congr (h : d'.pixels = d.pixels) (x y : Int) (sprite : List Int) :
    (d'.draw x y sprite).1.pixels = (d.draw x y sprite).1.pixels
      ∧ (d'.draw x y sprite).2 = (d.draw x y sprite).2 := by
  unfold draw
  cases covered x y sprite with
  | nil => exact ⟨h, rfl⟩
  | cons p ps =>
    -- the first covered pixel raises the flag of both, and from then on the displays are the same
    rw [List.foldl_cons, List.foldl_cons, plot_congr h]
    exact ⟨rfl, rfl⟩

end Display

namespace Vm

variable {m m' : Vm} {i : Instruction}

/-- The machines are the same, except that the picture may count as shown in one of them only. -/
def SamePicture (m m' : Vm) : Prop := m' = { m with display := { m.display with dirty := m'.display.dirty } }

namespace SamePicture

theorem refl (m : Vm) : SamePicture m m := rfl

theorem of_dirty (m : Vm) (dirty : Bool) : SamePicture m { m with display := { m.display with dirty } } := rfl

theorem exists_dirty (h : SamePicture m m') : ∃ dirty, m' = { m with display := { m.display with dirty } } := ⟨_, h⟩

theorem trans {m₁ m₂ m₃ : Vm} (h : SamePicture m₁ m₂) (h' : SamePicture m₂ m₃) : SamePicture m₁ m₃ := by
  obtain ⟨dirty, rfl⟩ := h.exists_dirty
  obtain ⟨dirty', rfl⟩ := h'.exists_dirty
  rfl

theorem registers (h : SamePicture m m') : m'.registers = m.registers := by rw [h]

theorem memory (h : SamePicture m m') : m'.memory = m.memory := by rw [h]

theorem cycles (h : SamePicture m m') : m'.cycles = m.cycles := by rw [h]

/-! ## Instructions -/

theorem parallel (h : SamePicture m m') : Parallel SamePicture m m' := by
  obtain ⟨dirty, rfl⟩ := h.exists_dirty
  exact ⟨rfl, rfl, rfl, fun _ _ => rfl⟩

theorem drawn (h : SamePicture m m') (x y : Nibble) (sprite : List UInt8) (memory : Memory) :
    SamePicture { m.drawn x y sprite with memory } { m'.drawn x y sprite with memory } := by
  obtain ⟨dirty, rfl⟩ := h.exists_dirty
  have hsame : ({ m.display with dirty } : Screen).pixels = m.display.pixels := rfl
  obtain ⟨hpixels, hcollision⟩ := Display.draw_congr hsame (m.registers.get x).toNat (m.registers.get y).toNat
    (sprite.map fun row => (row.toNat : Int))
  simp only [SamePicture, Vm.drawn, hcollision, ← hpixels]

theorem execute (h : SamePicture m m') (i : Instruction) :
    SamePicture (after (execute i) m) (after (execute i) m') := by
  have hlocal := h.parallel
  obtain ⟨dirty, rfl⟩ := h.exists_dirty
  cases i with
  | clear => rfl
  | storeDecimal x =>
    rw [after_conclude (execute_storeDecimal x m), after_conclude (execute_storeDecimal x _)]
    rfl
  | storeRegisters x =>
    rw [after_conclude (execute_storeRegisters x m), after_conclude (execute_storeRegisters x _)]
    rfl
  | loadRegisters x =>
    rw [after_conclude (execute_loadRegisters x m), after_conclude (execute_loadRegisters x _)]
    rfl
  | draw x y rows =>
    cases hm : m.missing? rows with
    | none => exact related_ok (execute_draw x y hm) (execute_draw x y hm) ((of_dirty m dirty).drawn x y _ _)
    | some fault => exact related_error (execute_draw_missing x y hm) (execute_draw_missing x y hm) rfl
  | _ => exact execute_local hlocal rfl

end SamePicture

/-! ## Cycles -/

theorem samePicture_onRest : OnRest SamePicture where
  shared := fun h => ⟨_, _, _, h⟩
  update := fun h _ _ _ => by
    obtain ⟨dirty, rfl⟩ := h.exists_dirty
    rfl

/-- A cycle ends the same way whether or not the picture counts as shown. -/
theorem step_samePicture (h : SamePicture m m') : SameEnd SamePicture (step m) (step m') :=
  samePicture_onRest.step h fun _ i _ _ _ _ h => h.execute i

/-- Whatever is done to both machines, they stay the same but for the flag. -/
theorem SamePicture.act (h : SamePicture m m') (a : Act) : SamePicture (m.act a) (m'.act a) := by
  cases a with
  | step =>
    have hstep := step_samePicture h
    show SamePicture (after step m) (after step m')
    unfold after
    generalize step m = x at hstep
    generalize step m' = y at hstep
    cases hstep with
    | ok _ h => exact h
    | error _ h => exact h
  | tick | reset | setKey _ _ | releaseKeys | load _ _ | write _ _ =>
    obtain ⟨dirty, rfl⟩ := h.exists_dirty
    rfl

end Vm

end Chip8
