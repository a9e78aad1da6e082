import Chip8.Display

/-!
# Sprites without a set bit

A sprite covers nothing exactly if none of its bits is set. Drawing such a sprite leaves the display alone, drawing any
other raises its flag, even if every pixel comes back.

Main statement: `draw_bytes`.
-/

namespace Chip8.Display

variable {width height : Nat} {x y : Int}

theorem bitSet_byte {row : UInt8} : (∀ bit < 8, bitSet row.toNat bit = false) ↔ row = 0 := by
  constructor
  · intro h
    have hbits : ∀ j, row.toNat.testBit j = false := by
      intro j
      by_cases hj : j < 8
      · have hbit := h (7 - j) (by omega)
        rw [bitSet, decide_eq_false_iff_not, Nat.sub_sub_self (by omega)] at hbit
        rw [Nat.testBit_eq_decide_div_mod_eq, decide_eq_false_iff_not]
        exact fun he => hbit (by exact_mod_cast he)
      · have hlarge : 2 ^ 8 ≤ 2 ^ j := Nat.pow_le_pow_right (by decide) (Nat.le_of_not_lt hj)
        exact Nat.testBit_lt_two_pow (Nat.lt_of_lt_of_le row.toNat_lt hlarge)
    exact UInt8.toNat_inj.mp (Nat.eq_of_testBit_eq fun j => by rw [hbits j, UInt8.toNat_zero, Nat.zero_testBit])
  · rintro rfl bit -
    simp [bitSet]

theorem covered_eq_nil {sprite : List Int} :
    covered x y sprite = [] ↔ ∀ row ∈ sprite, ∀ bit < 8, bitSet row bit = false := by
  simp only [covered, List.flatMap_eq_nil_iff, List.filterMap_eq_nil_iff, List.mem_range]
  constructor
  · intro h row hrow bit hbit
    obtain ⟨r, hr⟩ := List.mem_iff_getElem?.mp hrow
    have hnone := h (row, r) (List.mem_zipIdx_iff_getElem?.mpr hr) bit hbit
    cases hset : bitSet row bit with
    | false => rfl
    | true => simp [hset] at hnone
  · rintro h ⟨row, r⟩ hp bit hbit
    have hrow : row ∈ sprite := List.mem_of_getElem? (List.mem_zipIdx_iff_getElem?.mp hp)
    simp [h row hrow bit hbit]

variable [Positive width] [Positive height] {d : Display width height}

theorem foldl_plot_dirty {ps : List (Int × Int)} {start : Display width height × Bool}
    (h : ps ≠ [] ∨ start.1.dirty = true) : (ps.foldl (fun d p => plot d p.1 p.2) start).1.dirty = true := by
  induction ps generalizing start with
  | nil => exact h.resolve_left (not_not_intro rfl)
  | cons p ps ih => exact ih (.inr rfl)

/-- A sprite without a set bit leaves the display alone, any other raises its flag. -/
theorem draw_bytes (d : Display width height) (x y : Int) (sprite : List UInt8) :
    let drawn := (d.draw x y (sprite.map fun row => (row.toNat : Int))).1
    if sprite.any (· ≠ 0) then drawn.dirty = true else drawn = d := by
  have hcovered : covered x y (sprite.map fun row => (row.toNat : Int)) = [] ↔ sprite.any (· ≠ 0) = false := by
    simp only [covered_eq_nil, List.forall_mem_map, bitSet_byte, List.any_eq_false, decide_eq_true_eq,
      Decidable.not_not]
  cases hany : sprite.any (· ≠ 0) with
  | true =>
    have hne : covered x y (sprite.map fun row => (row.toNat : Int)) ≠ [] := fun he => by
      rw [hcovered.mp he] at hany
      cases hany
    exact foldl_plot_dirty (.inl hne)
  | false =>
    unfold draw
    rw [hcovered.mpr hany]
    rfl

end Chip8.Display
