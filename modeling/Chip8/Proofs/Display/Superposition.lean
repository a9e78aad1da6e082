import Chip8.Proofs.Display.Coverage
import Mathlib.Algebra.Group.Nat.Even
import Mathlib.Algebra.Order.BigOperators.Group.List

/-!
# Sprites one over the other

What is left of the picture after many sprites only depends on how often each pixel was covered in all. So their order
does not matter, neither do whole rounds in their places, and a sprite that is drawn twice leaves no trace. Which of
them meet a lit pixel does depend on the order: of two equal ones, one after the other, the first meets the pixels
that were lit and the second those that were dark.

Main statement: `drawAll_superposed`.
-/

namespace Chip8

/-- A sprite and the coordinates that it is drawn at. -/
structure PlacedSprite where
  x : Int
  y : Int
  rows : List Int
  deriving DecidableEq

namespace PlacedSprite

variable {width height : Nat} {sprites order : List PlacedSprite}

/-- The sprite somewhere else. -/
def shift (s : PlacedSprite) (dx dy : Int) : PlacedSprite := { s with x := s.x + dx, y := s.y + dy }

/-- Whether some bit of the sprite is set. -/
def HasBit (s : PlacedSprite) : Prop := ∃ row ∈ s.rows, ∃ bit < 8, row.testBit bit = true

/-- How often the sprite covers a pixel. -/
def coverage (s : PlacedSprite) (c : Fin width × Fin height) : Nat := Display.coverage s.x s.y s.rows c

/-- How often sprites cover a pixel in all. -/
def total (sprites : List PlacedSprite) (c : Fin width × Fin height) : Nat := (sprites.map (·.coverage c)).sum

theorem total_perm (h : sprites.Perm order) (c : Fin width × Fin height) : total order c = total sprites c :=
  (h.map _).sum_eq.symm

theorem total_twice (before after : List PlacedSprite) (s : PlacedSprite) (c : Fin width × Fin height) :
    total (before ++ s :: s :: after) c = total (before ++ after) c + 2 * s.coverage c := by
  simp only [total, List.map_append, List.map_cons, List.sum_append, List.sum_cons]
  omega

end PlacedSprite

namespace Display

open PlacedSprite

variable {width height : Nat} [Positive width] [Positive height] {d : Display width height}
variable {sprites sprites' : List PlacedSprite} {s : PlacedSprite} {c : Fin width × Fin height}

/-- Draws sprites one after the other, and says of each of them whether it met a lit pixel. -/
def drawAll (d : Display width height) : List PlacedSprite → Display width height × List Bool
  | [] => (d, [])
  | s :: rest =>
    let drawn := d.draw s.x s.y s.rows
    let last := drawAll drawn.1 rest
    (last.1, drawn.2 :: last.2)

theorem drawAll_append (d : Display width height) (before after : List PlacedSprite) :
    d.drawAll (before ++ after)
      = (((d.drawAll before).1.drawAll after).1, (d.drawAll before).2 ++ ((d.drawAll before).1.drawAll after).2) := by
  induction before generalizing d with
  | nil => rfl
  | cons s before ih => simp only [List.cons_append, drawAll, ih]

/-! ## Pixels -/

theorem lit_drawAll : (d.drawAll sprites).1.lit c = not^[total sprites c] (d.lit c) := by
  induction sprites generalizing d with
  | nil => rfl
  | cons s sprites ih =>
    calc (d.drawAll (s :: sprites)).1.lit c
      _ = not^[total sprites c] ((d.draw s.x s.y s.rows).1.lit c) := ih
      _ = not^[total sprites c] (not^[s.coverage c] (d.lit c)) := by rw [lit_draw]; rfl
      _ = not^[total (s :: sprites) c] (d.lit c) := by
          rw [← Function.iterate_add_apply, Nat.add_comm]
          rfl

theorem pixels_perm (h : sprites.Perm sprites') : (d.drawAll sprites').1.pixels = (d.drawAll sprites).1.pixels := by
  apply ext_lit.mpr
  intro c
  rw [lit_drawAll, lit_drawAll, total_perm h]

theorem pixels_twice (d : Display width height) (before after : List PlacedSprite) (s : PlacedSprite) :
    (d.drawAll (before ++ s :: s :: after)).1.pixels = (d.drawAll (before ++ after)).1.pixels := by
  apply ext_lit.mpr
  intro c
  rw [lit_drawAll, lit_drawAll, total_twice, Function.iterate_add_apply,
    Bool.involutive_not.iterate_two_mul, id]

/-! ## Whole rounds -/

theorem drawAll_shift (d : Display width height) (before after : List PlacedSprite) (s : PlacedSprite) (a b : Int) :
    d.drawAll (before ++ s.shift (a * width) (b * height) :: after) = d.drawAll (before ++ s :: after) := by
  have hdraw : ∀ d : Display width height,
      d.draw (s.x + a * width) (s.y + b * height) s.rows = d.draw s.x s.y s.rows :=
    fun d => draw_eq_of_coverage (coverage_round s.x s.y a b s.rows)
  simp only [drawAll_append, drawAll, shift, hdraw]

/-! ## Two equal sprites -/

/-- With room for the sprite, the second one covers the same pixels, and those that were lit are dark. -/
theorem collisions_twice (d : Display width height) (hwidth : 8 ≤ width) (hheight : s.rows.length ≤ height) :
    ∃ first second, (d.drawAll [s, s]).2 = [first, second]
      ∧ (first = true ↔ ∃ c, 1 ≤ s.coverage c ∧ d.lit c = true)
      ∧ (second = true ↔ ∃ c, 1 ≤ s.coverage c ∧ d.lit c = false) := by
  refine ⟨_, _, rfl, ?_, ?_⟩
  · rw [draw_collision_roomy hwidth hheight]
    exact exists_congr fun c => and_comm
  · rw [draw_collision_roomy hwidth hheight]
    apply exists_congr
    intro c
    rw [and_comm]
    apply and_congr_right
    intro hc
    rw [lit_draw_covered hwidth hheight hc, Bool.not_eq_true']

/-- The picture after sprites does not depend on their order; a sprite may be moved by whole rounds, and nothing else
changes, the reports of lit pixels neither; and two equal sprites one after the other leave no trace. With room for such
a sprite, the first of two reports the pixels under it that were lit, the second those that were dark, so one of them
reports something if the sprite has a set bit. -/
theorem drawAll_superposed (d : Display width height) (sprites : List PlacedSprite) :
    (∀ order, sprites.Perm order → (d.drawAll order).1.pixels = (d.drawAll sprites).1.pixels)
      ∧ (∀ before s after, sprites = before ++ s :: after → ∀ a b : Int,
        d.drawAll (before ++ s.shift (a * width) (b * height) :: after) = d.drawAll sprites)
      ∧ (∀ before s after, sprites = before ++ s :: s :: after →
        (d.drawAll sprites).1.pixels = (d.drawAll (before ++ after)).1.pixels)
      ∧ (∀ before s after, sprites = before ++ s :: s :: after → 8 ≤ width → s.rows.length ≤ height → s.HasBit →
        let start := (d.drawAll before).1
        ∃ first second, (d.drawAll sprites).2
            = (d.drawAll before).2 ++ [first, second] ++ ((start.drawAll [s, s]).1.drawAll after).2
          ∧ (first = true ↔ ∃ c, 1 ≤ s.coverage c ∧ start.lit c = true)
          ∧ (second = true ↔ ∃ c, 1 ≤ s.coverage c ∧ start.lit c = false)
          ∧ (first = true ∨ second = true)) := by
  refine ⟨fun order horder => pixels_perm horder, ?_, ?_, ?_⟩
  · rintro before s after rfl a b
    exact drawAll_shift d before after s a b
  · rintro before s after rfl
    exact pixels_twice d before after s
  · rintro before s after rfl hwidth hheight hbit
    obtain ⟨first, second, hreports, hfirst, hsecond⟩ := collisions_twice (d.drawAll before).1 hwidth hheight
    refine ⟨first, second, ?_, hfirst, hsecond, ?_⟩
    · rw [← hreports, drawAll_append, List.append_assoc]
      rfl
    · -- a covered pixel is lit or dark
      obtain ⟨c, hc⟩ : ∃ c : Fin width × Fin height, 1 ≤ s.coverage c := exists_covered hbit
      cases hlit : (d.drawAll before).1.lit c with
      | true => exact .inl (hfirst.mpr ⟨c, hc, hlit⟩)
      | false => exact .inr (hsecond.mpr ⟨c, hc, hlit⟩)

/-- A dot, and a bar over it. -/
def dot : PlacedSprite := { x := 2, y := 0, rows := [0x80] }
def bar : PlacedSprite := { x := -8, y := 5, rows := [0xF0] }

/-- On a display with room for one row. -/
theorem drawAll_superposed_bars :
    haveI : Positive 8 := ⟨by decide⟩
    haveI : Positive 1 := ⟨by decide⟩
    (({} : Display 8 1).drawAll [bar, dot, bar]).1.pixels = (({} : Display 8 1).drawAll [dot, bar, bar]).1.pixels
      ∧ ({} : Display 8 1).drawAll [dot, bar.shift (3 * 8) (-2 * 1), bar] = ({} : Display 8 1).drawAll [dot, bar, bar]
      ∧ (({} : Display 8 1).drawAll [dot, bar, bar]).1.pixels = (({} : Display 8 1).drawAll [dot]).1.pixels
      ∧ bar.HasBit
      ∧ ∃ first second, (({} : Display 8 1).drawAll [dot, bar, bar]).2 = [false, first, second]
        ∧ (first = true ∨ second = true) := by
  have : Positive 8 := ⟨by decide⟩
  have : Positive 1 := ⟨by decide⟩
  obtain ⟨hperm, hshift, htwice, hreports⟩ := drawAll_superposed ({} : Display 8 1) [dot, bar, bar]
  have hbit : bar.HasBit := ⟨0xF0, List.mem_singleton_self _, 7, by decide, by decide⟩
  obtain ⟨first, second, hlist, -, -, heither⟩ := hreports [dot] bar [] rfl (by decide) (by decide) hbit
  exact ⟨hperm _ (by decide), hshift [dot] bar [bar] rfl 3 (-2), htwice [dot] bar [] rfl, hbit, first, second, hlist,
    heither⟩

end Display

end Chip8
