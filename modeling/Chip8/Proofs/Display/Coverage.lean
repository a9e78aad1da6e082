import Chip8.Proofs.Display.Sprite
import Mathlib.Algebra.BigOperators.Fin
import Mathlib.Data.Int.Bitwise
import Mathlib.Logic.Function.Iterate

/-!
# What a sprite covers

A sprite may come round to a pixel that it covers already, on a display that is narrower than eight pixels or lower than
the sprite. So a pixel is not just covered or not: it has a number, how many set bits of the sprite fall on it. Drawing
flips each pixel that many times, and finds a lit pixel exactly where one was lit before or is covered twice.

The two loops of drawing are one pass over a list of coordinates, and what is said about a sprite is said first about
such a list, by induction on it.

Main statement: `draw_exact`.
-/

namespace Chip8.Display

variable {width height : Nat}

/-- Whether a pixel, in a column and a row, is lit. -/
def lit (d : Display width height) (c : Fin width × Fin height) : Bool := (d.pixels[c.2])[c.1]

/-- How often a sprite drawn at `(x0, y0)` covers a pixel: the number of pairs of a row of the sprite and a bit of that
row, counted from the left, such that the bit is set and its place is the pixel, modulo the sizes. -/
def coverage (x0 y0 : Int) (sprite : List Int) (c : Fin width × Fin height) : Nat :=
  (Finset.univ.filter fun p : Fin sprite.length × Fin 8 =>
    sprite[p.1].testBit (7 - p.2) ∧ (x0 + p.2) % width = c.1 ∧ (y0 + p.1) % height = c.2).card

theorem ext_lit {d d' : Display width height} : d.pixels = d'.pixels ↔ ∀ c, d.lit c = d'.lit c := by
  constructor
  · intro h c
    rw [lit, lit, h]
  · intro h
    ext y hy x hx
    exact h (⟨x, hx⟩, ⟨y, hy⟩)

theorem eq_of_lit {d d' : Display width height} (hlit : ∀ c, d.lit c = d'.lit c) (hdirty : d.dirty = d'.dirty) :
    d = d' := by
  have hpixels := ext_lit.mpr hlit
  cases d
  cases d'
  rw [mk.injEq]
  exact ⟨hpixels, hdirty⟩

/-- Places that are less than one round apart are different modulo the size. -/
theorem eq_of_emod_eq {n i j : Nat} {a : Int} (hi : i < n) (hj : j < n) (h : (a + i) % n = (a + j) % n) : i = j := by
  have hmod : (i : Int) % n = (j : Int) % n := Int.emod_add_cancel_left.mp h
  rw [Int.emod_eq_of_lt (by omega) (by omega), Int.emod_eq_of_lt (by omega) (by omega)] at hmod
  exact_mod_cast hmod

/-- A sprite does not come round to itself if the display has room for it. -/
theorem coverage_le_one {x0 y0 : Int} {sprite : List Int} (hwidth : 8 ≤ width) (hheight : sprite.length ≤ height)
    (c : Fin width × Fin height) : coverage x0 y0 sprite c ≤ 1 := by
  apply Finset.card_le_one.mpr
  rintro ⟨r, bit⟩ hp ⟨r', bit'⟩ hp'
  obtain ⟨-, hx, hy⟩ := (Finset.mem_filter.mp hp).2
  obtain ⟨-, hx', hy'⟩ := (Finset.mem_filter.mp hp').2
  have hrow : r.val = r'.val := eq_of_emod_eq (by omega) (by omega) (hy.trans hy'.symm)
  have hbit : bit.val = bit'.val := eq_of_emod_eq (by omega) (by omega) (hx.trans hx'.symm)
  exact Prod.ext (Fin.ext hrow) (Fin.ext hbit)

theorem coverage_round (x0 y0 a b : Int) (sprite : List Int) (c : Fin width × Fin height) :
    coverage (x0 + a * width) (y0 + b * height) sprite c = coverage x0 y0 sprite c := by
  have hround : ∀ (p k n : Int) (i : Nat), (p + k * n + i) % n = (p + i) % n := by
    intro p k n i
    rw [Int.add_right_comm, Int.add_mul_emod_self_right]
  simp only [coverage, hround]

/-! ## Coordinates, one after the other -/

variable [Positive width] [Positive height]

/-- The pixel at integer coordinates. -/
def place (p : Int × Int) : Fin width × Fin height := (wrap width p.1, wrap height p.2)

theorem wrap_eq_iff {n : Nat} [Positive n] {a : Int} {k : Fin n} : wrap n a = k ↔ a % n = k := by
  have hn : (n : Int) ≠ 0 := by have := Positive.pos (n := n); omega
  have hnonneg := Int.emod_nonneg a hn
  simp only [wrap, Fin.ext_iff]
  omega

theorem place_eq_iff {p : Int × Int} {c : Fin width × Fin height} :
    place p = c ↔ p.1 % width = c.1 ∧ p.2 % height = c.2 := by
  rw [place, Prod.ext_iff, wrap_eq_iff, wrap_eq_iff]

variable {start : Display width height × Bool} {p : Int × Int} {ps : List (Int × Int)} {c : Fin width × Fin height}

theorem lit_plot : (plot start p.1 p.2).1.lit c = if place p = c then !start.1.lit c else start.1.lit c := by
  obtain ⟨x, y⟩ := c
  simp only [plot, flip, lit, place, pixel, Prod.mk.injEq, Fin.getElem_fin, Vector.getElem_set, Fin.ext_iff]
  by_cases hy : (wrap height p.2).val = y.val
  · by_cases hx : (wrap width p.1).val = x.val
    · simp [hx, hy]
    · simp [hx, hy]
  · simp [hy]

/-- Plots a list of coordinates. -/
def plotAll (start : Display width height × Bool) (ps : List (Int × Int)) : Display width height × Bool :=
  ps.foldl (fun d p => plot d p.1 p.2) start

theorem plotAll_cons : plotAll start (p :: ps) = plotAll (plot start p.1 p.2) ps := rfl

/-- How many of the coordinates are those of a pixel. -/
def hits (ps : List (Int × Int)) (c : Fin width × Fin height) : Nat := ps.countP fun p => decide (place p = c)

theorem hits_cons : hits (p :: ps) c = hits ps c + if place p = c then 1 else 0 := by
  simp [hits, List.countP_cons]

theorem lit_plotAll : (plotAll start ps).1.lit c = not^[hits ps c] (start.1.lit c) := by
  induction ps generalizing start with
  | nil => rfl
  | cons p ps ih =>
    rw [plotAll_cons, ih, hits_cons, lit_plot]
    split
    · rfl
    · rfl

/-- A lit pixel is met where one was lit at the start, and where coordinates come back. -/
theorem collision_plotAll : (plotAll start ps).2 = true
    ↔ start.2 = true ∨ ∃ c, 2 ≤ hits ps c ∨ start.1.lit c = true ∧ 1 ≤ hits ps c := by
  -- by induction on the places; what the first does to its pixel is what the others find
  induction ps generalizing start with
  | nil => simp [plotAll, hits]
  | cons p ps ih =>
    have hfirst : (plot start p.1 p.2).2 = (start.2 || start.1.lit (place p)) := rfl
    rw [plotAll_cons, ih, hfirst, Bool.or_eq_true, or_assoc]
    apply or_congr_right
    constructor
    · rintro (hlit | ⟨c, hc⟩)
      · exact ⟨place p, .inr ⟨hlit, by rw [hits_cons, if_pos rfl]; omega⟩⟩
      · refine ⟨c, ?_⟩
        rw [lit_plot] at hc
        rw [hits_cons]
        by_cases hp : place p = c
        · rw [if_pos hp] at hc ⊢
          omega
        · rwa [if_neg hp] at hc ⊢
    · rintro ⟨c, hc⟩
      rw [hits_cons] at hc
      by_cases hp : place p = c
      · -- a pixel that is dark before it is covered is lit when it is covered again
        subst hp
        cases hlit : start.1.lit (place p) with
        | true => exact .inl rfl
        | false =>
          rw [if_pos rfl] at hc
          have hagain : 2 ≤ hits ps (place p) + 1 := hc.resolve_right fun h => by simp [hlit] at h
          exact .inr ⟨place p, .inr ⟨by rw [lit_plot, if_pos rfl, hlit]; rfl, Nat.le_of_succ_le_succ hagain⟩⟩
      · rw [if_neg hp] at hc
        exact .inr ⟨c, by rwa [lit_plot, if_neg hp]⟩

theorem dirty_plotAll : (plotAll start ps).1.dirty = true
    ↔ start.1.dirty = true ∨ ∃ c : Fin width × Fin height, 1 ≤ hits ps c := by
  cases ps with
  | nil => simp [plotAll, hits]
  | cons p ps =>
    have hhit : 1 ≤ hits (p :: ps) (place p : Fin width × Fin height) := by
      rw [hits_cons, if_pos rfl]
      omega
    exact iff_of_true (foldl_plot_dirty (.inl (List.cons_ne_nil p ps))) (.inr ⟨place p, hhit⟩)

/-! ## Sprites -/

/-- Bits of negative integers are those of their two's complement. -/
theorem bitSet_eq_testBit (row : Int) (bit : Nat) : bitSet row bit = row.testBit (7 - bit) := by
  unfold bitSet
  have hpow : 0 < 2 ^ (7 - bit) := Nat.two_pow_pos _
  generalize h : 7 - bit = k at hpow
  cases row with
  | ofNat n =>
    show _ = n.testBit k
    rw [Nat.testBit_eq_decide_div_mod_eq, decide_eq_decide]
    simp only [Int.ofNat_eq_natCast, Nat.pow_eq]
    omega
  | negSucc n =>
    show _ = !n.testBit k
    have hdiv : Int.negSucc n / ((Nat.pow 2 k : Nat) : Int) = -((n / 2 ^ k : Nat) + 1 : Int) :=
      Int.negSucc_ediv n (by exact_mod_cast hpow)
    rw [Nat.testBit_eq_decide_div_mod_eq, hdiv, ← decide_not, decide_eq_decide]
    omega

theorem sum_rows (sprite : List Int) (f : Int → Nat → Nat) :
    ∑ r : Fin sprite.length, f sprite[r] r = (sprite.zipIdx.map fun p => f p.1 p.2).sum := by
  rw [← List.sum_ofFn]
  congr 1
  apply List.ext_getElem
  · simp
  · intro r h h'
    simp

theorem countP_range (n : Nat) (q : Nat → Bool) : (List.range n).countP q = ∑ k : Fin n, if q k then 1 else 0 := by
  induction n with
  | zero => rfl
  | succ n ih =>
    rw [List.range_succ, List.countP_append, ih, Fin.sum_univ_castSucc]
    simp [List.countP_cons]

theorem coverage_eq_hits (x0 y0 : Int) (sprite : List Int) (c : Fin width × Fin height) :
    coverage x0 y0 sprite c = hits (covered x0 y0 sprite) c := by
  rw [coverage, Finset.card_filter, Fintype.sum_prod_type, hits, covered, List.countP_flatMap]
  refine (sum_rows sprite fun row r => ∑ bit : Fin 8,
    if row.testBit (7 - bit) ∧ (x0 + bit) % width = c.1 ∧ (y0 + r) % height = c.2 then 1 else 0).trans ?_
  congr 1
  apply List.map_congr_left
  rintro ⟨row, r⟩ -
  rw [Function.comp_apply, List.countP_filterMap, countP_range]
  apply Finset.sum_congr rfl
  intro bit _
  congr 1
  rw [bitSet_eq_testBit]
  cases row.testBit (7 - bit) with
  | false => simp
  | true => simp [place_eq_iff]

/-! ## Drawing -/

variable {d : Display width height} {x0 y0 : Int} {sprite : List Int}

theorem draw_eq : d.draw x0 y0 sprite = plotAll (d, false) (covered x0 y0 sprite) := rfl

theorem lit_draw : (d.draw x0 y0 sprite).1.lit c = not^[coverage x0 y0 sprite c] (d.lit c) := by
  rw [draw_eq, lit_plotAll, coverage_eq_hits]

theorem draw_collision : (d.draw x0 y0 sprite).2 = true
    ↔ ∃ c, 2 ≤ coverage x0 y0 sprite c ∨ d.lit c = true ∧ 1 ≤ coverage x0 y0 sprite c := by
  rw [draw_eq, collision_plotAll]
  simp [coverage_eq_hits]

theorem draw_dirty : (d.draw x0 y0 sprite).1.dirty = true
    ↔ d.dirty = true ∨ ∃ c : Fin width × Fin height, 1 ≤ coverage x0 y0 sprite c := by
  rw [draw_eq, dirty_plotAll]
  simp only [coverage_eq_hits]

/-- Sprites that cover the same pixels the same number of times are drawn alike. -/
theorem draw_eq_of_coverage {x0' y0' : Int} {sprite' : List Int}
    (h : ∀ c : Fin width × Fin height, coverage x0' y0' sprite' c = coverage x0 y0 sprite c) :
    d.draw x0' y0' sprite' = d.draw x0 y0 sprite := by
  apply Prod.ext
  · apply eq_of_lit
    · intro c
      rw [lit_draw, lit_draw, h]
    · rw [Bool.eq_iff_iff, draw_dirty, draw_dirty]
      simp only [h]
  · rw [Bool.eq_iff_iff, draw_collision, draw_collision]
    simp only [h]

theorem exists_covered (h : ∃ row ∈ sprite, ∃ bit < 8, row.testBit bit = true) :
    ∃ c : Fin width × Fin height, 1 ≤ coverage x0 y0 sprite c := by
  obtain ⟨row, hrow, bit, hbit, hset⟩ := h
  obtain ⟨r, hr, rfl⟩ := List.getElem_of_mem hrow
  -- the bit counted from the left, in its row, and the pixel that it falls on
  let p : Fin sprite.length × Fin 8 := (⟨r, hr⟩, ⟨7 - bit, by omega⟩)
  let c : Fin width × Fin height := place (x0 + p.2, y0 + p.1)
  have hplace : (x0 + p.2) % width = c.1 ∧ (y0 + p.1) % height = c.2 :=
    (place_eq_iff (p := (x0 + p.2, y0 + p.1))).mp rfl
  have hback : 7 - (7 - bit) = bit := by omega
  refine ⟨c, Finset.card_pos.mpr ⟨p, Finset.mem_filter.mpr ⟨Finset.mem_univ p, ?_, hplace⟩⟩⟩
  simpa [p, hback] using hset

/-! ## Displays with room for the sprite -/

/-- With room for the sprite, a pixel is flipped exactly if it is covered. -/
theorem lit_draw_covered (hwidth : 8 ≤ width) (hheight : sprite.length ≤ height) (hc : 1 ≤ coverage x0 y0 sprite c) :
    (d.draw x0 y0 sprite).1.lit c = !d.lit c := by
  have hone : coverage x0 y0 sprite c = 1 := Nat.le_antisymm (coverage_le_one hwidth hheight c) hc
  rw [lit_draw, hone, Function.iterate_one]

theorem draw_collision_roomy (hwidth : 8 ≤ width) (hheight : sprite.length ≤ height) :
    (d.draw x0 y0 sprite).2 = true ↔ ∃ c, d.lit c = true ∧ 1 ≤ coverage x0 y0 sprite c := by
  rw [draw_collision]
  apply exists_congr
  intro c
  have hone : coverage x0 y0 sprite c ≤ 1 := coverage_le_one hwidth hheight c
  constructor
  · rintro (htwo | hlit)
    · omega
    · exact hlit
  · exact .inr

theorem draw_changes_roomy (hwidth : 8 ≤ width) (hheight : sprite.length ≤ height) :
    (d.draw x0 y0 sprite).1.pixels ≠ d.pixels ↔ ∃ c : Fin width × Fin height, 1 ≤ coverage x0 y0 sprite c := by
  rw [ne_eq, ext_lit, not_forall]
  apply exists_congr
  intro c
  constructor
  · intro hchanged
    by_contra hnone
    have hzero : coverage x0 y0 sprite c = 0 := by omega
    exact hchanged (by rw [lit_draw, hzero]; rfl)
  · intro hc
    rw [lit_draw_covered hwidth hheight hc]
    simp

/-- Drawing a sprite flips each pixel as often as the sprite covers it, meets a lit pixel exactly if it covers one that
was lit or covers one twice, and raises the flag exactly if it covers one at all. On a display with room for the sprite,
the last two come to: a lit pixel is covered, and the picture changes. -/
theorem draw_exact (d : Display width height) (x0 y0 : Int) (sprite : List Int) :
    (∀ c, (d.draw x0 y0 sprite).1.lit c = not^[coverage x0 y0 sprite c] (d.lit c))
      ∧ ((d.draw x0 y0 sprite).2 = true
        ↔ ∃ c, 2 ≤ coverage x0 y0 sprite c ∨ d.lit c = true ∧ 1 ≤ coverage x0 y0 sprite c)
      ∧ ((d.draw x0 y0 sprite).1.dirty = true
        ↔ d.dirty = true ∨ ∃ c : Fin width × Fin height, 1 ≤ coverage x0 y0 sprite c)
      ∧ (8 ≤ width → sprite.length ≤ height →
        ((d.draw x0 y0 sprite).2 = true ↔ ∃ c, d.lit c = true ∧ 1 ≤ coverage x0 y0 sprite c)
          ∧ ((d.draw x0 y0 sprite).1.dirty = true ↔ d.dirty = true ∨ (d.draw x0 y0 sprite).1.pixels ≠ d.pixels)) := by
  refine ⟨fun c => lit_draw, draw_collision, draw_dirty, fun hwidth hheight => ?_⟩
  refine ⟨draw_collision_roomy hwidth hheight, ?_⟩
  rw [draw_changes_roomy hwidth hheight]
  exact draw_dirty

/-- On a display that is narrower than a row of a sprite, and as low as can be, two rows come round to the first pixel
four times in all, and to the second one three times. -/
theorem draw_exact_folded :
    haveI : Positive 3 := ⟨by decide⟩
    haveI : Positive 1 := ⟨by decide⟩
    (({} : Display 3 1).draw (-3) 7 [0xFF, 0x80]).1.lit (0, 0) = not^[4] false
      ∧ (({} : Display 3 1).draw (-3) 7 [0xFF, 0x80]).1.lit (1, 0) = not^[3] false
      ∧ (({} : Display 3 1).draw (-3) 7 [0xFF, 0x80]).2 = true
      ∧ (({} : Display 3 1).draw (-3) 7 [0xFF, 0x80]).1.dirty = true := by
  have : Positive 3 := ⟨by decide⟩
  have : Positive 1 := ⟨by decide⟩
  obtain ⟨hlit, hcollision, hdirty, -⟩ := draw_exact ({} : Display 3 1) (-3) 7 [0xFF, 0x80]
  have hfour : coverage (-3) 7 [0xFF, 0x80] ((0, 0) : Fin 3 × Fin 1) = 4 := by decide
  have hthree : coverage (-3) 7 [0xFF, 0x80] ((1, 0) : Fin 3 × Fin 1) = 3 := by decide
  refine ⟨?_, ?_, ?_, ?_⟩
  · rw [hlit, hfour]
    rfl
  · rw [hlit, hthree]
    rfl
  · exact hcollision.mpr ⟨(0, 0), .inl (by omega)⟩
  · exact hdirty.mpr (.inr ⟨(0, 0), by omega⟩)

end Chip8.Display
