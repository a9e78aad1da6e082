import Chip8.Host.View
import Mathlib.Data.Fintype.Prod
import Mathlib.Data.List.Nodup

/-!
# The painted picture

Painting fills rectangles one after the other on a canvas, where each point keeps the colour of the last rectangle that
covers it. A view with a picture fills its ground and then one square for each lit pixel. At a scale that is positive,
the squares that cover a point are those of its pixel, so each point gets the colour of the pixel it belongs to: the
picture, enlarged by the scale. The squares stay in the view, and no two of them overlap.

Main statements: `Canvas.fillAll_eq`, `View.square_covers`, `View.mem_lit`, `View.nodup_lit`, `View.paint_enlarged`.
-/

namespace Chip8.Host

/-! ## Rectangles on a canvas -/

/-- The point lies in the rectangle. -/
def Fill.Covers (f : Fill) (x y : Nat) : Prop :=
  (f.left ≤ x ∧ x < f.left + f.width) ∧ f.top ≤ y ∧ y < f.top + f.height

instance {f : Fill} {x y : Nat} : Decidable (f.Covers x y) := inferInstanceAs (Decidable ((_ ∧ _) ∧ _ ∧ _))

/-- No point lies in both rectangles. -/
def Fill.Apart (f g : Fill) : Prop := ∀ x y, ¬(f.Covers x y ∧ g.Covers x y)

/-- The colours of the points of a canvas, where something was painted. -/
abbrev Canvas := Nat → Nat → Option Datum

namespace Canvas

variable {c : Canvas} {fills : List Fill} {color : Datum} {x y : Nat}

def blank : Canvas := fun _ _ => none

def fill (c : Canvas) (f : Fill) : Canvas := fun x y => if f.Covers x y then some f.color else c x y

def fillAll (c : Canvas) (fills : List Fill) : Canvas := fills.foldl fill c

/-- Rectangles of one colour give it to the points that they cover, and leave the others as they are. -/
theorem fillAll_eq (hcolor : ∀ f ∈ fills, f.color = color) :
    c.fillAll fills x y = if ∃ f ∈ fills, f.Covers x y then some color else c x y := by
  induction fills generalizing c with
  | nil => simp [fillAll]
  | cons f fills ih =>
    obtain ⟨hfirst, hrest⟩ := List.forall_mem_cons.mp hcolor
    have hfill : c.fillAll (f :: fills) x y = (c.fill f).fillAll fills x y := rfl
    rw [hfill, ih hrest]
    by_cases hlater : ∃ g ∈ fills, g.Covers x y
    · rw [if_pos hlater, if_pos (hlater.imp fun g h => h.imp_left (List.mem_cons_of_mem f))]
    · rw [if_neg hlater, fill, hfirst]
      refine if_congr ?_ rfl rfl
      rw [List.exists_mem_cons_iff, or_iff_left hlater]

end Canvas

namespace View

variable {v : View} {picture : Picture} {p : Nat × Nat} {x y : Nat}

/-! ## The lit pixels -/

/-- The places of the lit pixels of one row. -/
def litIn (row : Vector Bool screenWidth) (y : Nat) : List (Nat × Nat) :=
  row.toList.zipIdx.filterMap fun (isLit, x) => if isLit then some (x, y) else none

theorem lit_eq (picture : Picture) : lit picture = picture.toList.zipIdx.flatMap fun r => litIn r.1 r.2 := rfl

theorem mem_litIn {row : Vector Bool screenWidth} : p ∈ litIn row y ↔ row[p.1]? = some true ∧ p.2 = y := by
  unfold litIn
  rw [List.mem_filterMap]
  constructor
  · rintro ⟨⟨isLit, x⟩, hmem, hsome⟩
    have hget := List.mem_zipIdx_iff_getElem?.mp hmem
    rw [Vector.getElem?_toList] at hget
    cases isLit with
    | false => cases hsome
    | true =>
      cases hsome
      exact ⟨hget, rfl⟩
  · rintro ⟨hget, rfl⟩
    refine ⟨(true, p.1), List.mem_zipIdx_iff_getElem?.mpr ?_, rfl⟩
    rwa [Vector.getElem?_toList]

/-- The places of the lit pixels are the columns and rows at which the picture is lit. -/
theorem mem_lit : (x, y) ∈ lit picture
    ↔ ∃ (hx : x < screenWidth) (hy : y < screenHeight), (picture.get ⟨y, hy⟩).get ⟨x, hx⟩ = true := by
  rw [lit_eq, List.mem_flatMap]
  constructor
  · rintro ⟨⟨row, row'⟩, hrow, hmem⟩
    obtain ⟨hget, rfl⟩ := mem_litIn.mp hmem
    have hrow' : picture[y]? = some row := Vector.getElem?_toList.symm.trans (List.mem_zipIdx_iff_getElem?.mp hrow)
    obtain ⟨hy, rfl⟩ := Vector.getElem?_eq_some_iff.mp hrow'
    obtain ⟨hx, hlit⟩ := Vector.getElem?_eq_some_iff.mp hget
    exact ⟨hx, hy, hlit⟩
  · rintro ⟨hx, hy, hlit⟩
    refine ⟨(picture.get ⟨y, hy⟩, y), List.mem_zipIdx_iff_getElem?.mpr ?_, mem_litIn.mpr ⟨?_, rfl⟩⟩
    · rw [Vector.getElem?_toList]
      exact Vector.getElem?_eq_some_iff.mpr ⟨hy, rfl⟩
    · exact Vector.getElem?_eq_some_iff.mpr ⟨hx, hlit⟩

theorem nodup_zipIdx {α : Type} (l : List α) : l.zipIdx.Nodup :=
  .of_map Prod.snd (by rw [List.zipIdx_map_snd]; exact List.nodup_range')

/-- No lit pixel is named twice. -/
theorem nodup_lit (picture : Picture) : (lit picture).Nodup := by
  rw [lit_eq, List.nodup_flatMap]
  constructor
  · intro r _
    refine (nodup_zipIdx _).filterMap fun a b p ha hb => ?_
    obtain ⟨isLit, x⟩ := a
    obtain ⟨isLit', x'⟩ := b
    cases isLit with
    | false => cases ha
    | true =>
      cases isLit' with
      | false => cases hb
      | true =>
        cases ha
        cases hb
        rfl
  · -- pixels of different rows are in different rows
    have hrows : (picture.toList.zipIdx.map Prod.snd).Nodup := by
      rw [List.zipIdx_map_snd]
      exact List.nodup_range'
    refine (List.pairwise_map.mp hrows).imp fun {r r'} hne p hp hp' => ?_
    exact hne ((mem_litIn.mp hp).2.symm.trans (mem_litIn.mp hp').2)

/-- How many pixels of a picture are lit. -/
def litCount (picture : Picture) : Nat :=
  (Finset.univ.filter fun c : Fin screenWidth × Fin screenHeight => (picture.get c.2).get c.1 = true).card

theorem length_lit (picture : Picture) : (lit picture).length = litCount picture := by
  let place (c : Fin screenWidth × Fin screenHeight) : Nat × Nat := (c.1.val, c.2.val)
  have hplace : place.Injective := fun c c' h => Prod.ext (Fin.ext (Prod.mk.inj h).1) (Fin.ext (Prod.mk.inj h).2)
  have himage : (lit picture).toFinset = (Finset.univ.filter fun c : Fin screenWidth × Fin screenHeight =>
      (picture.get c.2).get c.1 = true).image place := by
    ext ⟨x, y⟩
    simp only [List.mem_toFinset, mem_lit, Finset.mem_image, Finset.mem_filter, Finset.mem_univ, true_and]
    constructor
    · rintro ⟨hx, hy, hlit⟩
      exact ⟨(⟨x, hx⟩, ⟨y, hy⟩), hlit, rfl⟩
    · rintro ⟨c, hlit, hc⟩
      cases hc
      exact ⟨c.1.isLt, c.2.isLt, hlit⟩
  rw [← List.toFinset_card_of_nodup (nodup_lit picture), himage, Finset.card_image_of_injective _ hplace, litCount]

/-! ## The squares of a view -/

/-- The rectangle of the whole view. -/
def ground (v : View) : Fill := { left := 0, top := 0, width := v.width, height := v.height, color := v.background }

/-- The square of the pixel at a place. -/
def square (v : View) (p : Nat × Nat) : Fill :=
  { left := p.1 * v.scale, top := p.2 * v.scale, width := v.scale, height := v.scale, color := v.foreground }

theorem paint_present (v : View) (picture : Picture) :
    (v.present picture).paint = v.ground :: (lit picture).map v.square := rfl

/-- The points that the square of a pixel covers are those that belong to the pixel. -/
theorem square_covers (hs : 0 < v.scale) : (v.square p).Covers x y ↔ p = (x / v.scale, y / v.scale) := by
  have hside : ∀ i n : Nat, i * v.scale ≤ n ∧ n < i * v.scale + v.scale ↔ i = n / v.scale := by
    intro i n
    rw [← Nat.succ_mul, ← Nat.le_div_iff_mul_le hs, ← Nat.div_lt_iff_lt_mul hs]
    omega
  rw [Fill.Covers, Prod.ext_iff]
  exact and_congr (hside p.1 x) (hside p.2 y)

theorem square_apart (hs : 0 < v.scale) {p q : Nat × Nat} (h : p ≠ q) : (v.square p).Apart (v.square q) :=
  fun _ _ ⟨hp, hq⟩ => h (((square_covers hs).mp hp).trans ((square_covers hs).mp hq).symm)

theorem square_within (h : (x, y) ∈ lit picture) :
    (v.square (x, y)).left + (v.square (x, y)).width ≤ v.width
      ∧ (v.square (x, y)).top + (v.square (x, y)).height ≤ v.height := by
  obtain ⟨hx, hy, -⟩ := mem_lit.mp h
  have hside : ∀ {i n : Nat}, i < n → i * v.scale + v.scale ≤ n * v.scale := by
    intro i n hi
    rw [← Nat.succ_mul]
    exact Nat.mul_le_mul_right _ hi
  exact ⟨hside hx, hside hy⟩

/-- Painting a view with a picture, at a scale that is positive, first fills the ground and then as many squares as
pixels are lit, all in the view and no two of them over each other. After that, every point of the view has the colour
of the pixel it belongs to: the foreground where that is lit, and else the background. -/
theorem paint_enlarged (hs : 0 < v.scale) (picture : Picture) :
    ∃ squares, (v.present picture).paint = v.ground :: squares
      ∧ squares.length = litCount picture
      ∧ (∀ f ∈ squares, f.color = v.foreground ∧ f.left + f.width ≤ v.width ∧ f.top + f.height ≤ v.height)
      ∧ squares.Pairwise Fill.Apart
      ∧ ∀ px < v.width, ∀ py < v.height, ∃ (hx : px / v.scale < screenWidth) (hy : py / v.scale < screenHeight),
        Canvas.blank.fillAll (v.present picture).paint px py
          = some (if (picture.get ⟨py / v.scale, hy⟩).get ⟨px / v.scale, hx⟩ then v.foreground else v.background) := by
  have hcolor : ∀ f ∈ (lit picture).map v.square, f.color = v.foreground := by
    intro f hf
    obtain ⟨p, -, rfl⟩ := List.mem_map.mp hf
    rfl
  refine ⟨(lit picture).map v.square, paint_present v picture, ?_, fun f hf => ⟨hcolor f hf, ?_⟩, ?_, ?_⟩
  · rw [List.length_map, length_lit]
  · obtain ⟨p, hp, rfl⟩ := List.mem_map.mp hf
    exact square_within hp
  · exact List.pairwise_map.mpr ((nodup_lit picture).imp fun hne => square_apart hs hne)
  · intro px hpx py hpy
    have hx : px / v.scale < screenWidth := (Nat.div_lt_iff_lt_mul hs).mpr hpx
    have hy : py / v.scale < screenHeight := (Nat.div_lt_iff_lt_mul hs).mpr hpy
    -- under every pixel of the view lies the ground, and a square over it if its pixel of the picture is lit
    have hground : (Canvas.blank.fill v.ground) px py = some v.background :=
      if_pos ⟨⟨Nat.zero_le _, by simpa [ground] using hpx⟩, Nat.zero_le _, by simpa [ground] using hpy⟩
    have hcovered : (∃ f ∈ (lit picture).map v.square, f.Covers px py)
        ↔ (picture.get ⟨py / v.scale, hy⟩).get ⟨px / v.scale, hx⟩ = true := by
      constructor
      · rintro ⟨f, hf, hcovers⟩
        obtain ⟨p, hp, rfl⟩ := List.mem_map.mp hf
        obtain rfl := (square_covers hs).mp hcovers
        obtain ⟨_, _, hlit⟩ := mem_lit.mp hp
        exact hlit
      · intro hlit
        exact ⟨_, List.mem_map.mpr ⟨_, mem_lit.mpr ⟨hx, hy, hlit⟩, rfl⟩, (square_covers hs).mpr rfl⟩
    refine ⟨hx, hy, ?_⟩
    calc Canvas.blank.fillAll (v.present picture).paint px py
      _ = (Canvas.blank.fill v.ground).fillAll ((lit picture).map v.square) px py := rfl
      _ = if ∃ f ∈ (lit picture).map v.square, f.Covers px py then some v.foreground else some v.background := by
          rw [Canvas.fillAll_eq hcolor, hground]
      _ = some (if (picture.get ⟨py / v.scale, hy⟩).get ⟨px / v.scale, hx⟩ then v.foreground else v.background) := by
          rw [if_congr hcovered rfl rfl, apply_ite some]

/-- A picture that is lit in its last column and row only. -/
def corner : Picture :=
  Display.flip (Vector.replicate screenHeight (Vector.replicate screenWidth false)) ⟨63, by decide⟩ ⟨31, by decide⟩

/-- A view without keys, at a scale of three. -/
def threefold : View where
  scale := 3
  foreground := Value.text "#FFFFFF"
  background := Value.text "#000000"
  padCodes := []
  controlCodes := []

/-- The last point of the view is of the lit pixel, and three columns before it are not. -/
theorem paint_enlarged_corner : 0 < threefold.scale ∧ litCount corner = 1
    ∧ Canvas.blank.fillAll (threefold.present corner).paint 191 95 = some threefold.foreground
    ∧ Canvas.blank.fillAll (threefold.present corner).paint 188 95 = some threefold.background := by
  have hs : 0 < threefold.scale := by decide
  obtain ⟨squares, hpaint, hcount, -, -, hpoints⟩ := paint_enlarged hs corner
  obtain ⟨_, _, hlast⟩ := hpoints 191 (by decide) 95 (by decide)
  obtain ⟨_, _, hbefore⟩ := hpoints 188 (by decide) 95 (by decide)
  refine ⟨hs, ?_, hlast, hbefore⟩
  rw [← length_lit]
  decide +kernel

end View

end Chip8.Host
