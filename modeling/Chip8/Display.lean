/-!
# Display

A picture of `width` by `height` pixels, each dark or lit, with a flag that says whether it may differ from
the picture shown last. A sprite is a list of rows of eight pixels; drawing it flips the pixels under its set
bits, and whatever sticks out on one side comes back in on the other. Sizes are positive, so that every
integer coordinate has a place: `wrap` takes it modulo the size.
-/

namespace Chip8

/-- The rows of a picture from the top, the pixels of a row from the left. -/
abbrev Frame (width height : Nat) := Vector (Vector Bool width) height

/-- The sizes that have a place for every coordinate. -/
class Positive (n : Nat) : Prop where
  pos : 0 < n

/-- The place of an integer coordinate on a ring of `n` places. -/
def wrap (n : Nat) [Positive n] (a : Int) : Fin n :=
  ⟨(a % n).toNat, by
    have hn : (0 : Int) < n := by have := Positive.pos (n := n); omega
    have h1 := Int.emod_nonneg a (Int.ne_of_gt hn)
    have h2 := Int.emod_lt_of_pos a hn
    omega⟩

structure Display (width height : Nat) where
  pixels : Frame width height := Vector.replicate height (Vector.replicate width false)
  dirty : Bool := false
  deriving DecidableEq, Repr

namespace Display

variable {width height : Nat}

/-- All pixels dark; the picture counts as changed. -/
def cleared : Display width height := { dirty := true }

/-- Flips the pixel in column `x` of row `y`. -/
def flip (f : Frame width height) (x : Fin width) (y : Fin height) : Frame width height :=
  f.set y ((f[y]).set x (!(f[y])[x]))

variable [Positive width] [Positive height]

/-- Whether the pixel at integer coordinates is lit. -/
def pixel (d : Display width height) (x y : Int) : Bool := (d.pixels[wrap height y])[wrap width x]

/-- Flips one pixel: the new picture, the collision flag raised if the pixel was lit. -/
def plot (d : Display width height × Bool) (x y : Int) : Display width height × Bool :=
  let lit := d.1.pixel x y
  ({ pixels := flip d.1.pixels (wrap width x) (wrap height y), dirty := true }, d.2 || lit)

/-- Whether bit `7 - bit` of a sprite row is set; only the low eight bits of the row count. -/
def bitSet (row : Int) (bit : Nat) : Bool := row / (Nat.pow 2 (7 - bit) : Nat) % 2 = 1

/-- The pixels a sprite covers when drawn at `(x0, y0)`, row by row and from the left, as coordinates that
are not yet wrapped. -/
def covered (x0 y0 : Int) (sprite : List Int) : List (Int × Int) :=
  sprite.zipIdx.flatMap fun (row, r) =>
    (List.range 8).filterMap fun bit => if bitSet row bit then some (x0 + bit, y0 + r) else none

/-- Draws a sprite: every covered pixel is flipped; the flag says whether a lit pixel was hit. -/
def draw (d : Display width height) (x0 y0 : Int) (sprite : List Int) : Display width height × Bool :=
  (covered x0 y0 sprite).foldl (fun d p => plot d p.1 p.2) (d, false)

/-- The picture counts as shown. -/
def markClean (d : Display width height) : Display width height := { d with dirty := false }

end Display

end Chip8
