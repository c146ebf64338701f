/-!
Square greyscale images and how points darken them. A white image is darkened one step at the
pixel of each point; points outside the image are dropped, and a pixel darker than one step is
left alone.
-/
namespace Coprocessor

/-- Pixels in a row, and rows in an image. -/
def imageSide : Nat := 128

/-- An image, row by row, one byte a pixel. -/
abbrev Image : Type :=
  Vector UInt8 16384

namespace Image

/-- Amount by which one hit darkens a pixel. -/
def step : UInt8 := 16

def whiten (image : Image) : Image :=
  image.map fun _ => 255

/-- Index of the pixel at column `x` and row `y`, if it is inside the image. -/
def pixel? (x y : Int) : Option (Fin 16384) :=
  if h : (0 ≤ x ∧ x < 128) ∧ (0 ≤ y ∧ y < 128) then
    some ⟨x.toNat + 128 * y.toNat, by omega⟩
  else
    none

def darker (v : UInt8) : UInt8 :=
  if v ≥ step then v - step else v

/-- The image after a hit at column `x` and row `y`. -/
def darken (image : Image) (x y : Int) : Image :=
  match pixel? x y with
  | some i =>
    let v := image[i]
    image.set i.val (darker v) i.isLt
  | none => image

/-- Darkens an image at `n` points of the sequence that starts at `p`, `next` giving the point
after a point and the pixel that it lands on. -/
def paint {α : Type} (next : α → α × Int × Int) : Nat → α → Image → Image
  | 0, _, image => image
  | n + 1, p, image =>
    match next p with
    | (p, x, y) => paint next n p (image.darken x y)

end Image

end Coprocessor
