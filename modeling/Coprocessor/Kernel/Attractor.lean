import Coprocessor.Act
import Coprocessor.Kernel.Image
import Coprocessor.Kernel.Sine

/-!
Images of a Clifford attractor, the point sequence

    x' = sin(a·y) + c·cos(a·x)
    y' = sin(b·x) + d·cos(b·y)

from the origin on, in single precision. The sequence is chaotic, so every rounding shows in the
image, and which points an image has depends on the sine and the cosine that it is made with.
-/
namespace Coprocessor

/-- Generates an image in place. It cannot fail, and may report progress. -/
abbrev Painter : Type :=
  Act Empty Image Unit

/-- Sine and cosine in single precision. -/
structure Trigonometry where
  sin : Float32 → Float32
  cos : Float32 → Float32

/-- The functions that images are made with. -/
def Trigonometry.default : Trigonometry :=
  ⟨Sine.sin, Sine.cos⟩

namespace Attractor

/-- Points of an image, unless said otherwise. -/
def defaultIterations : Nat := 200000

/-- Points between two progress messages. -/
def reportInterval : Nat := 4096

structure Point where
  x : Float32
  y : Float32

def origin : Point := ⟨0.0, 0.0⟩

def Point.next (trig : Trigonometry) (p : Point) : Point where
  x := trig.sin (-2.0 * p.y) + 1.1 * trig.cos (-2.0 * p.x)
  y := trig.sin (-2.4 * p.x) + -0.9 * trig.cos (-2.4 * p.y)

/-- Pixels per unit of length. -/
def scale : Float32 := 128.0 / 5.1

/-- The column or row on which a coordinate lands: the image is centred on the origin. -/
def landing (c : Float32) : Int :=
  (c * scale + 64.0).round.toInt32.toInt

/-- The next point and its pixel. -/
def advance (trig : Trigonometry) (p : Point) : Point × Int × Int :=
  let q := p.next trig
  (q, landing q.x, landing q.y)

/-- The progress messages of an image of `n` points. -/
def progress (n : Nat) : List Event :=
  (List.range ((n + reportInterval - 1) / reportInterval)).map fun k =>
    .message (.imageIteration (reportInterval * k))

/-- Generates the image of `n` points. What the image held before does not matter. -/
def generateWith (trig : Trigonometry) (n : Nat) : Painter := fun image =>
  ⟨.ok (), Image.paint (advance trig) n origin image.whiten, progress n⟩

def generate (n : Nat) : Painter :=
  generateWith .default n

end Attractor

end Coprocessor
