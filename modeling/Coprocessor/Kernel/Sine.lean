/-!
Sine and cosine in single precision. The argument is reduced in double precision to the
distance from the nearest multiple of π/2, a polynomial is evaluated there, again in double
precision, and the result is rounded to single precision once.
-/
namespace Coprocessor.Sine

def halfPi : Float := 1.5707963267948966

/-- Bit patterns of π/4, 3π/4, 5π/4 and 7π/4 in single precision: up to each of them, the nearest
multiple of π/2 is the one below. -/
def bounds : List UInt32 := [0x3F490FDA, 0x4016CBE3, 0x407B53D1, 0x40AFEDDF]

/-- Bit pattern of 2⁻¹², below which sine is the identity and cosine is one. -/
def tiny : UInt32 := 0x39800000

/-- An argument with its sign taken off: the multiple of π/2 nearest to it and the distance from
there. Arguments up to 9π/4 in magnitude are covered. -/
structure Reduced where
  quarter : Nat
  rest : Float

def magnitudeBits (x : Float32) : UInt32 :=
  x.toBits &&& 0x7FFFFFFF

def reduce (x : Float32) : Reduced :=
  let quarter := bounds.countP (· < magnitudeBits x)
  ⟨quarter, x.toFloat.abs - quarter.toFloat * halfPi⟩

/-- Sine within π/4 of zero. -/
def sinNear (x : Float) : Float32 :=
  let z := x * x
  let w := z * z
  let r := -0.000198393348360966317347 + z * 0.0000027183114939898219064
  let s := z * x
  ((x + s * (-0.166666666416265235595 + z * 0.0083333293858894631756)) + s * w * r).toFloat32

/-- Cosine within π/4 of zero. -/
def cosNear (x : Float) : Float32 :=
  let z := x * x
  let w := z * z
  let r := -0.00138867637746099294692 + z * 0.0000243904487962774090654
  (((1.0 + z * (-0.499999997251031003120)) + w * 0.0416666233237390631894) + (w * z) * r).toFloat32

/-- The sine of the magnitude that was reduced. -/
def sinQuarter (a : Reduced) : Float32 :=
  match a.quarter % 4 with
  | 0 => sinNear a.rest
  | 1 => cosNear a.rest
  | 2 => -sinNear a.rest
  | _ => -cosNear a.rest

/-- Sine of an argument up to 9π/4 in magnitude. -/
def sin (x : Float32) : Float32 :=
  if magnitudeBits x < tiny then x
  else
    let y := sinQuarter (reduce x)
    if x < 0.0 then -y else y

/-- Cosine of an argument up to 9π/4 in magnitude. -/
def cos (x : Float32) : Float32 :=
  if magnitudeBits x < tiny then 1.0
  else
    let a := reduce x
    match a.quarter % 4 with
    | 0 => cosNear a.rest
    | 1 => -sinNear a.rest
    | 2 => -cosNear a.rest
    | _ => sinNear a.rest

end Coprocessor.Sine
