import Coprocessor.Kernel.Block

/-!
The two-dimensional discrete cosine transform of an 8x8 block,

    X(u,v) = C(u)/2 · C(v)/2 · Σ i, Σ j, x(i,j) · cos((2i+1)uπ/16) · cos((2j+1)vπ/16)

with C(0) = 1/√2 and C(k) = 1 otherwise, in double precision and with cosines from a table.
Results are rounded to the nearest integer, halves away from zero; as halves do occur, the order
of the additions and multiplications is part of the definition.
-/
namespace Coprocessor.CosineTransform

/-- 1/√2, the weight of the constant term. -/
def constantWeight : Float := 0.7071067811865476

/-- cos(kπ/16) for k below 32. -/
def cosines : Vector Float 32 :=
  #v[1.0, 0.9807852804032304, 0.9238795325112867, 0.8314696123025452,
    0.7071067811865475, 0.5555702330196022, 0.3826834323650898, 0.19509032201612827,
    0.0, -0.19509032201612827, -0.3826834323650898, -0.5555702330196022,
    -0.7071067811865475, -0.8314696123025452, -0.9238795325112867, -0.9807852804032304,
    -1.0, -0.9807852804032304, -0.9238795325112867, -0.8314696123025452,
    -0.7071067811865475, -0.5555702330196022, -0.3826834323650898, -0.19509032201612827,
    0.0, 0.19509032201612827, 0.3826834323650898, 0.5555702330196022,
    0.7071067811865475, 0.8314696123025452, 0.9238795325112867, 0.9807852804032304]

def cosine (i u : Nat) : Float :=
  cosines[(2 * i + 1) * u % 32]

def weight (u : Nat) : Float :=
  if u = 0 then constantWeight else 1.0

/-- The double sum of a coefficient, row by row. -/
def sum (block : Block8 Int8) (u v : Nat) : Float :=
  (List.finRange 8).foldl (fun acc (i : Fin 8) =>
    (List.finRange 8).foldl (fun acc (j : Fin 8) =>
      acc + block[i][j].toFloat * cosine i u * cosine j v) acc) 0.0

/-- The nearest integer, halves away from zero; beyond 16 bits, the largest or smallest. -/
def roundToInt16 (x : Float) : Int16 :=
  if x ≥ 0.0 then (x + 0.5).toInt16 else (x - 0.5).toInt16

/-- The coefficients of a block of samples. -/
def transform (block : Block8 Int8) : Block8 Int16 :=
  Vector.ofFn fun u => Vector.ofFn fun v =>
    roundToInt16 (weight u * weight v * sum block u v / 4.0)

end Coprocessor.CosineTransform
