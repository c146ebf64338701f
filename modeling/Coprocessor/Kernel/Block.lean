import Coprocessor.Failure
import Coprocessor.Word

/-!
8x8 blocks, and the words that carry them. Elements are taken in row-major order and packed
into words from the least significant end: four 8-bit samples to a word, or two 16-bit
coefficients.
-/
namespace Coprocessor

/-- An 8x8 block of elements, by row and column. -/
abbrev Block8 (α : Type) : Type :=
  Vector (Vector α 8) 8

namespace Block8

variable {α : Type}

/-- The block whose element `k` in row-major order is `f k`. -/
def ofFn (f : Fin 64 → α) : Block8 α :=
  Vector.ofFn fun row => Vector.ofFn fun col =>
    f ⟨8 * row.val + col.val, by omega⟩

/-- Element `k` in row-major order. -/
def entry (m : Block8 α) (k : Fin 64) : α :=
  m[k.val / 8][k.val % 8]

@[simp] theorem entry_ofFn (f : Fin 64 → α) (k : Fin 64) : (ofFn f).entry k = f k := by
  simp only [entry, ofFn, Vector.getElem_ofFn]
  congr 1
  apply Fin.ext
  show 8 * (k.val / 8) + k.val % 8 = k.val
  omega

theorem ext_entry {m n : Block8 α} (h : ∀ k, m.entry k = n.entry k) : m = n := by
  apply Vector.ext
  intro row hrow
  apply Vector.ext
  intro col hcol
  have same := h ⟨8 * row + col, by omega⟩
  have hr : (8 * row + col) / 8 = row := by omega
  have hc : (8 * row + col) % 8 = col := by omega
  simpa only [entry, hr, hc] using same

@[simp] theorem ofFn_entry (m : Block8 α) : ofFn m.entry = m :=
  ext_entry (entry_ofFn m.entry)

/-! ## Samples, four to a word -/

/-- Words that carry a block of samples. -/
def sampleWords : Nat := 16

/-- The block of samples at the start of `words`. Words after it are ignored. -/
def samplesOfWords (words : List UInt32) : Except Error (Block8 Int8) :=
  if h : 16 ≤ words.length then
    .ok (ofFn fun k => (Word.byte (words.get ⟨k.val / 4, by omega⟩) k.val).toInt8)
  else
    .error .validationFailure

def packSamples (a b c d : Int8) : UInt32 :=
  Word.ofBytes #v[a.toUInt8, b.toUInt8, c.toUInt8, d.toUInt8]

/-- The words that carry a block of samples. -/
def wordsOfSamples (m : Block8 Int8) : Vector UInt32 16 :=
  Vector.ofFn fun w =>
    packSamples (m.entry ⟨4 * w.val, by omega⟩) (m.entry ⟨4 * w.val + 1, by omega⟩)
      (m.entry ⟨4 * w.val + 2, by omega⟩) (m.entry ⟨4 * w.val + 3, by omega⟩)

/-! ## Coefficients, two to a word -/

/-- Words that carry a block of coefficients. -/
def coefficientWords : Nat := 32

/-- One half of a word: the low half for an even `k`, the high half for an odd one. -/
def half (w : UInt32) (k : Nat) : UInt16 :=
  if k % 2 = 0 then w.toUInt16 else (w >>> 16).toUInt16

/-- The block of coefficients at the start of `words`. Words after it are ignored. -/
def coefficientsOfWords (words : List UInt32) : Except Error (Block8 Int16) :=
  if h : 32 ≤ words.length then
    .ok (ofFn fun k => (half (words.get ⟨k.val / 2, by omega⟩) k.val).toInt16)
  else
    .error .validationFailure

def packCoefficients (a b : Int16) : UInt32 :=
  a.toUInt16.toUInt32 ||| (b.toUInt16.toUInt32 <<< 16)

theorem half_packCoefficients (a b : Int16) (k : Nat) :
    (half (packCoefficients a b) k).toInt16 = if k % 2 = 0 then a else b := by
  have low : (packCoefficients a b).toUInt16 = a.toUInt16 := by
    apply UInt16.toBitVec_inj.1
    apply BitVec.eq_of_getLsbD_eq
    intro i hi
    simp [packCoefficients, hi]
  have high : (packCoefficients a b >>> 16).toUInt16 = b.toUInt16 := by
    apply UInt16.toBitVec_inj.1
    apply BitVec.eq_of_getLsbD_eq
    intro i hi
    simp [packCoefficients, hi]
    grind
  simp only [half]
  split
  · rw [low, UInt16.toInt16, Int16.toUInt16]
  · rw [high, UInt16.toInt16, Int16.toUInt16]

/-- The words that carry a block of coefficients. -/
def wordsOfCoefficients (m : Block8 Int16) : Vector UInt32 32 :=
  Vector.ofFn fun w =>
    packCoefficients (m.entry ⟨2 * w.val, by omega⟩) (m.entry ⟨2 * w.val + 1, by omega⟩)

/-- Writes a block of coefficients over the start of `buffer`, and gives the number of words
written. A buffer that is too short is left alone. -/
def placeCoefficients (m : Block8 Int16) (buffer : List UInt32) :
    Except Error (Nat × List UInt32) :=
  if coefficientWords ≤ buffer.length then
    .ok (coefficientWords, m.wordsOfCoefficients.toList ++ buffer.drop coefficientWords)
  else
    .error .invalidLength

end Block8

end Coprocessor
