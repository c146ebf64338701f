/-!
Words of the wire and of memory: their little-endian bytes and their hexadecimal text.
-/
namespace Coprocessor.Word

/-- The four bytes of a word, least significant first. -/
def toBytes (w : UInt32) : Vector UInt8 4 :=
  #v[w.toUInt8, (w >>> 8).toUInt8, (w >>> 16).toUInt8, (w >>> 24).toUInt8]

/-- The word whose bytes, least significant first, are `bytes`. -/
def ofBytes (bytes : Vector UInt8 4) : UInt32 :=
  bytes[0].toUInt32 ||| (bytes[1].toUInt32 <<< 8) ||| (bytes[2].toUInt32 <<< 16) |||
    (bytes[3].toUInt32 <<< 24)

theorem ofBytes_toBytes (w : UInt32) : ofBytes (toBytes w) = w := by
  apply UInt32.toBitVec_inj.1
  simp only [ofBytes, toBytes, Vector.getElem_mk, List.getElem_toArray, List.getElem_cons_zero,
    List.getElem_cons_succ, UInt32.toBitVec_or, UInt32.toBitVec_shiftLeft,
    UInt8.toBitVec_toUInt32, UInt32.toBitVec_toUInt8, UInt32.toBitVec_shiftRight]
  apply BitVec.eq_of_getLsbD_eq
  intro i hi
  simp
  grind

theorem toBytes_ofBytes (bytes : Vector UInt8 4) : toBytes (ofBytes bytes) = bytes := by
  apply Vector.ext
  intro k hk
  apply UInt8.toBitVec_inj.1
  apply BitVec.eq_of_getLsbD_eq
  intro i hi
  match k, hk with
  | 0, _ => simp [toBytes, ofBytes, hi]
  | 1, _ | 2, _ | 3, _ =>
    simp [toBytes, ofBytes, hi]
    rw [← BitVec.getLsbD_eq_getElem]
    grind

/-- Byte `k` of a word, counted from the least significant; bytes repeat from the fourth on. -/
def byte (w : UInt32) (k : Nat) : UInt8 :=
  (toBytes w)[k % 4]

@[simp] theorem byte_ofBytes (bytes : Vector UInt8 4) (k : Nat) :
    byte (ofBytes bytes) k = bytes[k % 4] := by
  simp [byte, toBytes_ofBytes]

/-- One upper-case hexadecimal digit. -/
def digit (n : Nat) : Char :=
  if n < 10 then Char.ofNat (48 + n) else Char.ofNat (55 + n)

/-- The eight upper-case hexadecimal digits of a word. -/
def hex (w : UInt32) : String :=
  String.ofList ((List.range 8).map fun k => digit (w.toNat >>> (4 * (7 - k)) % 16))

/-- An address as it is written in messages: `0x` and eight digits. -/
def address (w : UInt32) : String :=
  "0x" ++ hex w

end Coprocessor.Word
