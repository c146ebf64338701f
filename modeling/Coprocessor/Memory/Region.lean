import Coprocessor.Act
import Coprocessor.Bytes

/-!
Regions of plain memory behind memory-mapped hardware. Stores and fences are events, so an
observer sees what has landed at each fence.
-/
namespace Coprocessor

/-- Bytes that are mapped from `start` on. -/
structure Region where
  start : UInt32
  bytes : Array UInt8

namespace Region

def zero (start : UInt32) (size : Nat) : Region :=
  ⟨start, Array.replicate size 0⟩

/-- The byte at an index; beyond the region there is nothing but zeros. -/
def byte (r : Region) (i : Nat) : UInt8 :=
  r.bytes[i]?.getD 0

def word (r : Region) (i : Nat) : UInt32 :=
  Word.ofBytes #v[r.byte i, r.byte (i + 1), r.byte (i + 2), r.byte (i + 3)]

/-- The region with bytes placed from an index on. -/
def place (r : Region) (i : Nat) (bytes : List UInt8) : Region :=
  match r with
  | ⟨start, mem⟩ => ⟨start, Bytes.splice mem i bytes⟩

def index (r : Region) (addr : UInt32) : Nat :=
  addr.toNat - r.start.toNat

def covers (r : Region) (addr : UInt32) : Bool :=
  r.start ≤ addr && r.index addr < r.bytes.size

/-! ## Accesses by hardware index -/

def store (i : Nat) (bytes : List UInt8) : Act Empty Region Unit := do
  Act.emit (.stored ((← Act.get).start + i.toUInt32) bytes)
  Act.modify (·.place i bytes)

def storeWord (i : Nat) (value : UInt32) : Act Empty Region Unit :=
  store i (Word.toBytes value).toList

/-- Waits until every store so far has landed. -/
def fence : Act Empty Region Unit :=
  Act.emit .fence

end Region

end Coprocessor
