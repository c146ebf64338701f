import Coprocessor.Memory.Region
import Coprocessor.Storage.Device

/-!
Persistent storage that is programmed through memory. While command mode is on, a word written to
the array is a command for the page that holds its address.
-/
namespace Coprocessor

/-- The command mode register and the array. -/
structure MappedStorage where
  control : Region
  array : Region

namespace MappedStorage

def controlPart : MappedStorage → Region × (Region → MappedStorage)
  | ⟨control, array⟩ => (control, fun control => ⟨control, array⟩)

def arrayPart : MappedStorage → Region × (Region → MappedStorage)
  | ⟨control, array⟩ => (array, fun array => ⟨control, array⟩)

/-- First address of the array, and the address past the last. -/
def start : UInt32 := 0x60000000
def finish : UInt32 := 0x60400000

/-- Values of the command mode register. -/
def modeOn : UInt8 := 2
def modeOff : UInt8 := 0

/-- Commands: load the page buffer, and program what was loaded. -/
def loadCommand : UInt32 := 0x5200
def commitCommand : UInt32 := 0x9528

/-- Writes the command mode register. -/
def setMode (mode : UInt8) : Act Empty MappedStorage Unit := do
  (Region.store 0 [mode, 0]).within controlPart
  Region.fence.within controlPart

/-- Stores bytes in the array. -/
def storeArray (addr : UInt32) (bytes : List UInt8) : Act Empty MappedStorage Unit := do
  let i ← Act.gets fun d => d.array.index addr
  (Region.store i bytes).within arrayPart
  Region.fence.within arrayPart

/-- Gives a command for the page at `addr`. -/
def command (addr word : UInt32) : Act Empty MappedStorage Unit := do
  setMode modeOn
  storeArray addr (Word.toBytes word).toList
  setMode modeOff

/-- Stores bytes eight at a time, `n` times. -/
def storeDoubleWords : Nat → UInt32 → List UInt8 → Act Empty MappedStorage Unit
  | 0, _, _ => pure ()
  | n + 1, addr, bytes => do
    storeArray addr (bytes.take 8)
    storeDoubleWords n (addr + 8) (bytes.drop 8)

/-- `len` bytes at `addr` are all in the array. -/
def Covers (addr : UInt32) (len : Nat) : Prop :=
  start ≤ addr ∧ addr.toNat + len ≤ finish.toNat

instance (addr : UInt32) (len : Nat) : Decidable (Covers addr len) :=
  inferInstanceAs (Decidable (_ ∧ _))

instance : PageDevice MappedStorage where
  range _ := .ok (start, finish)
  read addr len := do
    if Covers addr len then
      Act.gets fun d => Vector.ofFn fun i => d.array.byte (d.array.index addr + i.val)
    else
      Act.fail .storage
  load addr page := do
    if Covers addr pageSize ∧ addr.toNat % pageSize = 0 then
      (storeDoubleWords 4 addr page.toList).sure
      (command addr loadCommand).sure
    else
      Act.fail .storage
  commit addr := do
    if Covers addr pageSize then
      (command addr commitCommand).sure
    else
      Act.fail .storage

end MappedStorage

end Coprocessor
