import Coprocessor.Interrupt.Controller
import Coprocessor.Memory.Region

/-!
The nested vectored interrupt controller. Sources are enabled, raised and cleared by writing their
bit to a register of its own for each action. A priority has a byte of its own, of which the part
implements the upper four bits, so larger priorities lose their high bits.
-/
namespace Coprocessor

structure Nvic where
  registers : Region

namespace Nvic

def registersPart : Nvic → Region × (Region → Nvic)
  | ⟨registers⟩ => (registers, fun registers => ⟨registers⟩)

/-- Indices of the registers: set-enable, set-pending, clear-pending and the first priority. -/
def setEnable : Nat := 0x100
def setPending : Nat := 0x200
def clearPending : Nat := 0x280
def firstPriority : Nat := 0x400

/-- Priority bits that the part implements, at the top of the byte. -/
def priorityShift : UInt8 := 4

def bit (s : Source) : UInt32 :=
  1 <<< s.number.toUInt32

/-- Whether a register shows the bit of a source. -/
def shows (register : Nat) (s : Source) (c : Nvic) : Bool :=
  c.registers.word register &&& bit s == bit s

def priority (c : Nvic) (s : Source) : UInt8 :=
  c.registers.byte (firstPriority + s.number) >>> priorityShift

def storeRegister (register : Nat) (bytes : List UInt8) : Act Empty Nvic Unit :=
  (Region.store register bytes).within registersPart

def fence : Act Empty Nvic Unit :=
  Region.fence.within registersPart

/-- Writes the bit of a source to a register. -/
def storeBit (register : Nat) (s : Source) : Act Empty Nvic Unit :=
  storeRegister register (Word.toBytes (bit s)).toList

instance : InterruptController Nvic where
  enable s := do
    storeBit setEnable s
    fence
  isEnabled s := Act.gets (shows setEnable s)
  setPriority s p := do
    storeRegister (firstPriority + s.number) [p <<< priorityShift]
    fence
  trigger s := storeBit setPending s
  isPending s := Act.gets (shows setPending s)
  clearPending s := do
    storeBit clearPending s
    fence
  acknowledge _ := pure ()

end Nvic

end Coprocessor
