import Coprocessor.Failure

/-!
The mailbox registers and the bits of the status register.
-/
namespace Coprocessor

inductive Register where
  /-- The next word to the peer. -/
  | wdata
  /-- The next word from the peer; reading it takes the word. -/
  | rdata
  /-- The status bits. -/
  | status
  /-- Writing 1 acknowledges an abort, or raises one from the peer's side. -/
  | abort
  /-- Writing 1 tells the peer that the packet just written is complete. -/
  | done
  deriving DecidableEq

namespace Register

/-- All registers, by rising offset. -/
def all : List Register :=
  [wdata, rdata, status, abort, done]

def name : Register → String
  | wdata => "Wdata"
  | rdata => "Rdata"
  | status => "Status"
  | abort => "Abort"
  | done => "Done"

/-- Byte offset of a register from the base of the block. -/
def offset : Register → UInt32
  | wdata => 0x00
  | rdata => 0x04
  | status => 0x08
  | abort => 0x18
  | done => 0x1C

/-- Address of a register in a block at `base`. A block placed so high that the register would
lie past the last address traps. -/
def address (r : Register) (base : UInt32) : Except Trap UInt32 :=
  checkedAdd base r.offset

/-- The register that a block at `base` has at `addr`. -/
def at? (base addr : UInt32) : Option Register :=
  all.find? fun r => base.toNat + r.offset.toNat == addr.toNat

theorem mem_all (r : Register) : r ∈ all := by
  cases r <;> decide

theorem offset_injective {r s : Register} (h : r.offset = s.offset) : r = s := by
  cases r <;> cases s <;> first | rfl | exact absurd h (by decide)

end Register

/-- Contents of the status register. Bits without a name are kept. -/
structure Status where
  bits : UInt32
  deriving DecidableEq

namespace Status

/-- The peer has a word waiting for this side. -/
def rxAvailableBit : UInt32 := 0x01
/-- There is room for a word to the peer. -/
def txAvailableBit : UInt32 := 0x02
/-- An abort has been raised and not yet acknowledged. -/
def abortInProgressBit : UInt32 := 0x04
/-- The last abort has been acknowledged. -/
def abortAcknowledgedBit : UInt32 := 0x08
/-- A word was written while there was no room. -/
def txErrorBit : UInt32 := 0x10
/-- A word was read while none was waiting. -/
def rxErrorBit : UInt32 := 0x20

def rxAvailable (s : Status) : Bool := s.bits &&& rxAvailableBit != 0

def txAvailable (s : Status) : Bool := s.bits &&& txAvailableBit != 0

def abortInProgress (s : Status) : Bool := s.bits &&& abortInProgressBit != 0

def errors (s : Status) : Status := ⟨s.bits &&& (txErrorBit ||| rxErrorBit)⟩

end Status

end Coprocessor
