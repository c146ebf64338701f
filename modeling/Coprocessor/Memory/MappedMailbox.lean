import Coprocessor.Mailbox.Basic
import Coprocessor.Memory.Region

/-!
Mailbox registers that are mapped in memory. Accesses cannot fail.
-/
namespace Coprocessor

/-- A register block, which begins where its region does. -/
structure MappedMailbox where
  registers : Region

namespace MappedMailbox

/-- Where the mailbox registers of the core are. -/
def defaultBase : UInt32 := 0x40013000

def registersPart : MappedMailbox → Region × (Region → MappedMailbox)
  | ⟨registers⟩ => (registers, fun registers => ⟨registers⟩)

instance : RegisterBus MappedMailbox Error where
  read r := Act.gets fun m => m.registers.word r.offset.toNat
  write r value := (Region.storeWord r.offset.toNat value).sure.within registersPart
  barrier := Region.fence.within registersPart
  pause := pure ()

end MappedMailbox

end Coprocessor
