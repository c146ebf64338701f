import Coprocessor.Mailbox.Basic

/-!
Mailbox registers of a core whose memory is reached from outside, four bytes at a time, as by a
debug probe. Such an access has landed when it returns, so barriers do nothing, and a polling
loop waits between two polls.
-/
namespace Coprocessor

/-- Memory that can be read and written at absolute addresses, one word's bytes at a time. -/
class RemoteMemory (ρ : Type) where
  read : UInt32 → Act Failure ρ (Vector UInt8 4)
  write : UInt32 → Vector UInt8 4 → Act Failure ρ Unit

/-- The mailbox whose registers a remote memory has at `base`. -/
structure Remote (ρ : Type) where
  memory : ρ
  base : UInt32

namespace Remote

variable {ρ : Type}

def memoryPart : Remote ρ → ρ × (ρ → Remote ρ)
  | ⟨memory, base⟩ => (memory, fun memory => ⟨memory, base⟩)

/-- Address of a register. -/
def addressOf (r : Register) : Act Failure (Remote ρ) UInt32 := do
  Act.ofExcept .trap (r.address (← Act.gets Remote.base))

instance [RemoteMemory ρ] : RegisterBus (Remote ρ) Failure where
  read r := do
    let addr ← addressOf r
    let bytes ← ((RemoteMemory.read addr).mapFailure Failure.asAccess).within memoryPart
    return Word.ofBytes bytes
  write r value := do
    let addr ← addressOf r
    ((RemoteMemory.write addr (Word.toBytes value)).mapFailure Failure.asAccess).within memoryPart
  barrier := pure ()
  pause := Act.emit .pause

end Remote

end Coprocessor
