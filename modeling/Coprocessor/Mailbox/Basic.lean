import Coprocessor.Act

/-!
Flow-controlled word transfers, packet completion and the abort handshake, on top of any bus that
reaches the mailbox registers. The status register is read anew for every check.
-/
namespace Coprocessor

/-- A way to reach the mailbox registers. A barrier returns once every write before it has
landed, and a pause lets time pass between two polls; neither can fail. -/
class RegisterBus (σ : Type) (ε : outParam Type) where
  read : Register → Act ε σ UInt32
  write : Register → UInt32 → Act ε σ Unit
  barrier : Act Empty σ Unit
  pause : Act Empty σ Unit

namespace Mailbox

variable {σ ε : Type} [RegisterBus σ ε] [Raises ε]

def status : Act ε σ Status := do
  return ⟨← RegisterBus.read .status⟩

/-- Whether the peer has a word waiting for this side. -/
def canRead : Act ε σ Bool := do
  return (← status).rxAvailable

/-- Whether there is room for a word to the peer. -/
def canWrite : Act ε σ Bool := do
  return (← status).txAvailable

def abortOutstanding : Act ε σ Bool := do
  return (← status).abortInProgress

def errors : Act ε σ Status := do
  return (← status).errors

/-- Waits until every register write so far has landed. -/
def barrier : Act ε σ Unit :=
  RegisterBus.barrier.sure

/-- Lets time pass between two polls. -/
def pause : Act ε σ Unit :=
  RegisterBus.pause.sure

/-- Writes one word to the peer, if there is room for it. -/
def writeWord (word : UInt32) : Act ε σ Unit := do
  if ← canWrite then
    RegisterBus.write .wdata word
    barrier
    Act.log (.wordWritten word)
  else
    Act.fail .channelNotReady

/-- Reads one word from the peer without asking whether one is waiting. -/
def takeWord : Act ε σ UInt32 := do
  let word ← RegisterBus.read .rdata
  Act.log (.wordRead word)
  return word

/-- Reads one word from the peer, if one is waiting. -/
def readWord : Act ε σ UInt32 := do
  if ← canRead then
    takeWord
  else
    Act.fail .channelNotReady

/-- Tells the peer that the packet just written is complete. Every word lands before the signal. -/
def completePacket : Act ε σ Unit := do
  barrier
  RegisterBus.write .done 1
  barrier

/-- Acknowledges the peer's abort. -/
def acknowledgeAbort : Act ε σ Unit := do
  RegisterBus.write .abort 1
  barrier

/-- Raises an abort. The register that acknowledges on one side requests on the other. -/
def requestAbort : Act ε σ Unit :=
  acknowledgeAbort

end Mailbox

/-! ## Buses without barriers -/

/-- A bus whose writes have landed when they return, as where each access travels over a probe:
barriers do nothing, and a poll is followed by a real wait. -/
structure Unfenced (σ : Type) where
  bus : σ

namespace Unfenced

variable {σ ε : Type}

def busPart : Unfenced σ → σ × (σ → Unfenced σ)
  | ⟨bus⟩ => (bus, fun bus => ⟨bus⟩)

/-- Runs an action on a bus without its barriers. -/
def run {α : Type} (x : Act ε (Unfenced σ) α) : Act ε σ α :=
  x.within fun bus => (⟨bus⟩, Unfenced.bus)

instance [RegisterBus σ ε] : RegisterBus (Unfenced σ) ε where
  read r := (RegisterBus.read r).within busPart
  write r v := (RegisterBus.write r v).within busPart
  barrier := pure ()
  pause := Act.emit .pause

end Unfenced

end Coprocessor
