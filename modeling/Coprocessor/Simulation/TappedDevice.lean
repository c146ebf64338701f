import Coprocessor.Simulation.Fault
import Coprocessor.Storage.Device

/-!
A page device with a tap on it, which shows every call and lets planned calls fail. A call that
fails does nothing.
-/
namespace Coprocessor

/-- The kinds of call that a fault can be planned for. -/
inductive PageOperation where
  | read
  | load
  | commit
  deriving DecidableEq

structure TappedDevice (δ : Type) where
  device : δ
  faults : List (Fault PageOperation)

namespace TappedDevice

variable {δ : Type}

/-- A tap that changes no call. -/
def clear (device : δ) : TappedDevice δ := ⟨device, []⟩

def devicePart : TappedDevice δ → δ × (δ → TappedDevice δ)
  | ⟨device, faults⟩ => (device, fun device => ⟨device, faults⟩)

def addFault (f : Fault PageOperation) (t : TappedDevice δ) : TappedDevice δ :=
  { t with faults := t.faults ++ [f] }

def clearFaults (t : TappedDevice δ) : TappedDevice δ :=
  { t with faults := [] }

/-- Whether the next call of a kind fails; counts the call. -/
def strikes (k : PageOperation) : Act Error (TappedDevice δ) Bool := fun
  | ⟨device, faults⟩ =>
    match Fault.strike faults k with
    | (hit, faults) => ⟨.ok hit, ⟨device, faults⟩, []⟩

/-- Counts a call, and lets it through unless a fault strikes. -/
def guarded {α : Type} (k : PageOperation) (call : PageCall) (x : Act Error δ α) :
    Act Error (TappedDevice δ) α := do
  Act.emit (.page call)
  if ← strikes k then Act.fail .storage else x.within devicePart

instance [PageDevice δ] : PageDevice (TappedDevice δ) where
  range t := PageDevice.range t.device
  read addr len := guarded .read (.read addr len) (PageDevice.read addr len)
  load addr page := guarded .load (.load addr) (PageDevice.load addr page)
  commit addr := guarded .commit (.commit addr) (PageDevice.commit addr)

end TappedDevice

end Coprocessor
