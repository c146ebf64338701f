import Coprocessor.Mailbox.Basic
import Coprocessor.Simulation.Fault

/-!
A register bus with a tap on it. The tap shows every access, can hold status bits at one or at
zero, and lets planned accesses fail before they reach the bus.
-/
namespace Coprocessor

/-- The kinds of access that a fault can be planned for. -/
inductive AccessKind where
  | read (r : Register)
  | write (r : Register)
  deriving DecidableEq

structure TappedBus (σ : Type) where
  bus : σ
  /-- Status bits held at one. -/
  held : UInt32
  /-- Status bits let through; the others are held at zero. -/
  passed : UInt32
  faults : List (Fault AccessKind)

namespace TappedBus

variable {σ : Type}

/-- A tap that shows accesses and changes none. -/
def clear (bus : σ) : TappedBus σ where
  bus
  held := 0
  passed := 0xFFFFFFFF
  faults := []

def busPart : TappedBus σ → σ × (σ → TappedBus σ)
  | ⟨bus, held, passed, faults⟩ => (bus, fun bus => ⟨bus, held, passed, faults⟩)

def mask (held passed : UInt32) (t : TappedBus σ) : TappedBus σ :=
  { t with held, passed }

def addFault (f : Fault AccessKind) (t : TappedBus σ) : TappedBus σ :=
  { t with faults := t.faults ++ [f] }

def clearFaults (t : TappedBus σ) : TappedBus σ :=
  { t with faults := [] }

/-- Whether the next access of a kind fails; counts the access. -/
def strikes (k : AccessKind) : Act Error (TappedBus σ) Bool := fun
  | ⟨bus, held, passed, faults⟩ =>
    match Fault.strike faults k with
    | (hit, faults) => ⟨.ok hit, ⟨bus, held, passed, faults⟩, []⟩

/-- The value that a read shows. -/
def shown (t : TappedBus σ) (r : Register) (value : UInt32) : UInt32 :=
  if r = .status then (value ||| t.held) &&& t.passed else value

instance [RegisterBus σ Error] : RegisterBus (TappedBus σ) Error where
  read r := do
    if ← strikes (.read r) then
      Act.emit (.access (.read r none))
      Act.fail .io
    else
      let value ← (RegisterBus.read r).within busPart
      let value := (← Act.get).shown r value
      Act.emit (.access (.read r (some value)))
      return value
  write r value := do
    if ← strikes (.write r) then
      Act.emit (.access (.write r value false))
      Act.fail .io
    else
      (RegisterBus.write r value).within busPart
      Act.emit (.access (.write r value true))
  barrier := do
    RegisterBus.barrier.within busPart
    Act.emit (.access .barrier)
  pause := RegisterBus.pause.within busPart

end TappedBus

end Coprocessor
