import Coprocessor.Act

/-!
Interrupt controllers, and one in memory. None of the operations can fail.
-/
namespace Coprocessor

/-- What the firmware asks of an interrupt controller. -/
class InterruptController (κ : Type) where
  enable : Source → Act Empty κ Unit
  isEnabled : Source → Act Empty κ Bool
  /-- Lower priorities are more urgent. -/
  setPriority : Source → UInt8 → Act Empty κ Unit
  /-- Marks a source pending. -/
  trigger : Source → Act Empty κ Unit
  isPending : Source → Act Empty κ Bool
  clearPending : Source → Act Empty κ Unit
  /-- Entry to the handler of a source. -/
  acknowledge : Source → Act Empty κ Unit

structure Line where
  enabled : Bool
  pending : Bool
  priority : UInt8
  /-- Handler entries. -/
  acknowledged : Nat
  /-- How often the source was cleared. -/
  cleared : Nat
  deriving DecidableEq

def Line.idle : Line where
  enabled := false
  pending := false
  priority := 0
  acknowledged := 0
  cleared := 0

/-- A simulated controller. Entering a handler does not clear its source, so a handler that
forgets to is noticed. -/
structure Lines where
  available : Line
  abort : Line
  deriving DecidableEq

namespace Lines

def idle : Lines := ⟨.idle, .idle⟩

def line (c : Lines) : Source → Line
  | .mailboxAvailable => c.available
  | .mailboxAbort => c.abort

def mapLine (c : Lines) (f : Line → Line) : Source → Lines
  | .mailboxAvailable => { c with available := f c.available }
  | .mailboxAbort => { c with abort := f c.abort }

@[simp] theorem line_mapLine_self (c : Lines) (f : Line → Line) (s : Source) :
    (c.mapLine f s).line s = f (c.line s) := by
  cases s <;> rfl

@[simp] theorem line_mapLine_other (c : Lines) (f : Line → Line) (s : Source) :
    (c.mapLine f s).line s.other = c.line s.other := by
  cases s <;> rfl

theorem line_mapLine_of_ne (c : Lines) (f : Line → Line) {s t : Source} (h : t ≠ s) :
    (c.mapLine f s).line t = c.line t := by
  cases s <;> cases t <;> first | rfl | exact absurd rfl h

/-- Sources that are enabled and pending. -/
def ready (c : Lines) (s : Source) : Bool :=
  (c.line s).enabled && (c.line s).pending

instance : InterruptController Lines where
  enable s := Act.modify (·.mapLine (fun l => { l with enabled := true }) s)
  isEnabled s := Act.gets fun c => (c.line s).enabled
  setPriority s priority := Act.modify (·.mapLine (fun l => { l with priority }) s)
  trigger s := Act.modify (·.mapLine (fun l => { l with pending := true }) s)
  isPending s := Act.gets fun c => (c.line s).pending
  clearPending s :=
    Act.modify (·.mapLine (fun l => { l with pending := false, cleared := l.cleared + 1 }) s)
  acknowledge s :=
    Act.modify (·.mapLine (fun l => { l with acknowledged := l.acknowledged + 1 }) s)

end Lines

end Coprocessor
