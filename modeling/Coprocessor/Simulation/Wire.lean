import Coprocessor.Mailbox.Endpoint
import Coprocessor.Simulation.TappedBus

/-!
Two tapped endpoints, with a wire between them. Words wait in the outbound queue of their sender
until they are delivered.
-/
namespace Coprocessor

/-- The ends of a wire. -/
inductive Side where
  | left
  | right
  deriving DecidableEq

/-- Two endpoints. -/
structure Wire where
  left : TappedBus Endpoint
  right : TappedBus Endpoint

namespace Wire

/-- Two idle endpoints. -/
def idle (depth : Nat) : Wire :=
  ⟨.clear (.new depth), .clear (.new depth)⟩

def tap (w : Wire) : Side → TappedBus Endpoint
  | .left => w.left
  | .right => w.right

def part (s : Side) (w : Wire) : TappedBus Endpoint × (TappedBus Endpoint → Wire) :=
  match s, w with
  | .left, ⟨left, right⟩ => (left, fun left => ⟨left, right⟩)
  | .right, ⟨left, right⟩ => (right, fun right => ⟨left, right⟩)

/-- Moves what one side has written to the other side. -/
def deliver (s : Side) (w : Wire) : Wire :=
  match s with
  | .left =>
    match w.left.bus.deliver w.right.bus with
    | (left, right) => { w with left.bus := left, right.bus := right }
  | .right =>
    match w.right.bus.deliver w.left.bus with
    | (right, left) => { w with left.bus := left, right.bus := right }

end Wire

end Coprocessor
