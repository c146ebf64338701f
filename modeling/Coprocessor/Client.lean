import Coprocessor.Mailbox.Transfer

/-!
The peer's side of the protocol: send a request, wait a bounded number of polls for the answer,
check that it is one, and raise an abort. The client works over any bus; one without barriers
pauses between polls.
-/
namespace Coprocessor

structure ClientLimits where
  /-- Status polls before a request is given up. At least one poll is made. -/
  pollLimit : UInt32
  /-- Status polls before an abort is given up. -/
  abortLimit : UInt32
  deriving DecidableEq

def ClientLimits.default : ClientLimits where
  pollLimit := 100000
  abortLimit := 1000

namespace Client

variable {σ ε : Type} [RegisterBus σ ε] [Raises ε]

/-- Sends a request and gives the number of its arguments. -/
def send (request : Packet) : Act ε σ Nat :=
  Transfer.send request

def answerReady : Act ε σ Bool :=
  Mailbox.canRead

/-- The response that a request opcode asks for, if it is one that is ever answered. -/
def expected? (asked : Option UInt16) : Option Response :=
  match asked with
  | none => none
  | some code =>
    match Request.ofCode code with
    | .ok request => request.answer?
    | .error _ => none

/-- Accepts a packet that carries a response opcode, and the right one if the question is known. -/
def acceptAnswer (response : Packet) (asked : Option UInt16) : Act ε σ Unit :=
  match response.toResponse with
  | .ok .invalid | .error _ => do
    Act.log (.answerInvalid response.opcode)
    Act.fail .invalidOpcode
  | .ok actual =>
    match expected? asked with
    | none => pure ()
    | some expected =>
      if expected = actual then pure ()
      else do
        Act.log (.answerUnexpected expected actual)
        Act.fail .invalidOpcode

/-- Receives the answer to `asked`, or any answer. -/
def receiveAnswer (asked : Option UInt16) : Act ε σ Packet := do
  let response ← Transfer.receiveFresh
  acceptAnswer response asked
  return response

def receive : Act ε σ Packet :=
  receiveAnswer none

/-- Polls until an answer is waiting, `max 1 limit` times at most, and gives the number of polls
that found none. -/
def awaitAnswer (limit : Nat) : Act ε σ (Option Nat) :=
  Act.firstSome (max 1 limit) 0 fun i => do
    if ← answerReady then
      return some i
    else
      if i + 1 < limit then Mailbox.pause
      return none

/-- Sends a request and waits for the answer to it. -/
def request (limits : ClientLimits) (request : Packet) : Act ε σ Packet := do
  Act.log (.requestStarted request.opcode)
  let _ ← send request
  match ← awaitAnswer limits.pollLimit.toNat with
  | none =>
    Act.log (.requestUnanswered (max 1 limits.pollLimit.toNat))
    Act.fail .timeout
  | some polls =>
    let response ← receiveAnswer (some request.opcode)
    Act.log (.requestCompleted polls)
    return response

/-- Raises an abort and waits for the other side to complete it. -/
def abort (limits : ClientLimits) : Act ε σ Unit := do
  Mailbox.requestAbort
  let completed ← Act.firstSome limits.abortLimit.toNat 0 fun _ => do
    if ← Mailbox.abortOutstanding then
      Mailbox.pause
      return none
    else
      return some ()
  match completed with
  | some () => Act.log .abortCompleted
  | none =>
    Act.log (.abortUnending limits.abortLimit.toNat)
    Act.fail .abortFailed

end Client

end Coprocessor
