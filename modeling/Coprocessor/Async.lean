import Coprocessor.Client

/-!
The host's side where every access completes before the next one is begun, as over a debug probe.
Words, packets and requests are moved as on the coprocessor's side, by operations of their own that
never wait for a barrier: a write has landed when it returns. Between two polls other work may run.
-/
namespace Coprocessor.Async

variable {σ ε : Type} [RegisterBus σ ε] [Raises ε]

/-- Lets other work run. Nothing of the mailbox is touched. -/
def delay : Act ε σ Unit :=
  Act.emit .pause

/-! ## Words -/

def status : Act ε σ Status := do
  return ⟨← RegisterBus.read .status⟩

def canRead : Act ε σ Bool := do
  return (← status).rxAvailable

def canWrite : Act ε σ Bool := do
  return (← status).txAvailable

def abortOutstanding : Act ε σ Bool := do
  return (← status).abortInProgress

/-- Writes one word to the peer, if there is room for it. -/
def writeWord (word : UInt32) : Act ε σ Unit := do
  if ← canWrite then
    RegisterBus.write .wdata word
    Act.log (.wordWritten word)
  else
    Act.fail .channelNotReady

/-- Reads one word from the peer without asking whether one is waiting. -/
def takeWord : Act ε σ UInt32 := do
  let word ← RegisterBus.read .rdata
  Act.log (.wordRead word)
  return word

/-- Reads one word from the peer, if one is waiting. -/
def readWord : Act ε σ UInt32 := do
  if ← canRead then
    takeWord
  else
    Act.fail .channelNotReady

/-- Tells the peer that the packet just written is complete. -/
def completePacket : Act ε σ Unit :=
  RegisterBus.write .done 1

/-- Raises an abort towards the coprocessor. -/
def requestAbort : Act ε σ Unit :=
  RegisterBus.write .abort 1

/-! ## Packets -/

/-- Writes words one after the other. -/
def writeWords : List UInt32 → Act ε σ Unit
  | [] => pure ()
  | word :: rest => do
    writeWord word
    writeWords rest

/-- Sends a packet and gives the number of its arguments. -/
def send (p : Packet) : Act ε σ Nat := do
  match argCount p.argLen with
  | .error e => Act.fail e
  | .ok len =>
    writeWord p.version
    writeWord p.header
    writeWords p.args
    completePacket
    Act.log (.packetSent p.opcode len)
    return len

/-- Reads words into the buffer from index `i` on. -/
def readArgs : Nat → Nat → Act ε (σ × Packet) Unit
  | 0, _ => pure ()
  | n + 1, i => do
    let word ← readWord.within Transfer.busPart
    Act.modify fun (bus, p) => (bus, { p with data := p.data.setIfInBounds i word })
    readArgs n (i + 1)

/-- Discards one word, if there is one; gives something if there is none. -/
def discardWord : Act ε σ (Option Unit) := do
  if ← canRead then
    let word ← takeWord
    Act.log (.surplusWord word)
    return none
  else
    return some ()

/-- Discards the words that follow a packet. More than the limit of them is an error. -/
def discardSurplus : Act ε σ Unit := do
  match ← Act.firstSome Transfer.surplusLimit 0 fun _ => discardWord with
  | some () => return ()
  | none =>
    if ← canRead then
      Act.log (.surplusUnending Transfer.surplusLimit)
      Act.fail .timeout

/-- Receives what follows the header of a packet. -/
def receiveDeclared (opcode argLen : UInt16) : Act ε (σ × Packet) Nat := do
  match argCount argLen with
  | .error e =>
    Act.log (.packetTooLong opcode argLen)
    Act.fail e
  | .ok len =>
    Act.modify fun (bus, p) => (bus, { p with argLen })
    readArgs len 0
    discardSurplus.within Transfer.busPart
    Act.log (.packetReceived opcode len)
    return len

/-- Receives a packet into the packet beside the bus and gives the number of its arguments. What
was received before a failure stays in the packet. -/
def receive : Act ε (σ × Packet) Nat := do
  let version ← takeWord.within Transfer.busPart
  Act.modify fun (bus, p) => (bus, { p with version })
  let header ← readWord.within Transfer.busPart
  let (opcode, argLen) := unpackHeader header
  Act.modify fun (bus, p) => (bus, { p with opcode })
  receiveDeclared opcode argLen

/-- Receives a packet into a fresh buffer. -/
def receiveFresh : Act ε σ Packet := do
  return (← Act.withLocal Packet.empty receive).2

/-! ## Requests -/

/-- Receives the answer to `asked`, or any answer. -/
def receiveAnswer (asked : Option UInt16) : Act ε σ Packet := do
  let response ← receiveFresh
  Client.acceptAnswer response asked
  return response

/-- Polls until an answer is waiting, `max 1 limit` times at most, and gives the number of polls
that found none. -/
def awaitAnswer (limit : Nat) : Act ε σ (Option Nat) :=
  Act.firstSome (max 1 limit) 0 fun i => do
    if ← canRead then
      return some i
    else
      if i + 1 < limit then delay
      return none

/-- Sends a request and waits for the answer to it. -/
def request (limits : ClientLimits) (request : Packet) : Act ε σ Packet := do
  Act.log (.requestStarted request.opcode)
  let _ ← send request
  match ← awaitAnswer limits.pollLimit.toNat with
  | none =>
    Act.log (.requestUnanswered (max 1 limits.pollLimit.toNat))
    Act.fail .timeout
  | some polls =>
    let response ← receiveAnswer (some request.opcode)
    Act.log (.requestCompleted polls)
    return response

/-- Waits for the other side to complete an abort. -/
def awaitAborted (limit : Nat) : Act ε σ (Option Unit) :=
  Act.firstSome limit 0 fun _ => do
    if ← abortOutstanding then
      delay
      return none
    else
      return some ()

/-- Raises an abort and waits for the other side to complete it. -/
def abort (limits : ClientLimits) : Act ε σ Unit := do
  requestAbort
  match ← awaitAborted limits.abortLimit.toNat with
  | some () => Act.log .abortCompleted
  | none =>
    Act.log (.abortUnending limits.abortLimit.toNat)
    Act.fail .abortFailed

end Coprocessor.Async
