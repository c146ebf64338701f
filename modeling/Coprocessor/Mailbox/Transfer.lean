import Coprocessor.Mailbox.Basic
import Coprocessor.Packet.Basic

/-!
Packet transfer: one packet across the mailbox, a word at a time.

Sending writes the wire form of the packet and then signals that it is complete. Receiving reads
the version word without asking whether one is waiting, the header and the declared arguments,
and then discards whatever surplus words follow, so that the next packet starts in the right
place. Both stop at the first word for which the mailbox is not ready; nothing is rolled back.
-/
namespace Coprocessor.Transfer

/-- Most surplus words that are discarded after a packet. -/
def surplusLimit : Nat := 4 * maxArgs

variable {σ ε : Type} [RegisterBus σ ε] [Raises ε]

/-! ## Sending -/

/-- Writes words one after the other. -/
def writeWords : List UInt32 → Act ε σ Unit
  | [] => pure ()
  | word :: rest => do
    Mailbox.writeWord word
    writeWords rest

/-- Sends a packet and gives the number of its arguments. A packet that declares more than it can
hold is not begun. -/
def send (p : Packet) : Act ε σ Nat := do
  match argCount p.argLen with
  | .error e => Act.fail e
  | .ok len =>
    writeWords p.wire
    Mailbox.completePacket
    Act.log (.packetSent p.opcode len)
    return len

/-! ## Receiving -/

/-- The bus, beside the packet that is being filled. -/
def busPart {ρ : Type} : σ × ρ → σ × (σ → σ × ρ)
  | (bus, rest) => (bus, fun bus => (bus, rest))

/-- Reads words into the buffer from index `i` on. -/
def readArgs : Nat → Nat → Act ε (σ × Packet) Unit
  | 0, _ => pure ()
  | n + 1, i => do
    let word ← Mailbox.readWord.within busPart
    Act.modify fun (bus, p) => (bus, { p with data := p.data.setIfInBounds i word })
    readArgs n (i + 1)

/-- Discards the words that follow a packet. More than the limit of them is an error. -/
def discardSurplus : Act ε σ Unit := do
  let finished ← Act.firstSome surplusLimit 0 fun _ => do
    if ← Mailbox.canRead then
      let word ← Mailbox.takeWord
      Act.log (.surplusWord word)
      return none
    else
      return some ()
  match finished with
  | some () => return ()
  | none =>
    if ← Mailbox.canRead then
      Act.log (.surplusUnending surplusLimit)
      Act.fail .timeout

/-- Receives a packet into the packet beside the bus and gives the number of its arguments. What
was received before a failure stays in the packet. -/
def receive : Act ε (σ × Packet) Nat := do
  let version ← Mailbox.takeWord.within busPart
  Act.modify fun (bus, p) => (bus, { p with version })
  let header ← Mailbox.readWord.within busPart
  match unpackHeader header with
  | (opcode, argLen) =>
    Act.modify fun (bus, p) => (bus, { p with opcode })
    match argCount argLen with
    | .error e =>
      Act.log (.packetTooLong opcode argLen)
      Act.fail e
    | .ok len =>
      Act.modify fun (bus, p) => (bus, { p with argLen })
      readArgs len 0
      discardSurplus.within busPart
      Act.log (.packetReceived opcode len)
      return len

/-- Receives into `into`, and gives the result beside what is then in the packet. -/
def receiveInto (into : Packet) : Act Trap σ (Except Error Nat × Packet) :=
  Act.withLocal into receive.settle

/-- Receives a packet into a fresh buffer. -/
def receiveFresh : Act ε σ Packet := do
  return (← Act.withLocal Packet.empty receive).2

end Coprocessor.Transfer
