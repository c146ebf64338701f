import Coprocessor.Mailbox.Basic
import Coprocessor.Packet.Basic

/-!
One end of a mailbox in memory. Each direction is a queue of words, and the status bits are
derived from the queues. Writing to a full queue or reading from an empty one latches an error
bit. A write to the abort register acknowledges an abort in progress and otherwise raises one.
-/
namespace Coprocessor

/-- State of one end of a mailbox. -/
structure Endpoint where
  /-- Words from the peer, the oldest first. -/
  inbound : List UInt32
  /-- Words to the peer, the oldest first. -/
  outbound : List UInt32
  /-- How many outbound words may wait. -/
  depth : Nat
  abortInProgress : Bool
  abortAcknowledged : Bool
  /-- Whether an abort raised here is acknowledged at once by the other side. -/
  autoAcknowledge : Bool
  txError : Bool
  rxError : Bool
  /-- Packets signalled complete. -/
  doneCount : Nat
  /-- Register writes of any kind. -/
  writeCount : Nat
  barrierCount : Nat
  deriving DecidableEq

namespace Endpoint

/-- Room for the largest packet. -/
def defaultDepth : Nat := maxArgs + 2

/-- An idle endpoint. -/
def new (depth : Nat) : Endpoint where
  inbound := []
  outbound := []
  depth
  abortInProgress := false
  abortAcknowledged := false
  autoAcknowledge := true
  txError := false
  rxError := false
  doneCount := 0
  writeCount := 0
  barrierCount := 0

/-- Queues words from the peer. -/
def push (e : Endpoint) (words : List UInt32) : Endpoint :=
  { e with inbound := e.inbound ++ words }

/-- Takes everything written to the peer, which frees the outbound queue. -/
def takeOutbound (e : Endpoint) : List UInt32 × Endpoint :=
  (e.outbound, { e with outbound := [] })

/-- Moves everything that `e` wrote to the inbound queue of `peer`. -/
def deliver (e peer : Endpoint) : Endpoint × Endpoint :=
  ({ e with outbound := [] }, peer.push e.outbound)

/-- The peer raises an abort. -/
def abortByPeer (e : Endpoint) : Endpoint :=
  { e with abortInProgress := true, abortAcknowledged := false }

/-- Whether the outbound queue takes another word. -/
def hasRoom (e : Endpoint) : Bool :=
  e.outbound.length < e.depth

/-- The status bits, derived from the queues and latches. -/
def status (e : Endpoint) : Status where
  bits :=
    (if e.inbound.isEmpty then 0 else Status.rxAvailableBit) |||
    (if e.hasRoom then Status.txAvailableBit else 0) |||
    (if e.abortInProgress then Status.abortInProgressBit else 0) |||
    (if e.abortAcknowledged then Status.abortAcknowledgedBit else 0) |||
    (if e.txError then Status.txErrorBit else 0) |||
    (if e.rxError then Status.rxErrorBit else 0)

/-- Reads a register. Only the data register has an effect: it gives up the oldest word, and an
empty queue gives zero and latches the error. -/
def read (e : Endpoint) : Register → UInt32 × Endpoint
  | .rdata =>
    match e.inbound with
    | word :: rest => (word, { e with inbound := rest })
    | [] => (0, { e with rxError := true })
  | .status => (e.status.bits, e)
  | .wdata | .abort | .done => (0, e)

/-- The effect of a write to the abort register. -/
def writeAbort (e : Endpoint) : Endpoint :=
  if e.abortInProgress then
    { e with abortInProgress := false, abortAcknowledged := true }
  else if e.autoAcknowledge then
    { e with abortAcknowledged := true }
  else
    { e with abortInProgress := true, abortAcknowledged := false }

/-- The effect of a register write, its count apart. -/
def store (e : Endpoint) (value : UInt32) : Register → Endpoint
  | .wdata =>
    if e.hasRoom then { e with outbound := e.outbound ++ [value] } else { e with txError := true }
  | .done => if value &&& 1 != 0 then { e with doneCount := e.doneCount + 1 } else e
  | .abort => if value &&& 1 != 0 then e.writeAbort else e
  | .rdata | .status => e

/-- Writes a register. -/
def write (e : Endpoint) (r : Register) (value : UInt32) : Endpoint :=
  { e with writeCount := e.writeCount + 1 }.store value r

instance : RegisterBus Endpoint Error where
  read r := fun e => match e.read r with
    | (value, e) => ⟨.ok value, e, []⟩
  write r value := Act.modify (·.write r value)
  barrier := Act.modify fun e => { e with barrierCount := e.barrierCount + 1 }
  pause := pure ()

/-! ## The queues -/

theorem read_rdata_of_cons {e : Endpoint} {word : UInt32} {rest : List UInt32}
    (h : e.inbound = word :: rest) : e.read .rdata = (word, { e with inbound := rest }) := by
  simp only [read, h]

theorem read_rdata_of_nil {e : Endpoint} (h : e.inbound = []) :
    e.read .rdata = (0, { e with rxError := true }) := by
  simp only [read, h]

theorem outbound_write_of_hasRoom {e : Endpoint} (h : e.hasRoom = true) (word : UInt32) :
    (e.write .wdata word).outbound = e.outbound ++ [word] := by
  have room : { e with writeCount := e.writeCount + 1 }.hasRoom = true := h
  simp [write, store, room]

/-- A write to a full queue is dropped, and latches the error. -/
theorem write_wdata_of_full {e : Endpoint} (h : e.hasRoom = false) (word : UInt32) :
    e.write .wdata word = { e with writeCount := e.writeCount + 1, txError := true } := by
  have full : { e with writeCount := e.writeCount + 1 }.hasRoom = false := h
  simp [write, store, full]

@[simp] theorem inbound_deliver (e peer : Endpoint) :
    (e.deliver peer).2.inbound = peer.inbound ++ e.outbound :=
  rfl

/-! ## The status bits, read back -/

private theorem bits_and (a b c d e f : Bool) :
    (((if a then 0 else Status.rxAvailableBit) ||| (if b then Status.txAvailableBit else 0) |||
      (if c then Status.abortInProgressBit else 0) |||
      (if d then Status.abortAcknowledgedBit else 0) |||
      (if e then Status.txErrorBit else 0) ||| (if f then Status.rxErrorBit else 0) : UInt32)
        &&& Status.rxAvailableBit != 0) = !a ∧
    (((if a then 0 else Status.rxAvailableBit) ||| (if b then Status.txAvailableBit else 0) |||
      (if c then Status.abortInProgressBit else 0) |||
      (if d then Status.abortAcknowledgedBit else 0) |||
      (if e then Status.txErrorBit else 0) ||| (if f then Status.rxErrorBit else 0) : UInt32)
        &&& Status.txAvailableBit != 0) = b ∧
    (((if a then 0 else Status.rxAvailableBit) ||| (if b then Status.txAvailableBit else 0) |||
      (if c then Status.abortInProgressBit else 0) |||
      (if d then Status.abortAcknowledgedBit else 0) |||
      (if e then Status.txErrorBit else 0) ||| (if f then Status.rxErrorBit else 0) : UInt32)
        &&& Status.abortInProgressBit != 0) = c := by
  revert a b c d e f
  decide

@[simp] theorem rxAvailable_status (e : Endpoint) :
    e.status.rxAvailable = !e.inbound.isEmpty :=
  (bits_and e.inbound.isEmpty e.hasRoom e.abortInProgress e.abortAcknowledged e.txError
    e.rxError).1

@[simp] theorem txAvailable_status (e : Endpoint) : e.status.txAvailable = e.hasRoom :=
  (bits_and e.inbound.isEmpty e.hasRoom e.abortInProgress e.abortAcknowledged e.txError
    e.rxError).2.1

@[simp] theorem abortInProgress_status (e : Endpoint) :
    e.status.abortInProgress = e.abortInProgress :=
  (bits_and e.inbound.isEmpty e.hasRoom e.abortInProgress e.abortAcknowledged e.txError
    e.rxError).2.2

end Endpoint

end Coprocessor
