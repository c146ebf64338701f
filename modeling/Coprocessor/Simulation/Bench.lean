import Coprocessor.Client
import Coprocessor.Firmware
import Coprocessor.Mailbox.Endpoint
import Coprocessor.Simulation.TappedBus
import Coprocessor.Simulation.TappedDevice
import Coprocessor.Storage.PagedRam

/-!
The whole firmware in simulation, with a peer at the other end of its mailbox. Words move between
the two only when they are delivered.
-/
namespace Coprocessor

/-- The firmware over simulated parts. -/
abbrev SimulatedFirmware : Type :=
  Firmware (TappedBus Endpoint) Lines (TappedDevice PagedRam)

/-- The firmware, its vectors and its peer. -/
structure Bench where
  firmware : SimulatedFirmware
  table : VectorTable Trap SimulatedFirmware
  peer : Endpoint

namespace Bench

def firmwarePart : Bench → SimulatedFirmware × (SimulatedFirmware → Bench)
  | ⟨firmware, table, peer⟩ => (firmware, fun firmware => ⟨firmware, table, peer⟩)

def peerPart : Bench → Endpoint × (Endpoint → Bench)
  | ⟨firmware, table, peer⟩ => (peer, fun peer => ⟨firmware, table, peer⟩)

/-- Moves what the peer has written to the firmware. -/
def deliver (b : Bench) : Bench :=
  match b with
  | ⟨firmware, table, peer⟩ =>
    match Firmware.mailboxPart firmware with
    | (mailbox, back) =>
      match peer.deliver mailbox.bus with
      | (peer, bus) => ⟨back { mailbox with bus }, table, peer⟩

/-- Moves what the firmware has written to the peer. -/
def giveBack (b : Bench) : Bench :=
  match b with
  | ⟨firmware, table, peer⟩ =>
    match Firmware.mailboxPart firmware with
    | (mailbox, back) =>
      match mailbox.bus.deliver peer with
      | (bus, peer) => ⟨back { mailbox with bus }, table, peer⟩

/-- Runs the handler of the most urgent ready source. -/
def serviceMostUrgent : Act Trap Bench (Option Source) := do
  let table ← Act.gets Bench.table
  table.serviceMostUrgent.within firmwarePart

/-- Services ready sources, up to a limit. -/
def serviceUpTo (limit : Nat) : Act Trap Bench (Except Error Nat) := do
  let table ← Act.gets Bench.table
  (table.serviceUpTo limit).within firmwarePart

/-- An operation of the peer, which reports errors. -/
def asPeer {α : Type} (x : Act Error Endpoint α) : Act Trap Bench (Except Error α) :=
  (x.within peerPart).attempt

/-- What became of one exchange. Nothing is received where the peer is not ready. -/
structure Exchange where
  sent : Except Error Nat
  serviced : Except Error Nat
  received : Option (Except Error Packet)

/-- One exchange: the peer sends a packet, it is delivered and its interrupt raised, the firmware
runs until it is idle, and the peer receives what comes back. Each part is done whatever became
of those before. -/
def exchange (request : Packet) : Act Trap Bench Exchange := do
  let sent ← asPeer (Client.send request)
  Act.modify deliver
  (InterruptController.trigger .mailboxAvailable).sure.within fun b =>
    match firmwarePart b with
    | (firmware, back) =>
      match Firmware.controllerPart firmware with
      | (controller, backFirmware) => (controller, fun c => back (backFirmware c))
  let serviced ← serviceUpTo 8
  Act.modify giveBack
  match ← asPeer Client.answerReady with
  | .ok true => return ⟨sent, serviced, some (← asPeer Client.receive)⟩
  | _ => return ⟨sent, serviced, none⟩

end Bench

end Coprocessor
