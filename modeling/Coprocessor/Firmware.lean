import Coprocessor.Command.Commands
import Coprocessor.Interrupt.VectorTable
import Coprocessor.Mailbox.Transfer

/-!
The firmware: mailbox, interrupt controller and commands, and the handlers of the two interrupts.

The mailbox-available handler runs one dispatch cycle,

    receiving → dispatching → responding → closing

which receives a request, runs its command, sends the response and clears the interrupt. A cycle
that cannot go on closes early: nothing is sent for a request that was not received or has no
handler, and a response that could not be sent is not sent again. Whatever the outcome, the
interrupt is cleared once, as the last thing that a cycle does.

The abort handler only acknowledges. It neither looks at the cycle nor stops it.
-/
namespace Coprocessor

/-- How a dispatch cycle ended. -/
inductive CycleOutcome where
  /-- No request could be received. -/
  | requestFailed (e : Error)
  /-- The request has no handler, and nothing was sent. -/
  | ignored (opcode : UInt16)
  | responded (opcode : UInt16) (len : Nat)
  /-- The response could not be sent. -/
  | responseFailed (e : Error)
  deriving DecidableEq

/-- Where a dispatch cycle stands, with what it carries to the next phase. -/
inductive Phase where
  | idle
  | receiving
  | dispatching (request : Packet)
  | responding (response : Packet)
  | closing (outcome : CycleOutcome)
  deriving DecidableEq

/-- Everything that the interrupt handlers need. -/
structure Firmware (μ κ δ : Type) where
  mailbox : μ
  controller : κ
  commands : Commands δ
  phase : Phase
  /-- Dispatch cycles begun. -/
  cycles : UInt32
  lastOutcome : Option CycleOutcome
  /-- Result of the last abort acknowledgement. -/
  lastAbort : Option (Except Error Unit)
  /-- Aborts serviced. -/
  aborts : UInt32

namespace Firmware

variable {μ κ δ : Type}

/-- Firmware at start of day. -/
def new (mailbox : μ) (controller : κ) (commands : Commands δ) : Firmware μ κ δ where
  mailbox
  controller
  commands
  phase := .idle
  cycles := 0
  lastOutcome := none
  lastAbort := none
  aborts := 0

/-! ## Parts -/

def mailboxPart : Firmware μ κ δ → μ × (μ → Firmware μ κ δ)
  | ⟨mailbox, controller, commands, phase, cycles, outcome, abort, aborts⟩ =>
    (mailbox, fun mailbox =>
      ⟨mailbox, controller, commands, phase, cycles, outcome, abort, aborts⟩)

def controllerPart : Firmware μ κ δ → κ × (κ → Firmware μ κ δ)
  | ⟨mailbox, controller, commands, phase, cycles, outcome, abort, aborts⟩ =>
    (controller, fun controller =>
      ⟨mailbox, controller, commands, phase, cycles, outcome, abort, aborts⟩)

def commandsPart : Firmware μ κ δ → Commands δ × (Commands δ → Firmware μ κ δ)
  | ⟨mailbox, controller, commands, phase, cycles, outcome, abort, aborts⟩ =>
    (commands, fun commands =>
      ⟨mailbox, controller, commands, phase, cycles, outcome, abort, aborts⟩)

/-- Mailbox and controller, all that the abort handler touches. -/
def abortPart : Firmware μ κ δ → (μ × κ) × (μ × κ → Firmware μ κ δ)
  | ⟨mailbox, controller, commands, phase, cycles, outcome, abort, aborts⟩ =>
    ((mailbox, controller), fun (mailbox, controller) =>
      ⟨mailbox, controller, commands, phase, cycles, outcome, abort, aborts⟩)

instance : HasController (Firmware μ κ δ) κ := ⟨controllerPart⟩

/-! ## The dispatch cycle -/

def begin : Act Trap (Firmware μ κ δ) Unit :=
  Act.modify fun f => { f with phase := .receiving, cycles := f.cycles + 1 }

/-- Receives a request into a fresh packet. -/
def receiveRequest [RegisterBus μ Error] : Act Trap (Firmware μ κ δ) Phase := do
  match ← (Transfer.receiveFresh.within mailboxPart).attempt with
  | .error e =>
    Act.log (.requestFailed e)
    return .closing (.requestFailed e)
  | .ok request =>
    Act.log (.requestReceived request.opcode request.argLen)
    return .dispatching request

/-- Runs the command of a request. -/
def runCommand [PageDevice δ] (request : Packet) : Act Trap (Firmware μ κ δ) Phase := do
  match request.toRequest with
  | .error _ =>
    Act.log (.requestUnknown request.opcode)
    return .closing (.ignored request.opcode)
  | .ok op =>
    match Commands.handler? op with
    | none =>
      Act.log .requestInvalid
      return .closing (.ignored request.opcode)
    | some handler =>
      return .responding (← (handler request).within commandsPart)

def sendResponse [RegisterBus μ Error] (response : Packet) :
    Act Trap (Firmware μ κ δ) Phase := do
  match ← ((Transfer.send response).within mailboxPart).attempt with
  | .ok len => return .closing (.responded response.opcode len)
  | .error e =>
    Act.log (.responseFailed response.opcode e)
    return .closing (.responseFailed e)

/-- Clears the interrupt, which ends the cycle. -/
def close [InterruptController κ] (outcome : CycleOutcome) : Act Trap (Firmware μ κ δ) Phase := do
  (InterruptController.clearPending .mailboxAvailable).sure.within controllerPart
  Act.modify fun f => { f with lastOutcome := some outcome }
  return .idle

/-- Runs the present phase of a cycle and enters the next one. -/
def advance [RegisterBus μ Error] [InterruptController κ] [PageDevice δ] :
    Act Trap (Firmware μ κ δ) Unit := do
  let next ← match ← Act.gets Firmware.phase with
    | .idle => pure .idle
    | .receiving => receiveRequest
    | .dispatching request => runCommand request
    | .responding response => sendResponse response
    | .closing outcome => close outcome
  Act.modify fun f => { f with phase := next }

/-- Runs `n` phases; an idle cycle stays idle. -/
def advances [RegisterBus μ Error] [InterruptController κ] [PageDevice δ] :
    Nat → Act Trap (Firmware μ κ δ) Unit
  | 0 => pure ()
  | n + 1 => do
    advance
    advances n

/-- Handler of the mailbox-available interrupt: one dispatch cycle, which has four phases at
most. -/
def runCycle [RegisterBus μ Error] [InterruptController κ] [PageDevice δ] :
    Act Trap (Firmware μ κ δ) Unit := do
  begin
  advances 4

/-! ## The abort channel -/

/-- Acknowledges an abort. The interrupt is cleared even if the acknowledgement could not be
written. -/
def acknowledgeAbort {ε : Type} [RegisterBus μ Error] [InterruptController κ] :
    Act ε (μ × κ) (Except Error Unit) := do
  let result ← (Mailbox.acknowledgeAbort.within fun (μ, κ) => (μ, fun μ => (μ, κ))).attempt
  match result with
  | .ok () => Act.log .abortAcknowledged
  | .error e => Act.log (.abortUnacknowledged e)
  (InterruptController.clearPending .mailboxAbort).sure.within fun (μ, κ) => (κ, fun κ => (μ, κ))
  return result

/-- Handler of the abort interrupt. -/
def serviceAbort [RegisterBus μ Error] [InterruptController κ] :
    Act Trap (Firmware μ κ δ) Unit := do
  let result ← acknowledgeAbort.within abortPart
  Act.modify fun f => { f with lastAbort := some result, aborts := f.aborts + 1 }

/-! ## Start of day -/

variable [RegisterBus μ Error] [InterruptController κ] [PageDevice δ]

def service : Source → Act Trap (Firmware μ κ δ) Unit
  | .mailboxAvailable => runCycle
  | .mailboxAbort => serviceAbort

/-- The firmware's vectors. Both interrupts have the same priority. -/
def vectorTable (priority : UInt8) : Except Error (VectorTable Trap (Firmware μ κ δ)) := do
  let table ← VectorTable.empty.register
    ⟨.mailboxAvailable, priority, runCycle⟩
  table.register ⟨.mailboxAbort, priority, serviceAbort⟩

/-- Installs the vectors of a table. -/
def init (table : VectorTable Trap (Firmware μ κ δ)) : Act Trap (Firmware μ κ δ) Unit := do
  table.install.within controllerPart
  Act.log (.firmwareReady table.size)

end Firmware

end Coprocessor
