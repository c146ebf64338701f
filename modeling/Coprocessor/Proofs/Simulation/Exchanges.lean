import Coprocessor.Kernel.CosineTransform
import Coprocessor.Proofs.Command.Responses
import Coprocessor.Proofs.Firmware.Cycle
import Coprocessor.Proofs.Host.Acceptance
import Coprocessor.Proofs.Mailbox.Reception
import Coprocessor.Simulation.Bench

/-!
Exchanges between a peer and the firmware, one after the other. Between two of them the bench is
`Quiet`: no word is under way and no interrupt pending. Each exchange starts there and ends there,
whether its request is answered, ignored or too long to be sent.
-/
namespace Coprocessor

open Act

/-! ## Responses on the wire -/

namespace Commands

/-- A response crosses the wire without a change: its buffer is zero after the arguments. -/
theorem Answer.arrived {response : Packet} (h : Answer response) :
    Transfer.arrived response = response := by
  obtain ⟨r, args, -, fits, rfl⟩ := h
  rw [Transfer.arrived, args_respond fits]
  rfl

theorem Answer.accepted {response : Packet} (h : Answer response) (e : Endpoint) :
    (Client.acceptAnswer response none : Act Error Endpoint Unit).run e = (.ok (), e) := by
  obtain ⟨r, args, known, -, rfl⟩ := h
  have code : (respond r args).toResponse = .ok r := Response.ofCode_code r
  rw [Client.acceptAnswer_of_none code known rfl]
  rfl

end Commands

namespace Bench

/-! ## The invariant -/

/-- No word is waiting anywhere. -/
structure QueuesEmpty (b : Bench) : Prop where
  toFirmware : b.firmware.mailbox.bus.inbound = []
  fromFirmware : b.firmware.mailbox.bus.outbound = []
  toPeer : b.peer.inbound = []
  fromPeer : b.peer.outbound = []

/-- The bench between two exchanges. -/
structure Quiet (b : Bench) : Prop where
  table : ∃ priority, Firmware.vectorTable priority = .ok b.table
  untapped : b.firmware.mailbox = .clear b.firmware.mailbox.bus
  queuesEmpty : b.QueuesEmpty
  firmwareRoom : Endpoint.defaultDepth ≤ b.firmware.mailbox.bus.depth
  peerRoom : Endpoint.defaultDepth ≤ b.peer.depth
  enabled : ∀ s, (b.firmware.controller.line s).enabled = true
  nothingPending : ∀ s, (b.firmware.controller.line s).pending = false
  addressable : b.firmware.commands.Addressable

/-- The bench once the firmware was serviced and its words were delivered, if the cycle left the
endpoint `bus` and the commands `commands`. -/
structure Served (b : Bench) (peer bus : Endpoint) (commands : Commands (TappedDevice PagedRam))
    (outcome : CycleOutcome) (b' : Bench) : Prop where
  table : b'.table = b.table
  peer : b'.peer = (bus.deliver { peer with outbound := [] }).2
  mailbox : b'.firmware.mailbox = .clear { bus with outbound := [] }
  commands : b'.firmware.commands = commands
  outcome : b'.firmware.lastOutcome = some outcome
  enabled : ∀ s, (b'.firmware.controller.line s).enabled = true
  nothingPending : ∀ s, (b'.firmware.controller.line s).pending = false

/-- Once the peer has taken what came back, the bench is quiet again. -/
theorem Served.quiet {b b' : Bench} {peer bus : Endpoint} {outcome : CycleOutcome}
    {commands : Commands (TappedDevice PagedRam)} (h : Served b peer bus commands outcome b')
    (start : b.Quiet) (taken : bus.inbound = [])
    (depth : bus.depth = b.firmware.mailbox.bus.depth) (depth' : peer.depth = b.peer.depth)
    (addressable : commands.Addressable) : Quiet { b' with peer.inbound := [] } where
  table := h.table ▸ start.table
  untapped := by
    show b'.firmware.mailbox = _
    rw [h.mailbox]
    rfl
  queuesEmpty := by
    refine ⟨?_, ?_, rfl, ?_⟩
    · show b'.firmware.mailbox.bus.inbound = []
      rw [h.mailbox]
      exact taken
    · show b'.firmware.mailbox.bus.outbound = []
      rw [h.mailbox]
      rfl
    · show b'.peer.outbound = []
      rw [h.peer]
      rfl
  firmwareRoom := by
    show _ ≤ b'.firmware.mailbox.bus.depth
    rw [h.mailbox]
    exact depth ▸ start.firmwareRoom
  peerRoom := by
    show _ ≤ b'.peer.depth
    rw [h.peer]
    exact depth' ▸ start.peerRoom
  enabled := h.enabled
  nothingPending := h.nothingPending
  addressable := h.commands ▸ addressable

theorem Served.peer_inbound {b b' : Bench} {peer bus : Endpoint} {outcome : CycleOutcome}
    {commands : Commands (TappedDevice PagedRam)} (h : Served b peer bus commands outcome b')
    (nothing : peer.inbound = []) : b'.peer.inbound = bus.outbound := by
  rw [h.peer, Endpoint.inbound_deliver, nothing, List.nil_append]

/-! ## Servicing a request -/

/-- What the peer does once the firmware is idle. -/
def collect (sent serviced : Except Error Nat) : Act Trap Bench Exchange := do
  match ← asPeer Client.answerReady with
  | .ok true => return ⟨sent, serviced, some (← asPeer Client.receive)⟩
  | _ => return ⟨sent, serviced, none⟩

/-- The bench with the peer's words delivered and its interrupt raised. -/
def raised (b : Bench) : Bench :=
  { b.deliver with
    firmware := { b.deliver.firmware with
      controller := b.deliver.firmware.controller.mapLine (fun l => { l with pending := true })
        .mailboxAvailable } }

theorem run_asPeer {α : Type} {x : Act Error Endpoint α} {b : Bench} {r : Except Error α}
    {peer : Endpoint} (h : x.run b.peer = (r, peer)) :
    (asPeer x).run b = (.ok r, { b with peer }) := by
  rw [asPeer, run_attempt, run_within_eq h]
  rfl

theorem run_answerReady (b : Bench) :
    (asPeer (Client.answerReady : Act Error Endpoint Bool)).run b =
      (.ok (.ok !b.peer.inbound.isEmpty), b) :=
  run_asPeer (Mailbox.run_canRead Carries.id b.peer)

theorem run_exchange {b : Bench} {request : Packet} {sent : Except Error Nat} {peer : Endpoint}
    (sends : (Client.send request : Act Error Endpoint Nat).run b.peer = (sent, peer))
    {serviced : Except Error Nat} {b' : Bench}
    (services : (serviceUpTo 8).run (raised { b with peer }) = (.ok serviced, b')) :
    (exchange request).run b = (collect sent serviced).run b'.giveBack := by
  rw [exchange, run_bind_ok (run_asPeer sends), run_modify_bind]
  refine (run_bind_ok (?_ : _ = (Except.ok (), raised { b with peer })) _).trans ?_
  · rfl
  · rw [run_bind_ok services, run_modify_bind]
    rfl

theorem run_collect_nothing {b : Bench} (empty : b.peer.inbound = [])
    (sent serviced : Except Error Nat) :
    (collect sent serviced).run b = (.ok ⟨sent, serviced, none⟩, b) := by
  rw [collect, run_bind_ok (run_answerReady b), empty]
  rfl

theorem run_collect_answer {b : Bench} {response : Packet} (answer : Commands.Answer response)
    (waiting : b.peer.inbound = response.wire) (sent serviced : Except Error Nat) :
    (collect sent serviced).run b =
      (.ok ⟨sent, serviced, some (.ok response)⟩, { b with peer.inbound := [] }) := by
  have fresh := Transfer.run_receiveFresh_wire Carries.id answer.fits waiting
  rw [answer.arrived] at fresh
  have accepted : (Client.receive : Act Error Endpoint Packet).run b.peer =
      (.ok response, { b.peer with inbound := [] }) := by
    rw [Client.receive, Client.receiveAnswer, run_bind_ok fresh, run_bind_ok (answer.accepted _)]
    rfl
  rw [collect, run_bind_ok (run_answerReady b), waiting]
  change (asPeer Client.receive >>= fun received => _).run b = _
  rw [run_bind_ok (run_asPeer accepted)]
  rfl

/-- The firmware has nothing to receive but what the peer wrote. -/
theorem Quiet.mailbox_raised {b : Bench} (start : b.Quiet) (peer : Endpoint) :
    (raised { b with peer }).firmware.mailbox =
      .clear { b.firmware.mailbox.bus with inbound := peer.outbound } := by
  show { b.firmware.mailbox with bus := b.firmware.mailbox.bus.push peer.outbound } = _
  rw [Endpoint.push, start.queuesEmpty.toFirmware, List.nil_append, start.untapped]
  rfl

/-- A request that was raised is the first to be serviced. -/
theorem Quiet.find?_ready {b : Bench} (start : b.Quiet) (peer : Endpoint) :
    ∃ priority, b.table.vectors.find?
        (fun v => (VectorTable.linesOf (raised { b with peer }).firmware).ready v.source) =
      some ⟨.mailboxAvailable, priority, Firmware.runCycle⟩ := by
  obtain ⟨priority, table⟩ := start.table
  have vectors := Except.ok.inj (table.symm.trans (Firmware.vectorTable_eq priority))
  have ready : (raised { b with peer }).firmware.controller.ready .mailboxAvailable = true := by
    show ((b.firmware.controller.line .mailboxAvailable).enabled && true) = true
    rw [start.enabled]
    rfl
  refine ⟨priority, ?_⟩
  rw [vectors, List.find?_cons]
  show (match (raised { b with peer }).firmware.controller.ready .mailboxAvailable with
    | true => _
    | false => _) = _
  rw [ready]
  rfl

def cycled (b : Bench) (parts : TappedBus Endpoint × Commands (TappedDevice PagedRam))
    (outcome : CycleOutcome) : SimulatedFirmware :=
  (VectorTable.entered b.raised.firmware .mailboxAvailable).finished parts outcome

/-- A cycle takes the interrupt of its request back, and nothing else is pending. -/
theorem Quiet.lines_cycled {b : Bench} (start : b.Quiet) (peer : Endpoint)
    (parts : TappedBus Endpoint × Commands (TappedDevice PagedRam)) (outcome : CycleOutcome)
    (s : Source) :
    ((cycled { b with peer } parts outcome).controller.line s).enabled = true ∧
      ((cycled { b with peer } parts outcome).controller.line s).pending = false := by
  cases s with
  | mailboxAvailable => exact ⟨start.enabled .mailboxAvailable, rfl⟩
  | mailboxAbort => exact ⟨start.enabled .mailboxAbort, start.nothingPending .mailboxAbort⟩

/-- What is pending is the request, and its cycle is all that is run. -/
theorem run_serviceUpTo {b : Bench} (start : b.Quiet) (peer bus : Endpoint)
    (commands : Commands (TappedDevice PagedRam)) (outcome : CycleOutcome)
    (cycle : ∀ f : SimulatedFirmware,
      f.mailbox = .clear { b.firmware.mailbox.bus with inbound := peer.outbound } →
      f.commands = b.firmware.commands →
      Firmware.runCycle.run f = (.ok (), f.finished (.clear bus, commands) outcome)) :
    ∃ b', (serviceUpTo 8).run (raised { b with peer }) = (.ok (.ok 1), b') ∧
      Served b peer bus commands outcome b'.giveBack := by
  have lines := start.lines_cycled peer (.clear bus, commands) outcome
  have ran := cycle (VectorTable.entered (raised { b with peer }).firmware .mailboxAvailable)
    (start.mailbox_raised peer) rfl
  obtain ⟨priority, first⟩ := start.find?_ready peer
  -- one round services the request, and the next finds nothing
  have serviced : b.table.serviceMostUrgent.run (raised { b with peer }).firmware =
      (.ok (some .mailboxAvailable), cycled { b with peer } (.clear bus, commands) outcome) :=
    VectorTable.run_serviceMostUrgent (fun _ => rfl) first ran
  have quiet : b.table.serviceMostUrgent.run (cycled { b with peer } (.clear bus, commands) outcome) =
      (.ok none, cycled { b with peer } (.clear bus, commands) outcome) := by
    refine VectorTable.run_serviceMostUrgent_none (fun _ => rfl) fun v _ => ?_
    exact Bool.and_eq_false_imp.mpr fun _ => (lines v.source).2
  have once := VectorTable.run_serviceUpTo_once serviced quiet 6
  refine ⟨⟨cycled { b with peer } (.clear bus, commands) outcome, b.table,
    { peer with outbound := [] }⟩, ?_, rfl, rfl, rfl, rfl, rfl, fun s => (lines s).1,
    fun s => (lines s).2⟩
  rw [serviceUpTo, run_gets_bind]
  exact run_within_eq once

/-! ## One exchange -/

/-- What an exchange of `request` comes to, on commands `c` that it leaves as `c'`. -/
structure Settled (request : Packet) (c c' : Commands (TappedDevice PagedRam))
    (outcome : Option CycleOutcome) (x : Exchange) : Prop where
  /-- A request with a command is answered with what its handler makes of the arguments. -/
  answered : request.argLen.toNat ≤ maxArgs → 1 ≤ request.opcode.toNat →
    request.opcode.toNat ≤ 4 → ∃ op handler rebuilt response,
      request.toRequest = .ok op ∧ Commands.handler? op = some handler ∧
      Packet.ofArgs request.opcode request.args = .ok rebuilt ∧
      (handler rebuilt).run c = (.ok response, c') ∧
      x = ⟨.ok request.argLen.toNat, .ok 1, some (.ok response)⟩
  /-- Any other request is ignored. -/
  ignored : request.argLen.toNat ≤ maxArgs →
    ¬ (1 ≤ request.opcode.toNat ∧ request.opcode.toNat ≤ 4) →
      x = ⟨.ok request.argLen.toNat, .ok 1, none⟩ ∧ c' = c ∧
      outcome = some (.ignored request.opcode)
  /-- A packet that is too long is not sent, and the firmware finds nothing to receive. -/
  refused : maxArgs < request.argLen.toNat →
    x = ⟨.error .invalidLength, .ok 1, none⟩ ∧ c' = c ∧
    outcome = some (.requestFailed .channelNotReady)

section OneExchange

variable {b : Bench} (start : b.Quiet) {request : Packet}
include start

/-- The peer sends a request that fits. -/
theorem run_send (fits : request.argLen.toNat ≤ maxArgs) :
    (Client.send request : Act Error Endpoint Nat).run b.peer =
      (.ok request.argLen.toNat, (b.peer.written request.wire).signalled) :=
  Transfer.run_send_empty Carries.id fits start.queuesEmpty.fromPeer start.peerRoom

/-- The firmware receives what was sent. -/
theorem run_receiveFresh (fits : request.argLen.toNat ≤ maxArgs) {f : SimulatedFirmware}
    (delivered : f.mailbox = .clear { b.firmware.mailbox.bus with
      inbound := (b.peer.written request.wire).signalled.outbound }) :
    (Transfer.receiveFresh : Act Error (TappedBus Endpoint) Packet).run f.mailbox =
      (.ok (Transfer.arrived request), .clear b.firmware.mailbox.bus) := by
  have outbound : (b.peer.written request.wire).signalled.outbound = request.wire := by
    show b.peer.outbound ++ request.wire = request.wire
    rw [start.queuesEmpty.fromPeer, List.nil_append]
  rw [delivered, outbound, Transfer.run_receiveFresh_wire Carries.clear fits rfl,
    ← start.queuesEmpty.toFirmware]

/-- An exchange whose cycle sends nothing leaves the commands as they are. -/
theorem exchange_unanswered (peer bus : Endpoint) {sent : Except Error Nat} {outcome : CycleOutcome}
    (sends : (Client.send request : Act Error Endpoint Nat).run b.peer = (sent, peer))
    (cycle : ∀ f : SimulatedFirmware,
      f.mailbox = .clear { b.firmware.mailbox.bus with inbound := peer.outbound } →
      f.commands = b.firmware.commands →
      Firmware.runCycle.run f = (.ok (), f.finished (.clear bus, b.firmware.commands) outcome))
    (taken : bus.inbound = []) (unanswered : bus.outbound = []) (nothing : peer.inbound = [])
    (depth : bus.depth = b.firmware.mailbox.bus.depth) (depth' : peer.depth = b.peer.depth) :
    ∃ b', (exchange request).run b = (.ok ⟨sent, .ok 1, none⟩, b') ∧ b'.Quiet ∧
      b'.firmware.commands = b.firmware.commands ∧ b'.firmware.lastOutcome = some outcome := by
  obtain ⟨b₁, services, served⟩ := run_serviceUpTo start peer bus _ _ cycle
  have empty : b₁.giveBack.peer.inbound = [] := (served.peer_inbound nothing).trans unanswered
  refine ⟨b₁.giveBack, ?_, ?_, served.commands, served.outcome⟩
  · rw [run_exchange sends services, run_collect_nothing empty]
  · have quiet := served.quiet start taken depth depth' start.addressable
    rwa [← empty] at quiet

theorem exchange_ignored (fits : request.argLen.toNat ≤ maxArgs)
    (other : ¬ (1 ≤ request.opcode.toNat ∧ request.opcode.toNat ≤ 4)) :
    ∃ b', (exchange request).run b = (.ok ⟨.ok request.argLen.toNat, .ok 1, none⟩, b') ∧
      b'.Quiet ∧ b'.firmware.commands = b.firmware.commands ∧
      b'.firmware.lastOutcome = some (.ignored request.opcode) := by
  refine exchange_unanswered start _ _ (run_send start fits) (fun f delivered same => ?_)
    start.queuesEmpty.toFirmware start.queuesEmpty.fromFirmware start.queuesEmpty.toPeer rfl rfl
  have ignored := Firmware.run_answer_ignored (Transfer.arrived request)
    (TappedBus.clear b.firmware.mailbox.bus, b.firmware.commands) fun op known => by
      rw [Transfer.toRequest_arrived] at known
      exact Commands.no_handler other known
  rw [Transfer.opcode_arrived] at ignored
  rw [Firmware.run_runCycle, run_receiveFresh start fits delivered, same]
  dsimp only
  rw [ignored]

theorem exchange_refused (long : ¬ request.argLen.toNat ≤ maxArgs) :
    ∃ b', (exchange request).run b = (.ok ⟨.error .invalidLength, .ok 1, none⟩, b') ∧
      b'.Quiet ∧ b'.firmware.commands = b.firmware.commands ∧
      b'.firmware.lastOutcome = some (.requestFailed .channelNotReady) := by
  refine exchange_unanswered start b.peer { b.firmware.mailbox.bus with rxError := true }
    (Transfer.run_send_tooLong long b.peer) (fun f delivered same => ?_)
    start.queuesEmpty.toFirmware start.queuesEmpty.fromFirmware start.queuesEmpty.toPeer rfl rfl
  -- the peer has written nothing, so the cycle meets an empty queue
  have nothing : { b.firmware.mailbox.bus with inbound := b.peer.outbound } =
      b.firmware.mailbox.bus := by
    rw [start.queuesEmpty.fromPeer, ← start.queuesEmpty.toFirmware]
  rw [nothing] at delivered
  rw [Firmware.run_runCycle, delivered,
    Transfer.run_receiveFresh_empty Carries.clear start.queuesEmpty.toFirmware, ← same]

/-- The handler of a request answers what arrives as it answers a packet made of the opcode and the
arguments. -/
theorem exists_answer (low : 1 ≤ request.opcode.toNat) (high : request.opcode.toNat ≤ 4) :
    ∃ op handler rebuilt response commands, request.toRequest = .ok op ∧
      Commands.handler? op = some handler ∧
      Packet.ofArgs request.opcode request.args = .ok rebuilt ∧
      (handler rebuilt).run b.firmware.commands = (.ok response, commands) ∧
      (handler (Transfer.arrived request)).run b.firmware.commands = (.ok response, commands) ∧
      Commands.Answer response ∧ commands.Addressable := by
  obtain ⟨op, handler, known, found⟩ :=
    Commands.exists_handler (δ := TappedDevice PagedRam) low high
  obtain ⟨rebuilt, made⟩ : ∃ rebuilt, Packet.ofArgs request.opcode request.args = .ok rebuilt :=
    ⟨_, if_pos request.length_args_le⟩
  obtain ⟨response, commands, handled, answer, addressable⟩ :=
    (Commands.answers_handler found rebuilt).exists_ok start.addressable
  -- of a packet a handler reads the arguments alone
  have same : (handler (Transfer.arrived request)).run = (handler rebuilt).run :=
    Commands.run_handler_congr found
      ((Transfer.args_arrived request).trans (Packet.args_ofArgs made).symm)
  exact ⟨op, handler, rebuilt, response, commands, known, found, made, handled,
    (congrFun same _).trans handled, answer, addressable⟩

theorem exchange_answered (fits : request.argLen.toNat ≤ maxArgs)
    (low : 1 ≤ request.opcode.toNat) (high : request.opcode.toNat ≤ 4) :
    ∃ op handler rebuilt response b', request.toRequest = .ok op ∧
      Commands.handler? op = some handler ∧
      Packet.ofArgs request.opcode request.args = .ok rebuilt ∧
      (handler rebuilt).run b.firmware.commands = (.ok response, b'.firmware.commands) ∧
      (exchange request).run b =
        (.ok ⟨.ok request.argLen.toNat, .ok 1, some (.ok response)⟩, b') ∧ b'.Quiet := by
  obtain ⟨op, handler, rebuilt, response, commands, known, found, made, handled, arrived, answer,
    addressable⟩ := exists_answer start low high
  have sent := Transfer.run_send_empty Carries.clear answer.fits start.queuesEmpty.fromFirmware
    start.firmwareRoom
  obtain ⟨b₁, services, served⟩ := run_serviceUpTo start (b.peer.written request.wire).signalled
    (b.firmware.mailbox.bus.written response.wire).signalled commands
    (.responded response.opcode response.argLen.toNat) fun f delivered unchanged => by
      have responded := Firmware.run_answer_responded
        ((Transfer.toRequest_arrived request).trans known) found arrived sent
      rw [Firmware.run_runCycle, run_receiveFresh start fits delivered, unchanged]
      dsimp only
      rw [responded]
  have waiting : b₁.giveBack.peer.inbound = response.wire := by
    rw [served.peer_inbound start.queuesEmpty.toPeer]
    show b.firmware.mailbox.bus.outbound ++ response.wire = response.wire
    rw [start.queuesEmpty.fromFirmware, List.nil_append]
  refine ⟨op, handler, rebuilt, response, { b₁.giveBack with peer.inbound := [] }, known, found,
    made, ?_, ?_, ?_⟩
  · rw [handled]
    exact congrArg _ served.commands.symm
  · rw [run_exchange (run_send start fits) services, run_collect_answer answer waiting]
  · exact served.quiet start start.queuesEmpty.toFirmware rfl rfl addressable

end OneExchange

theorem Quiet.exchange {b : Bench} (start : b.Quiet) (request : Packet) :
    ∃ x b', (exchange request).run b = (.ok x, b') ∧ b'.Quiet ∧
      Settled request b.firmware.commands b'.firmware.commands b'.firmware.lastOutcome x := by
  by_cases fits : request.argLen.toNat ≤ maxArgs
  · by_cases handled : 1 ≤ request.opcode.toNat ∧ request.opcode.toNat ≤ 4
    · obtain ⟨op, handler, rebuilt, response, b', known, found, made, run, ran, quiet⟩ :=
        exchange_answered start fits handled.1 handled.2
      refine ⟨_, b', ran, quiet, fun _ _ _ => ?_, fun _ other => absurd handled other,
        fun long => absurd fits (Nat.not_le.mpr long)⟩
      exact ⟨op, handler, rebuilt, response, known, found, made, run, rfl⟩
    · obtain ⟨b', ran, quiet, same, outcome⟩ := exchange_ignored start fits handled
      exact ⟨_, b', ran, quiet, fun _ low high => absurd ⟨low, high⟩ handled,
        fun _ _ => ⟨rfl, same, outcome⟩, fun long => absurd fits (Nat.not_le.mpr long)⟩
  · obtain ⟨b', ran, quiet, same, outcome⟩ := exchange_refused start fits
    exact ⟨_, b', ran, quiet, fun short => absurd short fits, fun short => absurd short fits,
      fun _ => ⟨rfl, same, outcome⟩⟩

/-! ## Any number of exchanges -/

/-- One exchange after the other. -/
def exchanges : List Packet → Act Trap Bench (List Exchange)
  | [] => pure []
  | request :: rest => do
    let first ← exchange request
    return first :: (← exchanges rest)

theorem Quiet.exchanges {b : Bench} (start : b.Quiet) (requests : List Packet) :
    ∃ xs b', (exchanges requests).run b = (.ok xs, b') ∧ b'.Quiet := by
  induction requests generalizing b with
  | nil => exact ⟨[], b, rfl, start⟩
  | cons request rest ih =>
    obtain ⟨x, b₁, first, quiet, -⟩ := start.exchange request
    obtain ⟨xs, b₂, later, quiet'⟩ := ih quiet
    refine ⟨x :: xs, b₂, ?_, quiet'⟩
    rw [Bench.exchanges, run_bind_ok first, run_bind_ok later, run_pure]

/-- A bench whose firmware was set up and has had no request yet. -/
structure AtStart (b : Bench) : Prop where
  initialised : ∃ priority fresh, Firmware.vectorTable priority = .ok b.table ∧
    (Firmware.init b.table).run fresh = (.ok (), b.firmware)
  untapped : b.firmware.mailbox = .clear b.firmware.mailbox.bus
  queuesEmpty : b.QueuesEmpty
  firmwareRoom : Endpoint.defaultDepth ≤ b.firmware.mailbox.bus.depth
  peerRoom : Endpoint.defaultDepth ≤ b.peer.depth
  nothingPending : ∀ s, (b.firmware.controller.line s).pending = false
  addressable : b.firmware.commands.Addressable

theorem AtStart.quiet {b : Bench} (start : b.AtStart) : b.Quiet where
  table := start.initialised.imp fun _ ⟨_, table, _⟩ => table
  untapped := start.untapped
  queuesEmpty := start.queuesEmpty
  firmwareRoom := start.firmwareRoom
  peerRoom := start.peerRoom
  enabled s := by
    obtain ⟨priority, fresh, table, ready⟩ := start.initialised
    rw [← Except.ok.inj ((Firmware.vectorTable_eq priority).symm.trans table)] at ready
    have controller := congrArg (fun r => r.2.controller) ready
    cases s with
    | mailboxAvailable => exact controller ▸ rfl
    | mailboxAbort => exact controller ▸ rfl
  nothingPending := start.nothingPending
  addressable := start.addressable

/-- Whatever was exchanged before, the next request comes to what it says and leaves no word
behind. -/
theorem exchange_after_exchanges {b : Bench} (start : b.AtStart) (before : List Packet)
    (request : Packet) :
    ∃ xs b₁ x b₂, (exchanges before).run b = (.ok xs, b₁) ∧ (exchange request).run b₁ = (.ok x, b₂) ∧
      b₂.QueuesEmpty ∧
      Settled request b₁.firmware.commands b₂.firmware.commands b₂.firmware.lastOutcome x := by
  obtain ⟨xs, b₁, ran, quiet⟩ := start.quiet.exchanges before
  obtain ⟨x, b₂, next, quiet', settled⟩ := quiet.exchange request
  exact ⟨xs, b₁, x, b₂, ran, next, quiet'.queuesEmpty, settled⟩

/-- Firmware with a page of storage, out of reset. -/
def onePageFirmware : SimulatedFirmware :=
  .new (.clear (.new Endpoint.defaultDepth)) .idle
    { storage := .clear (.new 0x60000000 32 0)
      window := .default
      transform := CosineTransform.transform
      generator := Attractor.generate Attractor.defaultIterations
      arena := ⟨Arena.defaultBase, #[]⟩ }

/-- Its bench, set up. -/
def onePage : Bench :=
  let table : VectorTable Trap SimulatedFirmware :=
    ⟨[⟨.mailboxAvailable, 0, Firmware.service .mailboxAvailable⟩,
      ⟨.mailboxAbort, 0, Firmware.service .mailboxAbort⟩]⟩
  ⟨((Firmware.init table).run onePageFirmware).2, table, .new Endpoint.defaultDepth⟩

theorem onePage_atStart : onePage.AtStart where
  initialised := ⟨0, onePageFirmware, Firmware.vectorTable_eq 0, rfl⟩
  untapped := rfl
  queuesEmpty := ⟨rfl, rfl, rfl, rfl⟩
  firmwareRoom := Nat.le_refl _
  peerRoom := Nat.le_refl _
  nothingPending s := by cases s <;> rfl
  addressable := by
    show (0x60000000 : UInt32).toNat + (Array.replicate 32 0 : Array UInt8).size < 0x100000000
    rw [Array.size_replicate]
    decide

/-- A packet that is too long, one of no known kind, and then a knock. -/
theorem knock_after_refused_and_ignored :
    onePage.AtStart ∧ ∃ xs b₁ x b₂,
      (exchanges [{ Packet.ofRequest .knock with argLen := 200 }, Packet.new 77]).run onePage =
        (.ok xs, b₁) ∧
      (exchange (Packet.ofRequest .knock)).run b₁ = (.ok x, b₂) ∧
      x = ⟨.ok 0, .ok 1, some (.ok (Commands.respond .knock [0]))⟩ := by
  obtain ⟨xs, b₁, x, b₂, before, ran, -, settled⟩ := exchange_after_exchanges onePage_atStart
    [{ Packet.ofRequest .knock with argLen := 200 }, Packet.new 77] (Packet.ofRequest .knock)
  obtain ⟨op, handler, rebuilt, response, known, found, made, handled, rfl⟩ :=
    settled.answered (by decide) (by decide) (by decide)
  cases known
  cases found
  cases made
  cases (Prod.mk.inj handled).1
  exact ⟨onePage_atStart, xs, b₁, _, b₂, before, ran, rfl⟩

end Bench

end Coprocessor
