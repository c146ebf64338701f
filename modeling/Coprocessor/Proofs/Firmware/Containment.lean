import Coprocessor.Proofs.Command.Responses
import Coprocessor.Proofs.Firmware.WindowConfinement
import Coprocessor.Proofs.Mailbox.Landed
import Coprocessor.Proofs.Storage.Calls

/-!
How far a dispatch cycle may reach. The mailbox, the interrupt controller and the storage of the
firmware are recorded, and the mailbox and the storage may fail wherever they like. A cycle that
runs no handler has written nothing and called nothing; a cycle that runs one has run it once, and
its response is announced only if all of it was written.
-/
namespace Coprocessor

open Act

namespace Commands

variable {δ : Type} [PageDevice δ]

/-- Commands on storage with an empty record. -/
def withRecord (c : Commands δ) : Commands (RecordedDevice δ) :=
  ⟨.fresh c.storage, c.window, c.transform, c.generator, c.arena⟩

/-- Commands without the record of their storage. -/
def bare (c : Commands (RecordedDevice δ)) : Commands δ :=
  ⟨c.storage.device, c.window, c.transform, c.generator, c.arena⟩

omit [PageDevice δ] in
theorem mirrors_sharedMemoryCompute (request : Packet) :
    Mirrors bare (sharedMemoryCompute request : Act Trap (Commands (RecordedDevice δ)) Packet)
      (sharedMemoryCompute request) := by
  rw [sharedMemoryCompute, sharedMemoryCompute]
  cases request.args with
  | nil => exact (Mirrors.log _).bind fun _ => Mirrors.pure _
  | cons addr rest =>
    refine (Mirrors.log _).bind fun _ => (Mirrors.gets fun _ => rfl).bind fun generator => ?_
    have same : Mirrors id (Arena.withRegion addr 16384 generator.sure : Act Trap Arena _)
        (Arena.withRegion addr 16384 generator.sure) := fun _ => rfl
    refine Mirrors.bind (same.within (fun _ => rfl) fun _ _ => rfl) fun made => ?_
    cases made with
    | error e => exact (Mirrors.log _).bind fun _ => Mirrors.pure _
    | ok done => exact Mirrors.pure _

theorem mirrors_persistentWrite (request : Packet) :
    Mirrors bare (persistentWrite request : Act Trap (Commands (RecordedDevice δ)) Packet)
      (persistentWrite request) := by
  rw [persistentWrite, persistentWrite]
  refine (Mirrors.gets fun _ => rfl).bind fun window => ?_
  refine (Mirrors.ofExcept id _).settle.bind fun parsed => ?_
  cases parsed with
  | error e => exact (Mirrors.log _).bind fun _ => Mirrors.pure _
  | ok write =>
    obtain ⟨addr, data⟩ := write
    have stores := (Storage.mirrors_write (δ := δ) addr data).settle
    refine Mirrors.bind (stores.within (fun _ => rfl) fun _ _ => rfl) fun stored => ?_
    cases stored with
    | ok done => exact Mirrors.pure _
    | error e => exact (Mirrors.log _).bind fun _ => Mirrors.pure _

/-- A handler does to recorded storage what it does to storage. -/
theorem mirrors_handler {op : Request}
    {handler : Packet → Act Trap (Commands (RecordedDevice δ)) Packet}
    (found : handler? op = some handler) :
    ∃ handler' : Packet → Act Trap (Commands δ) Packet, handler? op = some handler' ∧
      ∀ request, Mirrors bare (handler request) (handler' request) := by
  cases op with
  | invalid => cases found
  | knock =>
    cases found
    exact ⟨_, rfl, fun request => Mirrors.pure (knock request)⟩
  | offloadTransform =>
    cases found
    refine ⟨_, rfl, fun request => ?_⟩
    rw [offloadTransform, offloadTransform]
    cases Block8.samplesOfWords request.args with
    | error e => exact (Mirrors.log _).bind fun _ => Mirrors.pure _
    | ok block => exact (Mirrors.gets fun _ => rfl).bind fun transform => Mirrors.pure _
  | sharedMemoryCompute =>
    cases found
    exact ⟨_, rfl, mirrors_sharedMemoryCompute⟩
  | persistentWrite =>
    cases found
    exact ⟨_, rfl, mirrors_persistentWrite⟩

end Commands

/-! ## The controller -/

/-- What can be asked of an interrupt controller. -/
inductive ControllerCall where
  | enable (s : Source)
  | isEnabled (s : Source)
  | setPriority (s : Source) (priority : UInt8)
  | trigger (s : Source)
  | isPending (s : Source)
  | clearPending (s : Source)
  | acknowledge (s : Source)
  deriving DecidableEq

/-- A controller and what was asked of it, the oldest first. -/
structure RecordedController (κ : Type) where
  controller : κ
  calls : List ControllerCall

namespace RecordedController

variable {κ α : Type}

/-- A controller with an empty record. -/
def fresh (controller : κ) : RecordedController κ :=
  ⟨controller, []⟩

def record (call : ControllerCall) (x : Act Empty κ α) : Act Empty (RecordedController κ) α
  | ⟨controller, calls⟩ =>
    match x controller with
    | ⟨result, controller, events⟩ => ⟨result, ⟨controller, calls ++ [call]⟩, events⟩

instance [InterruptController κ] : InterruptController (RecordedController κ) where
  enable s := record (.enable s) (InterruptController.enable s)
  isEnabled s := record (.isEnabled s) (InterruptController.isEnabled s)
  setPriority s priority := record (.setPriority s priority)
    (InterruptController.setPriority s priority)
  trigger s := record (.trigger s) (InterruptController.trigger s)
  isPending s := record (.isPending s) (InterruptController.isPending s)
  clearPending s := record (.clearPending s) (InterruptController.clearPending s)
  acknowledge s := record (.acknowledge s) (InterruptController.acknowledge s)

end RecordedController

/-- Firmware with a record beside each of its parts. -/
abbrev RecordedFirmware (μ κ δ : Type) : Type :=
  Firmware (Recorded μ Error) (RecordedController κ) (RecordedDevice δ)

namespace Firmware

variable {μ κ δ : Type}

/-- Firmware whose every part has an empty record. -/
def withRecords (f : Firmware μ κ δ) : RecordedFirmware μ κ δ where
  mailbox := .fresh f.mailbox
  controller := .fresh f.controller
  commands := f.commands.withRecord
  phase := f.phase
  cycles := f.cycles
  lastOutcome := f.lastOutcome
  lastAbort := f.lastAbort
  aborts := f.aborts

@[simp] theorem mailbox_withRecords (f : Firmware μ κ δ) :
    f.withRecords.mailbox = .fresh f.mailbox :=
  rfl

@[simp] theorem commands_withRecords (f : Firmware μ κ δ) :
    f.withRecords.commands = f.commands.withRecord :=
  rfl

/-- Firmware without the records of its parts. -/
def bare (f : RecordedFirmware μ κ δ) : Firmware μ κ δ where
  mailbox := f.mailbox.bus
  controller := f.controller.controller
  commands := f.commands.bare
  phase := f.phase
  cycles := f.cycles
  lastOutcome := f.lastOutcome
  lastAbort := f.lastAbort
  aborts := f.aborts

variable [RegisterBus μ Error] [PageDevice δ]

/-! ## How a cycle ends -/

/-- Nothing was asked of the mailbox but reads, nothing of the storage, and no command ran. -/
structure Untouched (f : Firmware μ κ δ) (g : RecordedFirmware μ κ δ) : Prop where
  onlyReads : OnlyReads g.mailbox.trace
  commands : g.commands = f.commands.withRecord

/-- The request was received, and its handler ran once and gave the response: the commands, and the
calls of their storage, are those of this one run. -/
structure Handled (f : Firmware μ κ δ) (g : RecordedFirmware μ κ δ)
    (request response : Packet) : Prop where
  received : ∃ m, (Transfer.receiveFresh : Act Error μ Packet).run f.mailbox = (.ok request, m)
  opcode : 1 ≤ request.opcode.toNat ∧ request.opcode.toNat ≤ 4
  ran : ∃ op handler, request.toRequest = .ok op ∧ Commands.handler? op = some handler ∧
    (handler request).run f.commands.withRecord = (.ok response, g.commands)

/-- What a cycle of firmware `f` has done by its end, for each outcome. -/
inductive Ends (f : Firmware μ κ δ) (g : RecordedFirmware μ κ δ) : CycleOutcome → Prop
  | requestFailed {e : Error} {m : μ}
    (failed : (Transfer.receiveFresh : Act Error μ Packet).run f.mailbox = (.error e, m))
    (untouched : Untouched f g) : Ends f g (.requestFailed e)
  | ignored {request : Packet} {m : μ}
    (received : (Transfer.receiveFresh : Act Error μ Packet).run f.mailbox = (.ok request, m))
    (other : ¬ (1 ≤ request.opcode.toNat ∧ request.opcode.toNat ≤ 4))
    (untouched : Untouched f g) : Ends f g (.ignored request.opcode)
  /-- All words of the response landed, and then the signal, once. -/
  | responded {request response : Packet} (handled : Handled f g request response)
    (sent : landed g.mailbox.trace = wordWrites response ++ [(.done, 1)]) :
    Ends f g (.responded response.opcode response.argLen.toNat)
  /-- Some words of the response landed, perhaps all of them, but not the signal. -/
  | responseFailed {request response : Packet} {e : Error}
    (handled : Handled f g request response)
    (unsent : landed g.mailbox.trace <+: wordWrites response) : Ends f g (.responseFailed e)

/-- What a cycle of firmware `f` leaves behind. -/
structure Contained (f : Firmware μ κ δ) (g : RecordedFirmware μ κ δ)
    (outcome : CycleOutcome) : Prop where
  idle : g.phase = .idle
  counted : g.cycles = f.cycles + 1
  noted : g.lastOutcome = some outcome
  /-- One line was cleared, once, and nothing else was asked of the controller. -/
  cleared : g.controller.calls = [.clearPending .mailboxAvailable]
  ends : Ends f g outcome

/-- A cycle is ignored exactly if its request was received and has an opcode without a handler. -/
theorem Ends.ignored_iff {f : Firmware μ κ δ} {g : RecordedFirmware μ κ δ}
    {outcome : CycleOutcome} (h : Ends f g outcome) (code : UInt16) :
    outcome = .ignored code ↔ ∃ request m,
      (Transfer.receiveFresh : Act Error μ Packet).run f.mailbox = (.ok request, m) ∧
        request.opcode = code ∧ ¬ (1 ≤ code.toNat ∧ code.toNat ≤ 4) := by
  constructor
  · rintro rfl
    cases h with
    | ignored received other untouched => exact ⟨_, _, received, rfl, other⟩
  · rintro ⟨request, m, received, rfl, other⟩
    cases h with
    | requestFailed failed untouched => cases failed.symm.trans received
    | ignored received' other' untouched =>
      cases received'.symm.trans received
      rfl
    | responded handled sent =>
      obtain ⟨m', received'⟩ := handled.received
      cases received'.symm.trans received
      exact absurd handled.opcode other
    | responseFailed handled unsent =>
      obtain ⟨m', received'⟩ := handled.received
      cases received'.symm.trans received
      exact absurd handled.opcode other

/-! ## Dispatch cycles -/

variable [InterruptController κ]

/-- What is received from a recorded mailbox is what the mailbox gives. -/
theorem receiveFresh_recorded (mailbox : μ) :
    ∃ r m,
      (Transfer.receiveFresh : Act Error (Recorded μ Error) Packet).run (.fresh mailbox) = (r, m) ∧
        (Transfer.receiveFresh : Act Error μ Packet).run mailbox = (r, m.bus) ∧
        OnlyReads m.trace := by
  obtain ⟨added, same, grown, reads⟩ :=
    Transfer.shows_receiveFresh (ε := Error) (.fresh mailbox : Recorded μ Error)
  rcases received : (Transfer.receiveFresh : Act Error (Recorded μ Error) Packet).run
    (.fresh mailbox) with ⟨r, m⟩
  rw [received] at same grown
  obtain rfl : m.trace = added := grown
  exact ⟨r, m, rfl, same, reads⟩

/-- A response that is sent over a mailbox that was only read. -/
theorem send_after_reads {m : Recorded μ Error} (reads : OnlyReads m.trace) {response : Packet}
    (fits : response.argLen.toNat ≤ maxArgs) :
    ∃ r m', (Transfer.send response : Act Error (Recorded μ Error) Nat).run m = (r, m') ∧
      (Transfer.send response : Act Error μ Nat).run m.bus = (r, m'.bus) ∧
      match r with
      | .ok n => n = response.argLen.toNat ∧
        landed m'.trace = wordWrites response ++ [(.done, 1)]
      | .error _ => landed m'.trace <+: wordWrites response := by
  obtain ⟨added, same, grown, follows⟩ := Transfer.performs_send (ε := Error) fits m
  rcases sent : (Transfer.send response : Act Error (Recorded μ Error) Nat).run m with ⟨r, m'⟩
  rw [sent] at same grown follows
  have writes : landed m'.trace = landed added := by
    rw [show m'.trace = m.trace ++ added from grown, landed_append, reads.landed, List.nil_append]
  refine ⟨r, m', rfl, same, ?_⟩
  rw [writes]
  cases r with
  | ok n => exact ⟨Transfer.count_of_send sent, landed_of_sent follows⟩
  | error e => exact landed_of_unsent follows

section Cycle

variable {f : Firmware μ κ (TappedDevice PagedRam)} {request : Packet} {m : Recorded μ Error}

/-- What a request comes to that was received over `m`, with and without the records. -/
structure Answered (f : Firmware μ κ (TappedDevice PagedRam)) (request : Packet)
    (m : Recorded μ Error) (outcome : CycleOutcome)
    (parts : Recorded μ Error × Commands (RecordedDevice (TappedDevice PagedRam))) : Prop where
  ran : (answer request).run (m, f.commands.withRecord) = (.ok outcome, parts)
  same : (answer request).run (m.bus, f.commands) = (.ok outcome, parts.1.bus, parts.2.bare)
  ends : Ends f (f.withRecords.finished parts outcome) outcome

theorem answered_handled (addressable : f.commands.Addressable)
    (received : (Transfer.receiveFresh : Act Error μ Packet).run f.mailbox = (.ok request, m.bus))
    (reads : OnlyReads m.trace)
    (opcode : 1 ≤ request.opcode.toNat ∧ request.opcode.toNat ≤ 4) :
    ∃ outcome parts, Answered f request m outcome parts := by
  obtain ⟨op, handler, known, found⟩ := Commands.exists_handler
    (δ := RecordedDevice (TappedDevice PagedRam)) opcode.1 opcode.2
  obtain ⟨plain, found', mirrors⟩ := Commands.mirrors_handler found
  -- that the handler answers is known without the record
  obtain ⟨response, c, handled, answers, -⟩ :=
    (Commands.answers_handler found' request).exists_ok addressable
  have same := mirrors request f.commands.withRecord
  rcases ran : (handler request).run f.commands.withRecord with ⟨result, c'⟩
  rw [ran] at same
  obtain ⟨rfl, rfl⟩ := Prod.mk.inj (handled.symm.trans same)
  obtain ⟨r, m', sends, sends', writes⟩ := send_after_reads reads answers.fits
  have once (outcome : CycleOutcome) :
      Handled f (f.withRecords.finished (m', c') outcome) request response :=
    ⟨⟨m.bus, received⟩, opcode, op, handler, known, found, ran⟩
  refine ⟨sendOutcome response r, (m', c'), ?_, ?_, ?_⟩
  · rw [run_answer_handled known found, ran]
    dsimp only
    rw [sends]
  · rw [run_answer_handled known found', handled]
    dsimp only
    rw [sends']
  · cases r with
    | ok n =>
      obtain ⟨rfl, sent⟩ := writes
      exact .responded (once _) sent
    | error e => exact .responseFailed (once _) writes

theorem answered_ignored
    (received : (Transfer.receiveFresh : Act Error μ Packet).run f.mailbox = (.ok request, m.bus))
    (reads : OnlyReads m.trace)
    (other : ¬ (1 ≤ request.opcode.toNat ∧ request.opcode.toNat ≤ 4)) :
    Answered f request m (.ignored request.opcode) (m, f.commands.withRecord) where
  ran := run_answer_ignored request _ fun _ known => Commands.no_handler other known
  same := run_answer_ignored request _ fun _ known => Commands.no_handler other known
  ends := .ignored received other ⟨reads, rfl⟩

/-- A cycle ends, whether or not its request is received. -/
theorem exists_finished (addressable : f.commands.Addressable) :
    ∃ parts outcome,
      runCycle.run f.withRecords = (.ok (), f.withRecords.finished parts outcome) ∧
      runCycle.run f = (.ok (), f.finished (parts.1.bus, parts.2.bare) outcome) ∧
      Ends f (f.withRecords.finished parts outcome) outcome := by
  obtain ⟨r, m, received, received', reads⟩ := receiveFresh_recorded f.mailbox
  rw [run_runCycle, run_runCycle, mailbox_withRecords, commands_withRecords, received, received']
  cases r with
  | error e =>
    exact ⟨(m, f.commands.withRecord), .requestFailed e, rfl, rfl,
      .requestFailed received' ⟨reads, rfl⟩⟩
  | ok request =>
    obtain ⟨outcome, parts, answered⟩ : ∃ outcome parts, Answered f request m outcome parts := by
      by_cases opcode : 1 ≤ request.opcode.toNat ∧ request.opcode.toNat ≤ 4
      · exact answered_handled addressable received' reads opcode
      · exact ⟨_, _, answered_ignored received' reads opcode⟩
    refine ⟨parts, outcome, ?_, ?_, answered.ends⟩
    · dsimp only
      rw [answered.ran]
    · dsimp only
      rw [answered.same]

end Cycle

/-- Whatever the mailbox answers, whatever fails and whatever phase it finds, a dispatch cycle is
contained. That it is recorded changes nothing. -/
theorem runCycle_contained (f : Firmware μ κ (TappedDevice PagedRam))
    (addressable : f.commands.Addressable) :
    ∃ g outcome, runCycle.run f.withRecords = (.ok (), g) ∧ runCycle.run f = (.ok (), g.bare) ∧
      Contained f g outcome ∧
      ∀ code, outcome = .ignored code ↔ ∃ request m,
        (Transfer.receiveFresh : Act Error μ Packet).run f.mailbox = (.ok request, m) ∧
          request.opcode = code ∧ ¬ (1 ≤ code.toNat ∧ code.toNat ≤ 4) := by
  obtain ⟨parts, outcome, ran, same, ends⟩ := exists_finished addressable
  exact ⟨_, outcome, ran, same, ⟨rfl, rfl, rfl, rfl, ends⟩, ends.ignored_iff⟩

/-- A knock over a mailbox that refuses the signal. -/
def unsignalled : SimulatedFirmware :=
  let mailbox := (Endpoint.new Endpoint.defaultDepth).push (Packet.ofRequest .knock).wire
  { twoPages with
    mailbox := (TappedBus.clear mailbox).addFault (.plan (.write .done) 0 none) }

/-- All words of the response are out, and still it is not announced. -/
theorem runCycle_contained_unsignalled :
    unsignalled.commands.Addressable ∧ ∃ g, runCycle.run unsignalled.withRecords = (.ok (), g) ∧
      Contained unsignalled g (.responseFailed .io) ∧
      landed g.mailbox.trace = wordWrites (Commands.respond .knock [0]) := by
  have addressable : unsignalled.commands.Addressable := by
    show (0 : UInt32).toNat + (Array.replicate 64 7 : Array UInt8).size < 0x100000000
    rw [Array.size_replicate]
    decide
  obtain ⟨g, outcome, recorded, same, contained, -⟩ := runCycle_contained unsignalled addressable
  have failed : (runCycle.run unsignalled).2.lastOutcome = some (.responseFailed .io) := by
    decide +kernel
  have words : landed (runCycle.run unsignalled.withRecords).2.mailbox.trace =
      wordWrites (Commands.respond .knock [0]) := by
    decide +kernel
  rw [same] at failed
  rw [recorded] at words
  obtain rfl := Option.some.inj (contained.noted.symm.trans failed)
  exact ⟨addressable, g, recorded, contained, words⟩

end Firmware

end Coprocessor
