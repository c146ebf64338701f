import Coprocessor.Proofs.Firmware.Service
import Coprocessor.Proofs.Mailbox.Acknowledged

/-!
The abort channel beside dispatch. Servicing an abort takes the firmware to a state that is given
outright, and every phase of a dispatch cycle does there what it does before, so that the two
handlers may run in either order.
-/
namespace Coprocessor.Firmware

open Act

/-! ## What servicing an abort does -/

/-- The firmware after an abort was serviced, whether or not the acknowledgement was struck. -/
def aborted (f : SimulatedFirmware) : SimulatedFirmware :=
  { f with
    mailbox := f.mailbox.acknowledged
    controller := f.controller.mapLine
      (fun l => { l with pending := false, cleared := l.cleared + 1 }) .mailboxAbort
    lastAbort := some (if f.mailbox.refuses then .error .io else .ok ())
    aborts := f.aborts + 1 }

/-- What servicing an abort shows. -/
def shownAborting (struck : Bool) : List Event :=
  TappedBus.shownAcknowledging struck ++
    [.message (if struck then .abortUnacknowledged .io else .abortAcknowledged)]

theorem serviceAbort_apply (f : SimulatedFirmware) :
    (serviceAbort : Act Trap SimulatedFirmware Unit) f =
      ⟨.ok (), f.aborted, shownAborting f.mailbox.refuses⟩ := by
  unfold serviceAbort acknowledgeAbort
  simp only [bind_apply, within_apply, attempt_apply, TappedBus.acknowledgeAbort_apply, abortPart]
  unfold aborted shownAborting
  cases f.mailbox.refuses with
  | true => rfl
  | false => rfl

/-! ## A dispatch cycle after an abort -/

/-- The firmware beside what it is after an abort, whose acknowledgement is struck or not. -/
def Aborting (struck : Bool) (f g : SimulatedFirmware) : Prop :=
  g = f.aborted ∧ f.mailbox.refuses = struck

variable {struck : Bool} {α : Type}

section Parts

theorem relates_onMailbox {ε : Type} {x : Act ε (TappedBus Endpoint) α}
    (h : Relates .butAbortBits (TappedBus.Acknowledging struck) x x) :
    Relates .butAbortBits (Aborting struck) (x.within mailboxPart) (x.within mailboxPart) := by
  apply h.within
  · rintro f _ ⟨rfl, refuses⟩
    exact ⟨rfl, refuses⟩
  · rintro f _ t _ ⟨rfl, refuses⟩ ⟨rfl, refuses'⟩
    refine ⟨?_, refuses'⟩
    simp only [mailboxPart, aborted, refuses, refuses']

theorem relates_onCommands {ε : Type} (x : Act ε (Commands (TappedDevice PagedRam)) α) :
    Relates .butAbortBits (Aborting struck) (x.within commandsPart) (x.within commandsPart) := by
  apply (Relates.same x).within
  · rintro f _ ⟨rfl, -⟩
    rfl
  · rintro f _ c _ ⟨rfl, refuses⟩ rfl
    exact ⟨rfl, refuses⟩

/-- A change of what an abort does not touch. -/
theorem relates_modify {h : SimulatedFirmware → SimulatedFirmware}
    (apart : ∀ f, (h f).aborted = h f.aborted ∧ (h f).mailbox = f.mailbox) :
    Relates .butAbortBits (Aborting struck) (Act.modify h : Act Trap SimulatedFirmware Unit)
      (Act.modify h) := by
  apply Relates.modify
  rintro f _ ⟨rfl, refuses⟩
  obtain ⟨same, mailbox⟩ := apart f
  exact ⟨same.symm, by rw [mailbox, refuses]⟩

end Parts

theorem relates_receiveRequest :
    Relates .butAbortBits (Aborting struck) (receiveRequest : Act Trap SimulatedFirmware Phase)
      receiveRequest := by
  apply (relates_onMailbox TappedBus.alike_acknowledging.receiveFresh).attempt.bind
  intro r
  cases r with
  | error e => exact (Relates.log (.requestFailed e)).bind fun _ => Relates.pure _
  | ok request => exact (Relates.log (.requestReceived _ _)).bind fun _ => Relates.pure _

theorem relates_runCommand (request : Packet) :
    Relates .butAbortBits (Aborting struck)
      (runCommand request : Act Trap SimulatedFirmware Phase) (runCommand request) := by
  unfold runCommand
  cases request.toRequest with
  | error e => exact (Relates.log (.requestUnknown _)).bind fun _ => Relates.pure _
  | ok op =>
    dsimp only
    cases Commands.handler? (δ := TappedDevice PagedRam) op with
    | none => exact (Relates.log .requestInvalid).bind fun _ => Relates.pure _
    | some handler => exact (relates_onCommands (handler request)).bind fun _ => Relates.pure _

theorem relates_sendResponse (response : Packet) :
    Relates .butAbortBits (Aborting struck)
      (sendResponse response : Act Trap SimulatedFirmware Phase) (sendResponse response) := by
  apply (relates_onMailbox (TappedBus.alike_acknowledging.send response)).attempt.bind
  intro r
  cases r with
  | error e => exact (Relates.log (.responseFailed _ e)).bind fun _ => Relates.pure _
  | ok len => exact Relates.pure _

theorem relates_close (outcome : CycleOutcome) :
    Relates .butAbortBits (Aborting struck)
      (close outcome : Act Trap SimulatedFirmware Phase) (close outcome) := by
  -- the two interrupts have a line each
  have clears : Relates .butAbortBits (Aborting struck)
      ((InterruptController.clearPending .mailboxAvailable).sure.within controllerPart :
        Act Trap SimulatedFirmware Unit)
      ((InterruptController.clearPending .mailboxAvailable).sure.within controllerPart) := by
    apply relates_modify
    intro f
    exact ⟨rfl, rfl⟩
  refine clears.bind fun _ => Relates.bind ?_ fun _ => Relates.pure Phase.idle
  apply relates_modify
  intro f
  exact ⟨rfl, rfl⟩

theorem relates_body (phase : Phase) :
    Relates .butAbortBits (Aborting struck) (body phase : Act Trap SimulatedFirmware Phase)
      (body phase) := by
  cases phase with
  | idle => exact Relates.pure _
  | receiving => exact relates_receiveRequest
  | dispatching request => exact relates_runCommand request
  | responding response => exact relates_sendResponse response
  | closing outcome => exact relates_close outcome

theorem relates_advance :
    Relates .butAbortBits (Aborting struck) (advance : Act Trap SimulatedFirmware Unit)
      advance := by
  rw [advance_eq]
  refine Relates.bind ?_ fun phase => (relates_body phase).bind fun next => ?_
  · apply Relates.gets
    rintro f _ ⟨rfl, -⟩
    rfl
  · apply relates_modify
    intro f
    exact ⟨rfl, rfl⟩

theorem relates_advances (n : Nat) :
    Relates .butAbortBits (Aborting struck) (advances n : Act Trap SimulatedFirmware Unit)
      (advances n) := by
  induction n with
  | zero => exact Relates.pure ()
  | succ n ih => exact relates_advance.bind fun _ => ih

/-- A dispatch cycle after an abort does what it does before it. -/
theorem relates_runCycle :
    Relates .butAbortBits (Aborting struck) (runCycle : Act Trap SimulatedFirmware Unit)
      runCycle := by
  refine Relates.bind ?_ fun _ => relates_advances 4
  apply relates_modify
  intro f
  exact ⟨rfl, rfl⟩

/-! ## Both orders -/

/-- What servicing an abort leaves of firmware `f`. -/
structure AbortServed (f g : SimulatedFirmware) : Prop where
  /-- An abort in progress is acknowledged, unless the write is struck. -/
  acknowledged : f.mailbox.bus.abortInProgress = true → f.mailbox.refuses = false →
    g.mailbox.bus.abortAcknowledged = true ∧ g.mailbox.bus.abortInProgress = false
  /-- The line of the abort is cleared, once. -/
  cleared : g.controller.abort =
    { f.controller.abort with pending := false, cleared := f.controller.abort.cleared + 1 }
  available : g.controller.available = f.controller.available
  counted : g.aborts.toNat = (f.aborts.toNat + 1) % 0x100000000
  reported : g.lastAbort = some (if f.mailbox.refuses then .error .io else .ok ())
  words : g.mailbox.bus.inbound = f.mailbox.bus.inbound ∧
    g.mailbox.bus.outbound = f.mailbox.bus.outbound
  latches : g.mailbox.bus.txError = f.mailbox.bus.txError ∧
    g.mailbox.bus.rxError = f.mailbox.bus.rxError
  signals : g.mailbox.bus.doneCount = f.mailbox.bus.doneCount
  commands : g.commands = f.commands
  dispatch : g.phase = f.phase ∧ g.cycles = f.cycles ∧ g.lastOutcome = f.lastOutcome

theorem abortServed_aborted (f : SimulatedFirmware) : AbortServed f f.aborted := by
  have mailbox : f.aborted.mailbox.bus =
      if f.mailbox.refuses then f.mailbox.bus else f.mailbox.bus.acknowledged := rfl
  have counted : f.aborted.aborts.toNat = (f.aborts.toNat + 1) % 0x100000000 := UInt32.toNat_add ..
  constructor
  case acknowledged =>
    intro inProgress passes
    simp [mailbox, passes, Endpoint.acknowledged_eq, inProgress]
  case counted => exact counted
  case cleared | available | reported | commands => rfl
  case dispatch => exact ⟨rfl, rfl, rfl⟩
  all_goals
    rw [mailbox, Endpoint.acknowledged_eq]
    cases f.mailbox.refuses <;> simp

/-- The abort channel is independent of dispatch. Whatever the state of the firmware, servicing an
abort and a request in the one order or the other leaves the same firmware; each handler shows the
same in both orders, but for the abort bits of the statuses that the cycle reads. Servicing an abort
acknowledges it and clears its line, and touches nothing that a cycle uses. -/
theorem abort_beside_dispatch (f : SimulatedFirmware) (addressable : f.commands.Addressable) :
    (∃ g served cycle cycle',
      (service .mailboxAbort >>= fun _ => service .mailboxAvailable :
        Act Trap SimulatedFirmware Unit) f = ⟨.ok (), g, served ++ cycle'⟩ ∧
      (service .mailboxAvailable >>= fun _ => service .mailboxAbort :
        Act Trap SimulatedFirmware Unit) f = ⟨.ok (), g, cycle ++ served⟩ ∧
      List.Forall₂ Event.SameButAbortBits cycle cycle') ∧
    ∃ g, (service .mailboxAbort : Act Trap SimulatedFirmware Unit).run f = (.ok (), g) ∧
      AbortServed f g := by
  have served (g : SimulatedFirmware) :
      (service .mailboxAbort : Act Trap SimulatedFirmware Unit) g =
        ⟨.ok (), g.aborted, shownAborting g.mailbox.refuses⟩ := serviceAbort_apply g
  constructor
  · obtain ⟨parts, outcome, ran, -⟩ := exists_run_runCycle addressable
    obtain ⟨result, -⟩ := run_eq_iff.mp ran
    -- the cycle after the abort, from the cycle before it
    have after := relates_runCycle f f.aborted ⟨rfl, rfl⟩
    obtain ⟨same, refuses⟩ := after.state
    have cycle : (service .mailboxAvailable : Act Trap SimulatedFirmware Unit) f =
        ⟨.ok (), (runCycle f).state, (runCycle f).events⟩ := by
      rw [← result]
      rfl
    have cycle' : (service .mailboxAvailable : Act Trap SimulatedFirmware Unit) f.aborted =
        ⟨.ok (), (runCycle f).state.aborted, (runCycle f.aborted).events⟩ := by
      rw [← same, ← result, after.result]
      rfl
    refine ⟨(runCycle f).state.aborted, shownAborting f.mailbox.refuses, (runCycle f).events,
      (runCycle f.aborted).events, ?_, ?_, after.shown⟩
    · rw [bind_ok (served f), cycle']
    · rw [bind_ok cycle, served, refuses]
  · refine ⟨f.aborted, ?_, abortServed_aborted f⟩
    rw [Act.run, served]

/-- The knock is answered and the abort acknowledged in either order. -/
theorem abort_beside_knock :
    knockAndAbortPending.commands.Addressable ∧ ∃ g : SimulatedFirmware,
      (service .mailboxAbort >>= fun _ => service .mailboxAvailable :
        Act Trap SimulatedFirmware Unit).run knockAndAbortPending = (.ok (), g) ∧
      (service .mailboxAvailable >>= fun _ => service .mailboxAbort :
        Act Trap SimulatedFirmware Unit).run knockAndAbortPending = (.ok (), g) ∧
      g.lastOutcome = some (.responded 128 1) ∧ g.mailbox.bus.abortAcknowledged = true := by
  have addressable : knockAndAbortPending.commands.Addressable := addressable_twoPages
  obtain ⟨⟨g, served, cycle, cycle', first, second, -⟩, -⟩ :=
    abort_beside_dispatch knockAndAbortPending addressable
  have outcome : ((service .mailboxAbort >>= fun _ => service .mailboxAvailable :
      Act Trap SimulatedFirmware Unit) knockAndAbortPending).state.lastOutcome =
        some (.responded 128 1) := by
    decide +kernel
  have acknowledged : ((service .mailboxAbort >>= fun _ => service .mailboxAvailable :
      Act Trap SimulatedFirmware Unit) knockAndAbortPending).state.mailbox.bus.abortAcknowledged =
        true := by
    decide +kernel
  rw [first] at outcome acknowledged
  exact ⟨addressable, g, run_eq_iff.mpr (by rw [first]; exact ⟨rfl, rfl⟩),
    run_eq_iff.mpr (by rw [second]; exact ⟨rfl, rfl⟩), outcome, acknowledged⟩

/-- What the two orders show is not the same up to its order: a status that the cycle reads still
shows the abort in progress, or shows it acknowledged. -/
theorem abort_bits_shown :
    ¬ ((service .mailboxAbort >>= fun _ => service .mailboxAvailable :
        Act Trap SimulatedFirmware Unit) knockAndAbortPending).events.Perm
      ((service .mailboxAvailable >>= fun _ => service .mailboxAbort :
        Act Trap SimulatedFirmware Unit) knockAndAbortPending).events := by
  decide +kernel

end Coprocessor.Firmware
