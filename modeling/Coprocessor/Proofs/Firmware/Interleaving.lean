import Coprocessor.Kernel.CosineTransform
import Coprocessor.Proofs.Firmware.Cycle
import Coprocessor.Proofs.Mailbox.Reception
import Coprocessor.Storage.PagedRam

/-!
A dispatch cycle while the peer goes on. Once the cycle has received, the peer may put words into
the mailbox and raise the interrupt at any point of what is left:

    working → closing → recording → returned

The work is an action on mailbox and commands, and a point in it is any way to cut it in two. The
interrupt is cleared between closing and recording, whatever was raised until then.
-/
namespace Coprocessor.Firmware

open Act

variable {μ δ : Type}

/-- What is left of a cycle that has received. -/
inductive Remainder (μ δ : Type) where
  | working (rest : Act Trap (μ × Commands δ) CycleOutcome)
  | closing (outcome : CycleOutcome)
  /-- The interrupt is cleared and the outcome still to be recorded. -/
  | recording (outcome : CycleOutcome)
  | returned

/-- Who moves. -/
inductive Move (μ : Type) where
  /-- The cycle goes on. -/
  | cycle
  /-- The cycle clears the interrupt. -/
  | clear
  /-- The peer changes the mailbox, as by words that arrive. -/
  | words (change : μ → μ)
  /-- The peer raises the interrupt. -/
  | trigger

/-- A request is pending. -/
def Pending (f : Firmware μ Lines δ) : Prop :=
  (f.controller.line .mailboxAvailable).pending = true

def onLines (f : Firmware μ Lines δ) (x : Act Empty Lines Unit) : Firmware μ Lines δ :=
  { f with controller := (x.run f.controller).2 }

/-- Records the outcome of a cycle, which returns it. -/
def recorded (outcome : CycleOutcome) (f : Firmware μ Lines δ) : Firmware μ Lines δ :=
  { f with lastOutcome := some outcome, phase := .idle }

/-- One move, of the cycle or of the peer. Once the cycle has returned there is none. -/
inductive Step : Remainder μ δ → Firmware μ Lines δ → Move μ → Remainder μ δ →
    Firmware μ Lines δ → Prop where
  /-- The work up to a point. -/
  | work {α : Type} {rest : Act Trap (μ × Commands δ) CycleOutcome}
      {x : Act Trap (μ × Commands δ) α} {g : α → Act Trap (μ × Commands δ) CycleOutcome} {a : α}
      {f : Firmware μ Lines δ} {parts : μ × Commands δ} (cut : rest = x >>= g)
      (ran : x.run (f.mailbox, f.commands) = (.ok a, parts)) :
      Step (.working rest) f .cycle (.working (g a)) (f.withParts parts)
  | finish {rest : Act Trap (μ × Commands δ) CycleOutcome} {outcome : CycleOutcome}
      {f : Firmware μ Lines δ} {parts : μ × Commands δ}
      (ran : rest.run (f.mailbox, f.commands) = (.ok outcome, parts)) :
      Step (.working rest) f .cycle (.closing outcome) (f.withParts parts)
  | clear {outcome : CycleOutcome} {f : Firmware μ Lines δ} :
      Step (.closing outcome) f .clear (.recording outcome)
        (f.onLines (InterruptController.clearPending .mailboxAvailable))
  | record {outcome : CycleOutcome} {f : Firmware μ Lines δ} :
      Step (.recording outcome) f .cycle .returned (f.recorded outcome)
  | words {r : Remainder μ δ} {f : Firmware μ Lines δ} {change : μ → μ} (running : r ≠ .returned) :
      Step r f (.words change) r { f with mailbox := change f.mailbox }
  | trigger {r : Remainder μ δ} {f : Firmware μ Lines δ} (running : r ≠ .returned) :
      Step r f .trigger r (f.onLines (InterruptController.trigger .mailboxAvailable))

/-- Moves one after the other. -/
inductive Moves : Remainder μ δ → Firmware μ Lines δ → List (Move μ) → Remainder μ δ →
    Firmware μ Lines δ → Prop where
  | nil {r : Remainder μ δ} {f : Firmware μ Lines δ} : Moves r f [] r f
  | cons {r r' r'' : Remainder μ δ} {f f' f'' : Firmware μ Lines δ} {m : Move μ}
      {ms : List (Move μ)} (step : Step r f m r' f') (rest : Moves r' f' ms r'' f'') :
      Moves r f (m :: ms) r'' f''

/-- The moves after the interrupt was cleared. -/
def afterClear : List (Move μ) → List (Move μ)
  | [] => []
  | .clear :: rest => rest
  | _ :: rest => afterClear rest

/-! ## Whether the request is seen -/

@[simp] theorem pending_withParts (f : Firmware μ Lines δ) (parts : μ × Commands δ) :
    (f.withParts parts).Pending ↔ f.Pending :=
  Iff.rfl

@[simp] theorem pending_recorded (outcome : CycleOutcome) (f : Firmware μ Lines δ) :
    (f.recorded outcome).Pending ↔ f.Pending :=
  Iff.rfl

theorem not_pending_cleared (f : Firmware μ Lines δ) :
    ¬ (f.onLines (InterruptController.clearPending .mailboxAvailable)).Pending :=
  Bool.false_ne_true

theorem pending_triggered (f : Firmware μ Lines δ) :
    (f.onLines (InterruptController.trigger .mailboxAvailable)).Pending :=
  rfl

theorem moves_returned {r : Remainder μ δ} {f f' : Firmware μ Lines δ} {ms : List (Move μ)}
    (run : Moves .returned f ms r f') : ms = [] ∧ f' = f := by
  cases run with
  | nil => exact ⟨rfl, rfl⟩
  | cons step rest =>
    cases step with
    | words running => exact absurd rfl running
    | trigger running => exact absurd rfl running

/-- After the clear, what is raised stays. -/
theorem pending_of_recording {outcome : CycleOutcome} {f f' : Firmware μ Lines δ}
    {ms : List (Move μ)} (run : Moves (.recording outcome) f ms .returned f') :
    f'.Pending ↔ f.Pending ∨ .trigger ∈ ms := by
  induction ms generalizing f with
  | nil => cases run
  | cons m ms ih =>
    cases run with
    | cons step rest =>
      cases step with
      | record =>
        obtain ⟨rfl, rfl⟩ := moves_returned rest
        simp
      | words running =>
        rw [ih rest]
        simp [Pending]
      | trigger running =>
        -- no clear is to come, so this one is still pending at the end
        rw [ih rest]
        simp [pending_triggered]

/-- The cycle has not cleared the interrupt yet. -/
def Remainder.Uncleared : Remainder μ δ → Prop
  | working _ | closing _ => True
  | recording _ | returned => False

/-- A request is pending when the cycle returns exactly if it was raised after the clear. -/
theorem pending_of_uncleared {r : Remainder μ δ} {f f' : Firmware μ Lines δ} {ms : List (Move μ)}
    (run : Moves r f ms .returned f') (uncleared : r.Uncleared) :
    f'.Pending ↔ .trigger ∈ afterClear ms := by
  induction ms generalizing r f with
  | nil =>
    cases run
    exact uncleared.elim
  | cons m ms ih =>
    cases run with
    | cons step rest =>
      cases step with
      | work cut ran => exact ih rest trivial
      | finish ran => exact ih rest trivial
      | clear =>
        -- whatever was raised up to here is taken back
        rw [pending_of_recording rest, afterClear]
        exact or_iff_right (not_pending_cleared f)
      | record => exact uncleared.elim
      | words running => exact ih rest uncleared
      | trigger running => exact ih rest uncleared

/-! ## The cycle that is interrupted -/

section Cycle

variable [RegisterBus μ Error] [PageDevice δ]

/-- What a cycle does once its receive has returned. -/
def afterReceive : Except Error Packet → Act Trap (μ × Commands δ) CycleOutcome
  | .ok request => answer request
  | .error e => pure (.requestFailed e)

/-- The firmware once the receive of its cycle has returned. -/
def received (f : Firmware μ Lines δ) : Firmware μ Lines δ :=
  { f with
    mailbox := ((Transfer.receiveFresh : Act Error μ Packet).run f.mailbox).2
    cycles := f.cycles + 1 }

/-- The work of a cycle of `f` once its receive has returned. -/
def workOf (f : Firmware μ Lines δ) : Act Trap (μ × Commands δ) CycleOutcome :=
  afterReceive ((Transfer.receiveFresh : Act Error μ Packet).run f.mailbox).1

/-- What the rest of the cycle comes to if the peer leaves it alone. -/
def Alone : Remainder μ δ → Firmware μ Lines δ → Firmware μ Lines δ → Prop
  | .working rest, f, f' => ∃ outcome parts,
    rest.run (f.mailbox, f.commands) = (.ok outcome, parts) ∧
      f' = (f.withParts parts).concluded outcome
  | .closing outcome, f, f' => f' = f.concluded outcome
  | .recording outcome, f, f' => f' = f.recorded outcome
  | .returned, f, f' => f' = f

/-- A move of the cycle itself. -/
def Move.Own : Move μ → Prop
  | cycle | clear => True
  | words _ | trigger => False

omit [RegisterBus μ Error] [PageDevice δ] in
theorem alone_of_moves {r : Remainder μ δ} {f f' : Firmware μ Lines δ} {ms : List (Move μ)}
    (run : Moves r f ms .returned f') (own : ∀ m ∈ ms, m.Own) : Alone r f f' := by
  induction ms generalizing r f with
  | nil =>
    cases run
    rfl
  | cons m ms ih =>
    obtain ⟨mine, later⟩ := List.forall_mem_cons.mp own
    cases run with
    | cons step rest =>
      cases step with
      | work cut ran =>
        -- the two halves of the work are the work again
        obtain ⟨outcome, parts, done, rfl⟩ := ih rest later
        exact ⟨outcome, parts, by rw [cut, run_bind_ok ran]; exact done, rfl⟩
      | finish ran => exact ⟨_, _, ran, ih rest later⟩
      | clear =>
        have left := ih rest later
        exact left
      | record =>
        have left := ih rest later
        exact left
      | words running => exact mine.elim
      | trigger running => exact mine.elim

omit [RegisterBus μ Error] [PageDevice δ] in
theorem moves_of_alone {rest : Act Trap (μ × Commands δ) CycleOutcome} {f f' : Firmware μ Lines δ}
    (h : Alone (.working rest) f f') :
    Moves (.working rest) f [.cycle, .clear, .cycle] .returned f' := by
  obtain ⟨outcome, parts, ran, rfl⟩ := h
  exact .cons (.finish ran) (.cons .clear (.cons .record .nil))

theorem run_runCycle_iff_alone {f f' : Firmware μ Lines δ} :
    runCycle.run f = (.ok (), f') ↔ Alone (.working f.workOf) f.received f' := by
  rw [run_runCycle, workOf, received]
  rcases (Transfer.receiveFresh : Act Error μ Packet).run f.mailbox with ⟨e | request, m⟩
  · constructor
    · intro h
      cases h
      exact ⟨_, _, rfl, rfl⟩
    · rintro ⟨outcome, parts, h, rfl⟩
      cases h
      rfl
  · dsimp only [Alone, afterReceive]
    rcases (answer request).run (m, f.commands) with ⟨t | outcome, parts⟩
    · constructor
      · intro h
        cases h
      · rintro ⟨outcome, parts, h, -⟩
        cases h
    · constructor
      · intro h
        cases h
        exact ⟨_, _, rfl, rfl⟩
      · rintro ⟨outcome, parts, h, rfl⟩
        cases h
        rfl

/-- The moves of a cycle that the peer leaves alone are a run of the interrupt's handler. -/
theorem run_runCycle_iff_moves {f f' : Firmware μ Lines δ} :
    runCycle.run f = (.ok (), f') ↔
      ∃ ms, (∀ m ∈ ms, m.Own) ∧ Moves (.working f.workOf) f.received ms .returned f' := by
  rw [run_runCycle_iff_alone]
  refine ⟨fun h => ⟨_, ?_, moves_of_alone h⟩, fun ⟨ms, own, run⟩ => alone_of_moves run own⟩
  simp [Move.Own]

/-- When the cycle returns, a request is pending exactly if it was raised after the clear. One that
was raised before the clear is forgotten, although its words are in the mailbox. -/
theorem pending_at_return_iff {f f' : Firmware μ Lines δ} {ms : List (Move μ)}
    (run : Moves (.working f.workOf) f.received ms .returned f') :
    f'.Pending ↔ .trigger ∈ afterClear ms :=
  pending_of_uncleared run trivial

end Cycle

/-! ## A knock during a knock -/

/-- A knock without arguments. -/
def knockPacket : Packet := .ofRequest .knock

/-- Firmware that has been set up and knocked at. -/
def knockedAt : Firmware Endpoint Lines PagedRam :=
  { new ((Endpoint.new Endpoint.defaultDepth).push knockPacket.wire)
      ⟨{ Line.idle with enabled := true, pending := true }, { Line.idle with enabled := true }⟩
      { storage := .new 0x60000000 32 0
        window := .default
        transform := CosineTransform.transform
        generator := Attractor.generate Attractor.defaultIterations
        arena := ⟨Arena.defaultBase, #[]⟩ } with }

theorem run_receiveFresh_knockedAt :
    (Transfer.receiveFresh : Act Error Endpoint Packet).run knockedAt.mailbox =
      (.ok (Transfer.arrived knockPacket), { knockedAt.mailbox with inbound := [] }) :=
  Transfer.run_receiveFresh_wire Carries.id (by decide) rfl

/-- The cycle answers the knock that it received, whatever has arrived since. -/
theorem run_workOf_knockedAt {e : Endpoint} (idle : e.outbound = [])
    (room : Endpoint.defaultDepth ≤ e.depth) (c : Commands PagedRam) :
    ∃ e', (workOf knockedAt).run (e, c) = (.ok (.responded 128 1), e', c) ∧
      e'.inbound = e.inbound := by
  have sent : (Transfer.send (Commands.respond .knock [0]) : Act Error Endpoint Nat).run e =
      (.ok 1, (e.written (Commands.respond .knock [0]).wire).signalled) :=
    Transfer.run_send_empty Carries.id (by decide) idle room
  have response : Commands.knock (Transfer.arrived knockPacket) = Commands.respond .knock [0] := by
    have none : (Transfer.arrived knockPacket).args = [] := Transfer.args_arrived knockPacket
    rw [Commands.knock, none]
    rfl
  have handled : (pure (Commands.knock (Transfer.arrived knockPacket)) :
      Act Trap (Commands PagedRam) Packet).run c = (.ok (Commands.respond .knock [0]), c) := by
    rw [response]
    rfl
  have known : (Transfer.arrived knockPacket).toRequest = .ok .knock :=
    Transfer.toRequest_arrived knockPacket
  refine ⟨(e.written (Commands.respond .knock [0]).wire).signalled, ?_, rfl⟩
  rw [workOf, run_receiveFresh_knockedAt, afterReceive]
  exact run_answer_responded known rfl handled sent

theorem mailbox_received_knockedAt :
    knockedAt.received.mailbox = { knockedAt.mailbox with inbound := [] } :=
  congrArg Prod.snd run_receiveFresh_knockedAt

/-- The second knock arrives while the first is answered. The clear that ends the cycle takes it
back: its words wait, and nothing services them. -/
theorem request_lost :
    ∃ f' : Firmware Endpoint Lines PagedRam,
      Moves (.working knockedAt.workOf) knockedAt.received
        [.words (·.push knockPacket.wire), .trigger, .cycle, .clear, .cycle] .returned f' ∧
      f'.mailbox.inbound = knockPacket.wire ∧ ¬ f'.Pending ∧
      ∀ table, vectorTable 0 = .ok table → (table.serviceUpTo 8).run f' = (.ok (.ok 0), f') := by
  let e : Endpoint := knockedAt.received.mailbox.push knockPacket.wire
  have mailbox : e = { knockedAt.mailbox with inbound := knockPacket.wire } := by
    show knockedAt.received.mailbox.push knockPacket.wire = _
    rw [mailbox_received_knockedAt]
    rfl
  obtain ⟨e', ran, inbound⟩ := run_workOf_knockedAt (e := e) (by rw [mailbox]; rfl)
    (by rw [mailbox]; exact Nat.le_refl _) knockedAt.received.commands
  have moves : Moves (.working knockedAt.workOf) knockedAt.received
      [.words (·.push knockPacket.wire), .trigger, .cycle, .clear, .cycle] .returned _ :=
    .cons (.words nofun) (.cons (.trigger nofun)
      (.cons (.finish ran) (.cons .clear (.cons .record .nil))))
  refine ⟨_, moves, ?_, ?_, fun table made => ?_⟩
  · exact inbound.trans (congrArg Endpoint.inbound mailbox)
  · rw [pending_of_uncleared moves trivial]
    simp [afterClear]
  · -- neither line is pending, so no vector is found ready
    refine VectorTable.run_serviceUpTo_none (VectorTable.run_serviceMostUrgent_none (fun _ => rfl) ?_) 8
    intro v _
    cases v.source with
    | mailboxAvailable => rfl
    | mailboxAbort => rfl

/-- The second knock arrives between the clear and the return, and is pending. -/
theorem request_seen :
    ∃ f' : Firmware Endpoint Lines PagedRam,
      Moves (.working knockedAt.workOf) knockedAt.received
        [.cycle, .clear, .words (·.push knockPacket.wire), .trigger, .cycle] .returned f' ∧
      f'.Pending := by
  obtain ⟨e', ran, -⟩ := run_workOf_knockedAt (e := knockedAt.received.mailbox)
    (by rw [mailbox_received_knockedAt]; rfl)
    (by rw [mailbox_received_knockedAt]; exact Nat.le_refl _) knockedAt.received.commands
  have moves : Moves (.working knockedAt.workOf) knockedAt.received
      [.cycle, .clear, .words (·.push knockPacket.wire), .trigger, .cycle] .returned _ :=
    .cons (.finish ran) (.cons .clear (.cons (.words nofun) (.cons (.trigger nofun)
      (.cons .record .nil))))
  exact ⟨_, moves, (pending_at_return_iff moves).mpr (by simp [afterClear])⟩

end Coprocessor.Firmware
