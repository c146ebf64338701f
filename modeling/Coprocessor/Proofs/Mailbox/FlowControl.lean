import Coprocessor.Proofs.Act.Triple
import Coprocessor.Proofs.Mailbox.ReceiveTrace
import Coprocessor.Proofs.Mailbox.SendTrace
import Coprocessor.Simulation.TappedBus

/-!
Flow control on every bus, and what it is for: an endpoint that is used through packets alone is
never written to while its queue is full, whichever accesses fail.
-/
namespace Coprocessor

open Act

/-! ## Receiving only reads -/

section Reading

variable {σ ε : Type} [RegisterBus σ ε] [Raises ε] {P : σ → Prop}
  (reads : ∀ r, Keeps P (RegisterBus.read r : Act ε σ UInt32))
include reads

namespace Mailbox

omit [Raises ε] in
theorem keeps_takeWord : Keeps P (takeWord : Act ε σ UInt32) :=
  (reads .rdata).bind fun word => (Keeps.log (.wordRead word)).bind fun _ => Keeps.pure word

omit [Raises ε] in
theorem keeps_canRead : Keeps P (canRead : Act ε σ Bool) :=
  ((reads .status).bind fun _ => Keeps.pure _).bind fun _ => Keeps.pure _

theorem keeps_readWord : Keeps P (readWord : Act ε σ UInt32) :=
  (keeps_canRead reads).bind fun _ => (keeps_takeWord reads).ite (Keeps.fail .channelNotReady)

end Mailbox

namespace Transfer

omit [RegisterBus σ ε] [Raises ε] reads in
theorem keeps_onBus {α ρ : Type} {x : Act ε σ α} (hx : Keeps P x) :
    Keeps (fun s : σ × ρ => P s.1) (x.within busPart) :=
  hx.within (fun _ h => h) fun _ _ _ h => h

theorem keeps_discardSurplus : Keeps P (discardSurplus : Act ε σ Unit) := by
  have drop : Keeps P (do
      let word ← Mailbox.takeWord
      Act.log (.surplusWord word)
      return none : Act ε σ (Option Unit)) :=
    (Mailbox.keeps_takeWord reads).bind fun _ => (Keeps.log _).bind fun _ => Keeps.pure none
  have round : Keeps P (discardWord : Act ε σ (Option Unit)) :=
    (Mailbox.keeps_canRead reads).bind fun _ => drop.ite (Keeps.pure (some ()))
  refine (Keeps.firstSome (fun _ => round) surplusLimit 0).bind fun finished => ?_
  cases finished with
  | some u => exact Keeps.pure ()
  | none =>
    refine (Mailbox.keeps_canRead reads).bind fun more => Keeps.ite ?_ (Keeps.pure ())
    exact (Keeps.log _).bind fun _ => Keeps.fail _

theorem keeps_readArgs (n i : Nat) :
    Keeps (fun s : σ × Packet => P s.1) (readArgs n i : Act ε (σ × Packet) Unit) := by
  induction n generalizing i with
  | zero => exact Keeps.pure ()
  | succ n ih =>
    refine (keeps_onBus (Mailbox.keeps_readWord reads)).bind fun word => ?_
    exact Keeps.bind (Keeps.modify fun _ h => h) fun _ => ih (i + 1)

theorem keeps_receiveDeclared (opcode argLen : UInt16) :
    Keeps (fun s : σ × Packet => P s.1)
      (receiveDeclared opcode argLen : Act ε (σ × Packet) Nat) := by
  rw [receiveDeclared]
  cases argCount argLen with
  | error e => exact (Keeps.log _).bind fun _ => Keeps.fail e
  | ok n =>
    refine Keeps.bind (Keeps.modify fun _ h => h) fun _ => (keeps_readArgs reads n 0).bind fun _ => ?_
    exact (keeps_onBus (keeps_discardSurplus reads)).bind fun _ =>
      (Keeps.log _).bind fun _ => Keeps.pure n

/-- What reading a register keeps of a bus, receiving a packet keeps. -/
theorem keeps_receive :
    Keeps (fun s : σ × Packet => P s.1) (receive : Act ε (σ × Packet) Nat) := by
  refine (keeps_onBus (Mailbox.keeps_takeWord reads)).bind fun version => ?_
  refine Keeps.bind (Keeps.modify fun _ h => h) fun _ => ?_
  refine (keeps_onBus (Mailbox.keeps_readWord reads)).bind fun header => ?_
  refine Keeps.bind (Keeps.modify fun _ h => h) fun _ => ?_
  exact keeps_receiveDeclared reads (unpackHeader header).1 (unpackHeader header).2

theorem keeps_receiveFresh : Keeps P (receiveFresh : Act ε σ Packet) :=
  (Keeps.withLocal (keeps_receive reads) Packet.empty).bind fun made => Keeps.pure made.2

end Transfer

end Reading

/-! ## Sending -/

namespace Transfer

section Sending

variable {σ ε : Type} [RegisterBus σ ε] [Raises ε] {P : σ → Prop}
  (reads : Keeps P (RegisterBus.read .status : Act ε σ UInt32))
  (writes : ∀ r value, r ≠ .abort → Keeps P (RegisterBus.write r value : Act ε σ Unit))
  (barrier : Keeps P (Mailbox.barrier : Act ε σ Unit))
include reads writes barrier

theorem keeps_writeWord (word : UInt32) : Keeps P (Mailbox.writeWord word : Act ε σ Unit) := by
  have put : Keeps P (do
      RegisterBus.write .wdata word
      Mailbox.barrier
      Act.log (.wordWritten word) : Act ε σ Unit) :=
    (writes .wdata word nofun).bind fun _ => barrier.bind fun _ => Keeps.log _
  have check : Keeps P (Mailbox.canWrite : Act ε σ Bool) :=
    (reads.bind fun _ => Keeps.pure _).bind fun _ => Keeps.pure _
  exact check.bind fun _ => put.ite (Keeps.fail .channelNotReady)

theorem keeps_writeWords (words : List UInt32) :
    Keeps P (writeWords words : Act ε σ Unit) := by
  induction words with
  | nil => exact Keeps.pure ()
  | cons word rest ih => exact (keeps_writeWord reads writes barrier word).bind fun _ => ih

/-- What checking the status, writing and waiting keep of a bus, sending a packet keeps. It never
writes to the abort register. -/
theorem keeps_send (p : Packet) : Keeps P (send p : Act ε σ Nat) := by
  have signals : Keeps P (Mailbox.completePacket : Act ε σ Unit) :=
    barrier.bind fun _ => (writes .done 1 nofun).bind fun _ => barrier
  rw [send]
  cases argCount p.argLen with
  | error e => exact Keeps.fail e
  | ok n =>
    refine (keeps_writeWords reads writes barrier p.wire).bind fun _ => signals.bind fun _ => ?_
    exact (Keeps.log _).bind fun _ => Keeps.pure n

end Sending

end Transfer

/-! ## The queues and the error latch of an endpoint -/

namespace Endpoint

theorem inbound_write (e : Endpoint) (r : Register) (value : UInt32) :
    (e.write r value).inbound = e.inbound := by
  cases r with
  | rdata | status => rfl
  | wdata | abort | done =>
    simp only [write, store, writeAbort]
    repeat' split
    all_goals rfl

theorem depth_write (e : Endpoint) (r : Register) (value : UInt32) :
    (e.write r value).depth = e.depth := by
  cases r with
  | rdata | status => rfl
  | wdata | abort | done =>
    simp only [write, store, writeAbort]
    repeat' split
    all_goals rfl

/-- Only a word for which there is room gets into the queue. -/
theorem outbound_write (e : Endpoint) (r : Register) (value : UInt32) :
    (e.write r value).outbound =
      if r = .wdata ∧ e.hasRoom then e.outbound ++ [value] else e.outbound := by
  cases r with
  | wdata =>
    cases room : e.hasRoom with
    | true => simp only [outbound_write_of_hasRoom room, true_and, if_true]
    | false => simp [write_wdata_of_full room]
  | abort =>
    simp only [write, store, writeAbort, reduceCtorEq, false_and, if_false]
    repeat' split
    all_goals rfl
  | done =>
    simp only [write, store, reduceCtorEq, false_and, if_false]
    split
    · rfl
    · rfl
  | rdata | status => rfl

/-- Reading touches no more than the words that wait and the latch for there being none. -/
theorem exists_read (e : Endpoint) (r : Register) :
    ∃ inbound rxError, (e.read r).2 = { e with inbound, rxError } := by
  cases r with
  | rdata =>
    cases waiting : e.inbound with
    | nil =>
      rw [read_rdata_of_nil waiting]
      exact ⟨_, _, rfl⟩
    | cons word rest =>
      rw [read_rdata_of_cons waiting]
      exact ⟨_, _, rfl⟩
  | wdata | status | abort | done => exact ⟨_, _, rfl⟩

theorem outbound_read (e : Endpoint) (r : Register) : (e.read r).2.outbound = e.outbound := by
  obtain ⟨inbound, rxError, same⟩ := e.exists_read r
  rw [same]

theorem txError_read (e : Endpoint) (r : Register) : (e.read r).2.txError = e.txError := by
  obtain ⟨inbound, rxError, same⟩ := e.exists_read r
  rw [same]

/-- Only a word that is written to a full queue latches the error. -/
theorem txError_write {e : Endpoint} {r : Register} (room : r = .wdata → e.hasRoom = true)
    (value : UInt32) : (e.write r value).txError = e.txError := by
  cases r with
  | wdata =>
    have still : { e with writeCount := e.writeCount + 1 }.hasRoom = true := room rfl
    simp only [write, store, still, if_pos]
  | abort =>
    simp only [write, store, writeAbort]
    repeat' split
    all_goals rfl
  | done =>
    simp only [write, store]
    split
    · rfl
    · rfl
  | rdata | status => rfl

end Endpoint

/-! ## An endpoint behind a tap -/

namespace TappedBus

variable {σ : Type}

theorem strikes_apply (k : AccessKind) (t : TappedBus σ) :
    (strikes k : Act Error (TappedBus σ) Bool) t =
      ⟨.ok (Fault.strike t.faults k).1, { t with faults := (Fault.strike t.faults k).2 }, []⟩ :=
  rfl

/-- A read that is struck does not reach the endpoint. -/
theorem read_apply (r : Register) (t : TappedBus Endpoint) :
    (RegisterBus.read r : Act Error (TappedBus Endpoint) UInt32) t =
      if (Fault.strike t.faults (.read r)).1 then
        ⟨.error .io, { t with faults := (Fault.strike t.faults (.read r)).2 },
          [.access (.read r none)]⟩
      else
        ⟨.ok (t.shown r (t.bus.read r).1),
          { t with bus := (t.bus.read r).2, faults := (Fault.strike t.faults (.read r)).2 },
          [.access (.read r (some (t.shown r (t.bus.read r).1)))]⟩ := by
  refine (bind_ok (strikes_apply (.read r) t) _).trans ?_
  by_cases struck : (Fault.strike t.faults (.read r)).1 = true
  · rw [if_pos struck, if_pos struck]
    rfl
  · rw [if_neg struck, if_neg struck]
    rfl

/-- A write that is struck does not reach the endpoint. -/
theorem write_apply (r : Register) (value : UInt32) (t : TappedBus Endpoint) :
    (RegisterBus.write r value : Act Error (TappedBus Endpoint) Unit) t =
      if (Fault.strike t.faults (.write r)).1 then
        ⟨.error .io, { t with faults := (Fault.strike t.faults (.write r)).2 },
          [.access (.write r value false)]⟩
      else
        ⟨.ok (), { t with bus := t.bus.write r value,
                          faults := (Fault.strike t.faults (.write r)).2 },
          [.access (.write r value true)]⟩ := by
  refine (bind_ok (strikes_apply (.write r) t) _).trans ?_
  by_cases struck : (Fault.strike t.faults (.write r)).1 = true
  · rw [if_pos struck, if_pos struck]
    rfl
  · rw [if_neg struck, if_neg struck]
    rfl

/-- A barrier is never struck. -/
theorem barrier_apply (t : TappedBus Endpoint) :
    (Mailbox.barrier : Act Error (TappedBus Endpoint) Unit) t =
      ⟨.ok (), { t with bus := { t.bus with barrierCount := t.bus.barrierCount + 1 } },
        [.access .barrier]⟩ :=
  rfl

theorem run_read (r : Register) (t : TappedBus Endpoint) :
    (RegisterBus.read r : Act Error (TappedBus Endpoint) UInt32).run t =
      if (Fault.strike t.faults (.read r)).1 then
        (.error .io, { t with faults := (Fault.strike t.faults (.read r)).2 })
      else
        (.ok (t.shown r (t.bus.read r).1),
          { t with bus := (t.bus.read r).2, faults := (Fault.strike t.faults (.read r)).2 }) := by
  rw [Act.run, read_apply]
  split
  · rfl
  · rfl

theorem run_write (r : Register) (value : UInt32) (t : TappedBus Endpoint) :
    (RegisterBus.write r value : Act Error (TappedBus Endpoint) Unit).run t =
      if (Fault.strike t.faults (.write r)).1 then
        (.error .io, { t with faults := (Fault.strike t.faults (.write r)).2 })
      else
        (.ok (), { t with bus := t.bus.write r value,
                          faults := (Fault.strike t.faults (.write r)).2 }) := by
  rw [Act.run, write_apply]
  split
  · rfl
  · rfl

/-- The status is shown as it is, at an endpoint with the error latch at `latched`. -/
structure Unmasked (latched : Bool) (t : TappedBus Endpoint) : Prop where
  held : t.held = 0
  passed : t.passed = 0xFFFFFFFF
  txError : t.bus.txError = latched

variable {latched : Bool}

/-- The status that an unmasked tap shows is that of the endpoint. -/
theorem triple_read (r : Register) :
    Triple (Unmasked latched) (RegisterBus.read r : Act Error (TappedBus Endpoint) UInt32)
      (fun value t => Unmasked latched t ∧ (r = .status → value = t.bus.status.bits))
      fun _ => Unmasked latched := by
  intro t unmasked
  rw [run_read]
  by_cases struck : (Fault.strike t.faults (.read r)).1 = true
  · rw [if_pos struck]
    exact ⟨unmasked.held, unmasked.passed, unmasked.txError⟩
  · rw [if_neg struck]
    refine ⟨⟨unmasked.held, unmasked.passed, ?_⟩, ?_⟩
    · exact (Endpoint.txError_read t.bus r).trans unmasked.txError
    · rintro rfl
      exact shown_unmasked unmasked.held unmasked.passed ..

theorem keeps_read (r : Register) :
    Keeps (Unmasked latched) (RegisterBus.read r : Act Error (TappedBus Endpoint) UInt32) :=
  ((triple_read r).post fun _ _ h => h.1).keeps

theorem triple_write (r : Register) (value : UInt32) :
    Triple (fun t => Unmasked latched t ∧ (r = .wdata → t.bus.hasRoom = true))
      (RegisterBus.write r value : Act Error (TappedBus Endpoint) Unit)
      (fun _ => Unmasked latched) fun _ => Unmasked latched := by
  rintro t ⟨unmasked, room⟩
  rw [run_write]
  by_cases struck : (Fault.strike t.faults (.write r)).1 = true
  · rw [if_pos struck]
    exact ⟨unmasked.held, unmasked.passed, unmasked.txError⟩
  · rw [if_neg struck]
    exact ⟨unmasked.held, unmasked.passed,
      (Endpoint.txError_write room value).trans unmasked.txError⟩

theorem keeps_barrier :
    Keeps (Unmasked latched) (Mailbox.barrier : Act Error (TappedBus Endpoint) Unit) :=
  Keeps.mapFailure (fun _ unmasked => ⟨unmasked.held, unmasked.passed, unmasked.txError⟩) _

theorem triple_canWrite :
    Triple (Unmasked latched) (Mailbox.canWrite : Act Error (TappedBus Endpoint) Bool)
      (fun ready t => Unmasked latched t ∧ (ready = true → t.bus.hasRoom = true))
      fun _ => Unmasked latched := by
  refine Triple.bind (R := fun s t => Unmasked latched t ∧ s = t.bus.status)
    (Triple.bind (triple_read .status) fun bits t ht => ?_) fun s t ht => ?_
  · exact ⟨ht.1, congrArg Status.mk (ht.2 rfl)⟩
  · obtain ⟨unmasked, rfl⟩ := ht
    exact ⟨unmasked, fun ready => (Endpoint.txAvailable_status t.bus).symm.trans ready⟩

theorem keeps_writeWord (word : UInt32) :
    Keeps (Unmasked latched) (Mailbox.writeWord word : Act Error (TappedBus Endpoint) Unit) := by
  refine (Triple.bind triple_canWrite fun ready => ?_).keeps
  cases ready with
  | true =>
    -- the check has just shown room, so the write finds it
    refine Triple.bind ((triple_write .wdata word).pre fun t ht => ⟨ht.1, fun _ => ht.2 rfl⟩)
      fun _ => ?_
    exact (keeps_barrier.bind fun _ => Keeps.log _).triple
  | false => exact fun t ht => ht.1

theorem keeps_completePacket :
    Keeps (Unmasked latched) (Mailbox.completePacket : Act Error (TappedBus Endpoint) Unit) := by
  have signal : Keeps (Unmasked latched)
      (RegisterBus.write .done 1 : Act Error (TappedBus Endpoint) Unit) :=
    ((triple_write .done 1).pre fun t ht => ⟨ht, nofun⟩).keeps
  exact keeps_barrier.bind fun _ => signal.bind fun _ => keeps_barrier

theorem keeps_writeWords (words : List UInt32) :
    Keeps (Unmasked latched) (Transfer.writeWords words : Act Error (TappedBus Endpoint) Unit) := by
  induction words with
  | nil => exact Keeps.pure ()
  | cons word rest ih => exact (keeps_writeWord word).bind fun _ => ih

theorem keeps_send (p : Packet) :
    Keeps (Unmasked latched) (Transfer.send p : Act Error (TappedBus Endpoint) Nat) := by
  rw [Transfer.send]
  cases argCount p.argLen with
  | error e => exact Keeps.fail e
  | ok n =>
    exact (keeps_writeWords p.wire).bind fun _ => keeps_completePacket.bind fun _ =>
      (Keeps.log _).bind fun _ => Keeps.pure n

end TappedBus

/-! ## Packets through a tapped endpoint -/

/-- What happens at a tapped endpoint that is used for packets: packets are sent and received, words
come from the peer and are collected by it, and accesses begin to fail. -/
inductive Turn where
  | send (p : Packet)
  | receive (into : Packet)
  | arrival (words : List UInt32)
  | collection
  | faults (planned : List (Fault AccessKind))

def Turn.after (t : TappedBus Endpoint) : Turn → TappedBus Endpoint
  | send p => ((Transfer.send p : Act Error (TappedBus Endpoint) Nat).run t).2
  | receive into =>
    ((Transfer.receive : Act Error (TappedBus Endpoint × Packet) Nat).run (t, into)).2.1
  | arrival words => { t with bus := t.bus.push words }
  | collection => { t with bus := t.bus.takeOutbound.2 }
  | faults planned => { t with faults := planned }

theorem TappedBus.Unmasked.turn {latched : Bool} {t : TappedBus Endpoint} (h : Unmasked latched t)
    (turn : Turn) : Unmasked latched (turn.after t) := by
  cases turn with
  | send p => exact keeps_send p t h
  | receive into => exact Transfer.keeps_receive keeps_read (t, into) h
  | arrival _ | collection | faults _ => exact ⟨h.held, h.passed, h.txError⟩

theorem TappedBus.Unmasked.turns {latched : Bool} {t : TappedBus Endpoint} (h : Unmasked latched t)
    (turns : List Turn) : Unmasked latched (turns.foldl Turn.after t) := by
  induction turns generalizing t with
  | nil => exact h
  | cons turn later ih => exact ih (h.turn turn)

/-- Flow control. On every bus, whatever it answers: a send asks for room before each word of the
packet, signals it last, and ends with the first answer that stops it; a receive writes nothing,
takes no word past the first without having been shown it, and ends. So an endpoint used for packets
never has a word written to its queue while that is full, whichever accesses fail. -/
theorem flow_control :
    (∀ {σ ε : Type} [RegisterBus σ ε] [Raises ε] (p : Packet) (bus : σ), ∃ r bus' trace,
      (Transfer.send p : Act ε (Recorded σ ε) Nat).run (.fresh bus) = (r, ⟨bus', trace⟩) ∧
      (Transfer.send p : Act ε σ Nat).run bus = (r, bus') ∧ Transfer.SendTrace p r trace) ∧
    (∀ {σ ε : Type} [RegisterBus σ ε] [Raises ε] (into : Packet) (bus : σ), ∃ r bus' p trace,
      (Transfer.receive : Act ε (Recorded σ ε × Packet) Nat).run (.fresh bus, into) =
        (r, ⟨bus', trace⟩, p) ∧
      (Transfer.receive : Act ε (σ × Packet) Nat).run (bus, into) = (r, bus', p) ∧
      Transfer.ReceiveTrace r trace) ∧
    ∀ (e : Endpoint) (faults : List (Fault AccessKind)) (turns : List Turn),
      (turns.foldl Turn.after ⟨e, 0, 0xFFFFFFFF, faults⟩).bus.txError = e.txError := by
  refine ⟨Transfer.send_recorded, Transfer.receive_recorded, ?_⟩
  intro e faults turns
  have start : TappedBus.Unmasked e.txError ⟨e, 0, 0xFFFFFFFF, faults⟩ := ⟨rfl, rfl, rfl⟩
  exact (start.turns turns).txError

end Coprocessor
