import Coprocessor.Async
import Coprocessor.Proofs.Act.Relates
import Coprocessor.Proofs.Host.Acceptance
import Coprocessor.Proofs.Mailbox.FlowControl

/-!
The host's side does what the coprocessor's side does, barriers apart. Both sides are written out
in full, so they are followed operation by operation, on any two buses of which one has barriers and
the registers answer alike. Which buses these are is said last.
-/
namespace Coprocessor.Async

open Act

variable {σ τ ε : Type}

/-- A bus with barriers beside one without: the registers answer alike, and neither a barrier nor a
wait tells the two apart. -/
structure Paired (ε : Type) [RegisterBus σ ε] [RegisterBus τ ε] (E : Comparison)
    (R : σ → τ → Prop) : Prop where
  read : ∀ r, Relates E R (RegisterBus.read r : Act ε σ UInt32) (RegisterBus.read r)
  write : ∀ r value, Relates E R (RegisterBus.write r value : Act ε σ Unit)
    (RegisterBus.write r value)
  barrier : Relates E R (Mailbox.barrier : Act ε σ Unit) (pure ())
  wait : Relates E R (Mailbox.pause : Act ε σ Unit) delay

namespace Paired

variable [RegisterBus σ ε] [RegisterBus τ ε] [Raises ε] {E : Comparison} {R : σ → τ → Prop}
  (paired : Paired ε E R)
include paired

/-! ## Words -/

omit [Raises ε] in
theorem status : Relates E R (Mailbox.status : Act ε σ Status) Async.status :=
  (paired.read .status).bind fun bits => Relates.pure (Status.mk bits)

omit [Raises ε] in
theorem canRead : Relates E R (Mailbox.canRead : Act ε σ Bool) Async.canRead :=
  paired.status.bind fun s => Relates.pure s.rxAvailable

omit [Raises ε] in
theorem canWrite : Relates E R (Mailbox.canWrite : Act ε σ Bool) Async.canWrite :=
  paired.status.bind fun s => Relates.pure s.txAvailable

omit [Raises ε] in
theorem abortOutstanding :
    Relates E R (Mailbox.abortOutstanding : Act ε σ Bool) Async.abortOutstanding :=
  paired.status.bind fun s => Relates.pure s.abortInProgress

theorem writeWord (word : UInt32) :
    Relates E R (Mailbox.writeWord word : Act ε σ Unit) (Async.writeWord word) := by
  apply paired.canWrite.bind
  intro ready
  cases ready with
  | true =>
    refine (paired.write .wdata word).bind fun _ => ?_
    exact paired.barrier.skip (Relates.log (.wordWritten word))
  | false => exact Relates.fail .channelNotReady

omit [Raises ε] in
theorem takeWord : Relates E R (Mailbox.takeWord : Act ε σ UInt32) Async.takeWord :=
  (paired.read .rdata).bind fun word =>
    (Relates.log (.wordRead word)).bind fun _ => Relates.pure word

theorem readWord : Relates E R (Mailbox.readWord : Act ε σ UInt32) Async.readWord := by
  apply paired.canRead.bind
  intro ready
  cases ready with
  | true => exact paired.takeWord
  | false => exact Relates.fail .channelNotReady

omit [Raises ε] in
/-- A write after which nothing is left to wait for. -/
theorem writeThen (r : Register) (value : UInt32) :
    Relates E R (RegisterBus.write r value >>= fun _ => Mailbox.barrier : Act ε σ Unit)
      (RegisterBus.write r value) := by
  have both := (paired.write r value).bind fun _ => paired.barrier
  rwa [bind_pure] at both

omit [Raises ε] in
theorem completePacket :
    Relates E R (Mailbox.completePacket : Act ε σ Unit) Async.completePacket :=
  paired.barrier.skip (paired.writeThen .done 1)

omit [Raises ε] in
theorem requestAbort : Relates E R (Mailbox.requestAbort : Act ε σ Unit) Async.requestAbort :=
  paired.writeThen .abort 1

/-! ## Packets -/

theorem writeWords (words : List UInt32) :
    Relates E R (Transfer.writeWords words : Act ε σ Unit) (Async.writeWords words) := by
  induction words with
  | nil => exact Relates.pure ()
  | cons word rest ih => exact (paired.writeWord word).bind fun _ => ih

theorem send (p : Packet) : Relates E R (Transfer.send p : Act ε σ Nat) (Async.send p) := by
  unfold Transfer.send Async.send
  cases argCount p.argLen with
  | error e => exact Relates.fail e
  | ok n =>
    dsimp only
    rw [Packet.wire, Transfer.writeWords, Transfer.writeWords, bind_assoc, bind_assoc]
    refine (paired.writeWord p.version).bind fun _ => (paired.writeWord p.header).bind fun _ => ?_
    refine (paired.writeWords p.args).bind fun _ => paired.completePacket.bind fun _ => ?_
    exact (Relates.log (.packetSent p.opcode n)).bind fun _ => Relates.pure n

theorem readArgs (n i : Nat) :
    Relates E (Beside R) (Transfer.readArgs n i : Act ε (σ × Packet) Unit)
      (Async.readArgs n i) := by
  induction n generalizing i with
  | zero => exact Relates.pure ()
  | succ n ih =>
    refine paired.readWord.onBus.bind fun word => ?_
    exact (Relates.filling fun _ _ _ hst => ⟨hst, rfl⟩).bind fun _ => ih (i + 1)

omit [Raises ε] in
theorem discardWord :
    Relates E R (Transfer.discardWord : Act ε σ (Option Unit)) Async.discardWord := by
  apply paired.canRead.bind
  intro ready
  cases ready with
  | true =>
    refine paired.takeWord.bind fun word => ?_
    exact (Relates.log (.surplusWord word)).bind fun _ => Relates.pure none
  | false => exact Relates.pure (some ())

theorem discardSurplus :
    Relates E R (Transfer.discardSurplus : Act ε σ Unit) Async.discardSurplus := by
  refine (Relates.firstSome (fun _ => paired.discardWord) Transfer.surplusLimit 0).bind
    fun finished => ?_
  cases finished with
  | some done => exact Relates.pure ()
  | none =>
    apply paired.canRead.bind
    intro more
    cases more with
    | true => exact (Relates.log (.surplusUnending _)).bind fun _ => Relates.fail .timeout
    | false => exact Relates.pure ()

theorem receiveDeclared (opcode argLen : UInt16) :
    Relates E (Beside R) (Transfer.receiveDeclared opcode argLen : Act ε (σ × Packet) Nat)
      (Async.receiveDeclared opcode argLen) := by
  unfold Transfer.receiveDeclared Async.receiveDeclared
  cases argCount argLen with
  | error e => exact (Relates.log (.packetTooLong opcode argLen)).bind fun _ => Relates.fail e
  | ok n =>
    dsimp only
    refine (Relates.filling fun _ _ _ hst => ⟨hst, rfl⟩).bind fun _ => ?_
    refine (paired.readArgs n 0).bind fun _ => paired.discardSurplus.onBus.bind fun _ => ?_
    exact (Relates.log (.packetReceived opcode n)).bind fun _ => Relates.pure n

theorem receive :
    Relates E (Beside R) (Transfer.receive : Act ε (σ × Packet) Nat) Async.receive := by
  refine paired.takeWord.onBus.bind fun version => ?_
  refine (Relates.filling fun _ _ _ hst => ⟨hst, rfl⟩).bind fun _ => ?_
  refine paired.readWord.onBus.bind fun header => ?_
  refine (Relates.filling fun _ _ _ hst => ⟨hst, rfl⟩).bind fun _ => ?_
  exact paired.receiveDeclared (unpackHeader header).1 (unpackHeader header).2

theorem receiveFresh :
    Relates E R (Transfer.receiveFresh : Act ε σ Packet) Async.receiveFresh :=
  (paired.receive.withLocal Packet.empty).bind fun received => Relates.pure received.2

/-! ## Requests -/

theorem receiveAnswer (asked : Option UInt16) :
    Relates E R (Client.receiveAnswer asked : Act ε σ Packet) (Async.receiveAnswer asked) := by
  refine paired.receiveFresh.bind fun response => ?_
  exact (Client.relates_acceptAnswer response asked).bind fun _ => Relates.pure response

omit [Raises ε] in
theorem awaitAnswer (limit : Nat) :
    Relates E R (Client.awaitAnswer limit : Act ε σ (Option Nat)) (Async.awaitAnswer limit) := by
  refine Relates.firstSome (fun i => ?_) (max 1 limit) 0
  apply paired.canRead.bind
  intro ready
  cases ready with
  | true => exact Relates.pure (some i)
  | false =>
    simp only [Bool.false_eq_true, if_false]
    split
    · exact paired.wait.bind fun _ => Relates.pure none
    · exact Relates.pure none

theorem request (limits : ClientLimits) (p : Packet) :
    Relates E R (Client.request limits p : Act ε σ Packet) (Async.request limits p) := by
  refine (Relates.log (.requestStarted p.opcode)).bind fun _ => ?_
  refine (paired.send p).bind fun _ => ?_
  apply (paired.awaitAnswer limits.pollLimit.toNat).bind
  intro answered
  cases answered with
  | none => exact (Relates.log (.requestUnanswered _)).bind fun _ => Relates.fail .timeout
  | some polls =>
    refine (paired.receiveAnswer (some p.opcode)).bind fun response => ?_
    exact (Relates.log (.requestCompleted polls)).bind fun _ => Relates.pure response

theorem abort (limits : ClientLimits) :
    Relates E R (Client.abort limits : Act ε σ Unit) (Async.abort limits) := by
  refine paired.requestAbort.bind fun _ => Relates.bind ?_ fun completed => ?_
  · refine Relates.firstSome (fun _ => ?_) limits.abortLimit.toNat 0
    apply paired.abortOutstanding.bind
    intro outstanding
    cases outstanding with
    | true => exact paired.wait.bind fun _ => Relates.pure none
    | false => exact Relates.pure (some ())
  · cases completed with
    | some done => exact Relates.log .abortCompleted
    | none => exact (Relates.log (.abortUnending _)).bind fun _ => Relates.fail .abortFailed

end Paired

/-! ## Operations -/

/-- What a host can ask for. All but receiving into a buffer leave the buffer alone. -/
inductive Call : Type → Type where
  | status : Call Status
  | canRead : Call Bool
  | canWrite : Call Bool
  | abortOutstanding : Call Bool
  | writeWord (word : UInt32) : Call Unit
  | takeWord : Call UInt32
  | readWord : Call UInt32
  | completePacket : Call Unit
  | requestAbort : Call Unit
  | transmit (p : Packet) : Call Nat
  | receiveInto : Call Nat
  | send (p : Packet) : Call Nat
  | pollReady : Call Bool
  | receive : Call Packet
  | request (limits : ClientLimits) (p : Packet) : Call Packet
  | abort (limits : ClientLimits) : Call Unit

namespace Call

variable {α : Type}

/-- The operation as it is with barriers. -/
def sync [RegisterBus σ ε] [Raises ε] : Call α → Act ε (σ × Packet) α
  | status => Mailbox.status.within Transfer.busPart
  | canRead => Mailbox.canRead.within Transfer.busPart
  | canWrite => Mailbox.canWrite.within Transfer.busPart
  | abortOutstanding => Mailbox.abortOutstanding.within Transfer.busPart
  | writeWord word => (Mailbox.writeWord word).within Transfer.busPart
  | takeWord => Mailbox.takeWord.within Transfer.busPart
  | readWord => Mailbox.readWord.within Transfer.busPart
  | completePacket => Mailbox.completePacket.within Transfer.busPart
  | requestAbort => Mailbox.requestAbort.within Transfer.busPart
  | transmit p => (Transfer.send p).within Transfer.busPart
  | receiveInto => Transfer.receive
  | send p => (Client.send p).within Transfer.busPart
  | pollReady => Client.answerReady.within Transfer.busPart
  | receive => Client.receive.within Transfer.busPart
  | request limits p => (Client.request limits p).within Transfer.busPart
  | abort limits => (Client.abort limits).within Transfer.busPart

/-- The operation as it is without barriers. -/
def async [RegisterBus σ ε] [Raises ε] : Call α → Act ε (σ × Packet) α
  | status => Async.status.within Transfer.busPart
  | canRead => Async.canRead.within Transfer.busPart
  | canWrite => Async.canWrite.within Transfer.busPart
  | abortOutstanding => Async.abortOutstanding.within Transfer.busPart
  | writeWord word => (Async.writeWord word).within Transfer.busPart
  | takeWord => Async.takeWord.within Transfer.busPart
  | readWord => Async.readWord.within Transfer.busPart
  | completePacket => Async.completePacket.within Transfer.busPart
  | requestAbort => Async.requestAbort.within Transfer.busPart
  | transmit p => (Async.send p).within Transfer.busPart
  | receiveInto => Async.receive
  | send p => (Async.send p).within Transfer.busPart
  | pollReady => Async.canRead.within Transfer.busPart
  | receive => (Async.receiveAnswer none).within Transfer.busPart
  | request limits p => (Async.request limits p).within Transfer.busPart
  | abort limits => (Async.abort limits).within Transfer.busPart

/-- On buses that are paired, every operation does the same with barriers and without. -/
theorem relates [RegisterBus σ ε] [RegisterBus τ ε] [Raises ε] {E : Comparison} {R : σ → τ → Prop}
    (paired : Paired ε E R) (call : Call α) :
    Relates E (Beside R) (call.sync : Act ε (σ × Packet) α) call.async := by
  cases call with
  | status => exact paired.status.onBus
  | canRead => exact paired.canRead.onBus
  | canWrite => exact paired.canWrite.onBus
  | abortOutstanding => exact paired.abortOutstanding.onBus
  | writeWord word => exact (paired.writeWord word).onBus
  | takeWord => exact paired.takeWord.onBus
  | readWord => exact paired.readWord.onBus
  | completePacket => exact paired.completePacket.onBus
  | requestAbort => exact paired.requestAbort.onBus
  | transmit p => exact (paired.send p).onBus
  | receiveInto => exact paired.receive
  | send p => exact (paired.send p).onBus
  | pollReady => exact paired.canRead.onBus
  | receive => exact (paired.receiveAnswer none).onBus
  | request limits p => exact (paired.request limits p).onBus
  | abort limits => exact (paired.abort limits).onBus

end Call

/-! ## A bus that ignores barriers -/

/-- A bus that ignores barriers, beside the bus itself. -/
theorem paired_unfenced [RegisterBus σ ε] :
    Paired ε .equal fun (u : Unfenced σ) (s : σ) => u.bus = s where
  read r := by
    rintro ⟨s⟩ _ rfl
    exact ⟨rfl, rfl, rfl⟩
  write r value := by
    rintro ⟨s⟩ _ rfl
    exact ⟨rfl, rfl, rfl⟩
  barrier := by
    rintro ⟨s⟩ _ rfl
    exact ⟨rfl, rfl, rfl⟩
  wait := by
    rintro ⟨s⟩ _ rfl
    exact ⟨rfl, rfl, rfl⟩

/-- The operations without barriers are those with barriers, run on a bus that ignores them. -/
theorem Call.async_eq {α : Type} [RegisterBus σ ε] [Raises ε] (call : Call α) :
    (call.async : Act ε (σ × Packet) α) =
      call.sync.within fun (bus, p) => ((Unfenced.mk bus, p), fun (u, p) => (u.bus, p)) := by
  ext ⟨bus, p⟩
  have runs := call.relates paired_unfenced (⟨bus⟩, p) (bus, p) ⟨rfl, rfl⟩
  rw [within_apply]
  dsimp only
  generalize call.sync (Unfenced.mk bus, p) = o at runs ⊢
  generalize call.async (bus, p) = o' at runs ⊢
  obtain ⟨result, ⟨u, own⟩, events⟩ := o
  obtain ⟨result', ⟨s, own'⟩, events'⟩ := o'
  obtain ⟨rfl, ⟨rfl, rfl⟩, rfl⟩ := runs
  rfl

/-! ## A bus that counts barriers -/

/-- A bus with barriers that only count. -/
structure Fenced (σ : Type) where
  bus : σ
  barriers : Nat

namespace Fenced

def busPart : Fenced σ → σ × (σ → Fenced σ)
  | ⟨bus, barriers⟩ => (bus, fun bus => ⟨bus, barriers⟩)

instance [RegisterBus σ ε] : RegisterBus (Fenced σ) ε where
  read r := (RegisterBus.read r).within busPart
  write r value := (RegisterBus.write r value).within busPart
  barrier := Act.modify fun s => { s with barriers := s.barriers + 1 }
  pause := pure ()

end Fenced

/-- Events that say no more than that time passes. -/
def isWait : Event → Bool
  | .pause | .access .barrier => true
  | _ => false

/-- What a host does, waiting apart. -/
def unhurried : Comparison :=
  .apartFrom isWait

def isAccess : Transaction ε → Bool
  | .barrier => false
  | .read .. | .write .. => true

/-- The same bus after the same reads and writes. -/
def SameAccesses (s : Recorded (Fenced σ) ε) (t : Recorded σ ε) : Prop :=
  s.bus.bus = t.bus ∧ s.trace.filter isAccess = t.trace

/-- A bus that counts barriers beside one that has none, both recorded. -/
theorem paired_fenced [RegisterBus σ ε] :
    Paired ε unhurried (SameAccesses : Recorded (Fenced σ) ε → Recorded σ ε → Prop) where
  read r := by
    rintro ⟨⟨bus, n⟩, trace⟩ ⟨_, _⟩ ⟨rfl, rfl⟩
    refine ⟨rfl, ⟨rfl, ?_⟩, rfl⟩
    exact List.filter_append ..
  write r value := by
    rintro ⟨⟨bus, n⟩, trace⟩ ⟨_, _⟩ ⟨rfl, rfl⟩
    refine ⟨rfl, ⟨rfl, ?_⟩, rfl⟩
    exact List.filter_append ..
  barrier := by
    rintro ⟨⟨bus, n⟩, trace⟩ ⟨_, _⟩ ⟨rfl, rfl⟩
    refine ⟨rfl, ⟨rfl, ?_⟩, rfl⟩
    exact (List.filter_append ..).trans (List.append_nil _)
  wait := by
    rintro ⟨⟨bus, n⟩, trace⟩ ⟨_, _⟩ ⟨rfl, rfl⟩
    exact ⟨rfl, ⟨rfl, rfl⟩, rfl⟩

/-! ## A simulated endpoint -/

/-- The same endpoint behind the same tap, whatever number of barriers it has seen. -/
def SameButBarriers (s t : TappedBus Endpoint) : Prop :=
  ∃ n, s = { t with bus := { t.bus with barrierCount := n } }

theorem read_barrierCount (e : Endpoint) (n : Nat) (r : Register) :
    { e with barrierCount := n }.read r =
      ((e.read r).1, { (e.read r).2 with barrierCount := n }) := by
  cases r with
  | rdata =>
    unfold Endpoint.read
    cases e.inbound with
    | nil => rfl
    | cons word rest => rfl
  | wdata | status | abort | done => rfl

theorem write_barrierCount (e : Endpoint) (n : Nat) (r : Register) (value : UInt32) :
    { e with barrierCount := n }.write r value = { e.write r value with barrierCount := n } := by
  unfold Endpoint.write Endpoint.store Endpoint.writeAbort Endpoint.hasRoom
  cases r <;> grind

theorem paired_tapped : Paired Error unhurried SameButBarriers where
  read r := by
    rintro _ t ⟨n, rfl⟩
    rw [TappedBus.read_apply, TappedBus.read_apply]
    dsimp only
    rw [read_barrierCount]
    split
    · exact ⟨rfl, ⟨n, rfl⟩, rfl⟩
    · exact ⟨rfl, ⟨n, rfl⟩, rfl⟩
  write r value := by
    rintro _ t ⟨n, rfl⟩
    rw [TappedBus.write_apply, TappedBus.write_apply]
    dsimp only
    rw [write_barrierCount]
    split
    · exact ⟨rfl, ⟨n, rfl⟩, rfl⟩
    · exact ⟨rfl, ⟨n, rfl⟩, rfl⟩
  barrier := by
    rintro _ t ⟨n, rfl⟩
    exact ⟨rfl, ⟨n + 1, rfl⟩, rfl⟩
  wait := by
    rintro _ t ⟨n, rfl⟩
    exact ⟨rfl, ⟨n, rfl⟩, rfl⟩

/-! ## Both sides -/

/-- Without barriers a host does what it does with them. On every bus, whatever its registers answer
and whichever accesses fail, an operation gives the same result, leaves the same in the buffer and
the bus in the same state, and makes the same reads and writes in the same order; so it does at an
endpoint in memory, where no more than the number of barriers tells the two apart. -/
theorem sync_and_async_agree {α : Type} (call : Call α) (buffer : Packet) :
    (∀ {σ ε : Type} [RegisterBus σ ε] [Raises ε] (bus : σ), ∃ r s n p trace shown shown',
      (call.sync : Act ε (Recorded (Fenced σ) ε × Packet) α) (.fresh ⟨bus, 0⟩, buffer) =
        ⟨r, (⟨⟨s, n⟩, trace⟩, p), shown⟩ ∧
      (call.async : Act ε (Recorded σ ε × Packet) α) (.fresh bus, buffer) =
        ⟨r, (⟨s, trace.filter isAccess⟩, p), shown'⟩ ∧
      unhurried.Holds shown shown') ∧
    ∀ mailbox : TappedBus Endpoint, ∃ r s n p shown shown',
      call.sync (mailbox, buffer) =
        ⟨r, ({ s with bus := { s.bus with barrierCount := n } }, p), shown⟩ ∧
      call.async (mailbox, buffer) = ⟨r, (s, p), shown'⟩ ∧ unhurried.Holds shown shown' := by
  constructor
  · intro σ ε _ _ bus
    have runs := call.relates (ε := ε) paired_fenced (.fresh (Fenced.mk bus 0), buffer)
      (.fresh bus, buffer) ⟨⟨rfl, rfl⟩, rfl⟩
    rcases sync : (call.sync : Act ε (Recorded (Fenced σ) ε × Packet) α)
      (.fresh ⟨bus, 0⟩, buffer) with ⟨r, ⟨⟨⟨s, n⟩, trace⟩, p⟩, shown⟩
    rcases async : (call.async : Act ε (Recorded σ ε × Packet) α) (.fresh bus, buffer) with
      ⟨r', ⟨⟨s', trace'⟩, p'⟩, shown'⟩
    rw [sync, async] at runs
    obtain ⟨rfl, ⟨⟨rfl, rfl⟩, rfl⟩, events⟩ := runs
    exact ⟨r, s, n, p, trace, shown, shown', rfl, rfl, events⟩
  · intro mailbox
    have runs := call.relates paired_tapped (mailbox, buffer) (mailbox, buffer) ⟨⟨_, rfl⟩, rfl⟩
    rcases sync : call.sync (mailbox, buffer) with ⟨r, ⟨s, p⟩, shown⟩
    rcases async : call.async (mailbox, buffer) with ⟨r', ⟨s', p'⟩, shown'⟩
    rw [sync, async] at runs
    obtain rfl : r = r' := runs.result
    obtain rfl : p = p' := runs.state.2
    obtain ⟨n, same⟩ : SameButBarriers s s' := runs.state.1
    rw [same]
    exact ⟨r, s', n, p, shown, shown', rfl, rfl, runs.shown⟩

end Coprocessor.Async
