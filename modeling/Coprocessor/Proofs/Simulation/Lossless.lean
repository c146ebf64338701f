import Coprocessor.Proofs.Mailbox.Alike
import Coprocessor.Proofs.Mailbox.FlowControl
import Coprocessor.Simulation.Wire

/-!
No word is lost on a wire, none is doubled and none overtakes another. Each end keeps a ledger of
the words that its outbound queue took and of those that were read from its inbound queue; ledgers
only watch. What one end took is what the other has read, then what waits there, then what was not
yet delivered.
-/
namespace Coprocessor

open Act

/-! ## Ledgers -/

/-- An endpoint and the words that went through its queues, the oldest first. -/
structure Ledger where
  endpoint : Endpoint
  /-- Words that the outbound queue took. -/
  accepted : List UInt32
  /-- Words of the inbound queue that were read. -/
  popped : List UInt32

namespace Ledger

def endpointPart : Ledger → Endpoint × (Endpoint → Ledger)
  | ⟨endpoint, accepted, popped⟩ => (endpoint, fun endpoint => ⟨endpoint, accepted, popped⟩)

/-- A ledger with nothing in it. -/
def fresh (endpoint : Endpoint) : Ledger :=
  ⟨endpoint, [], []⟩

/-- Reads a register; a word that the inbound queue gives up is entered. -/
def read (l : Ledger) (r : Register) : UInt32 × Ledger :=
  match l.endpoint.read r with
  | (value, endpoint) =>
    (value, { l with endpoint,
                     popped := if r = .rdata ∧ l.endpoint.inbound ≠ [] then l.popped ++ [value]
                       else l.popped })

/-- Writes a register; a word that the outbound queue takes is entered. -/
def write (l : Ledger) (r : Register) (value : UInt32) : Ledger :=
  { l with endpoint := l.endpoint.write r value,
           accepted := if r = .wdata ∧ l.endpoint.hasRoom then l.accepted ++ [value]
             else l.accepted }

instance : RegisterBus Ledger Error where
  read r := fun l => match l.read r with
    | (value, l) => ⟨.ok value, l, []⟩
  write r value := Act.modify (·.write r value)
  barrier := RegisterBus.barrier.within endpointPart
  pause := RegisterBus.pause.within endpointPart

/-- After `delivered` went out to the peer and `arrived` came from there, the ledger agrees with the
queues. -/
structure Agrees (delivered arrived : List UInt32) (l : Ledger) : Prop where
  accepted : l.accepted = delivered ++ l.endpoint.outbound
  popped : arrived = l.popped ++ l.endpoint.inbound

variable {delivered arrived : List UInt32} {l : Ledger}

theorem Agrees.fresh {e : Endpoint} (inbound : e.inbound = []) (outbound : e.outbound = []) :
    Agrees [] [] (fresh e) :=
  ⟨outbound.symm, inbound.symm⟩

theorem Agrees.read (h : Agrees delivered arrived l) (r : Register) :
    Agrees delivered arrived (l.read r).2 := by
  cases r with
  | rdata =>
    cases waiting : l.endpoint.inbound with
    | nil =>
      refine ⟨?_, ?_⟩
      · simp [Ledger.read, Endpoint.read_rdata_of_nil waiting, h.accepted]
      · simp [Ledger.read, Endpoint.read_rdata_of_nil waiting, h.popped, waiting]
    | cons word rest =>
      refine ⟨?_, ?_⟩
      · simp [Ledger.read, Endpoint.read_rdata_of_cons waiting, h.accepted]
      · simp [Ledger.read, Endpoint.read_rdata_of_cons waiting, h.popped, waiting]
  | wdata | status | abort | done => exact ⟨h.accepted, h.popped⟩

theorem Agrees.write (h : Agrees delivered arrived l) (r : Register) (value : UInt32) :
    Agrees delivered arrived (l.write r value) where
  accepted := by
    simp only [Ledger.write, Endpoint.outbound_write, h.accepted]
    split
    · exact List.append_assoc ..
    · rfl
  popped := by
    simp only [Ledger.write, Endpoint.inbound_write, h.popped]

/-- The outbound queue is full, with this before it in the ledger. -/
structure Full (accepted outbound : List UInt32) (l : Ledger) : Prop where
  full : l.endpoint.hasRoom = false
  accepted : l.accepted = accepted
  outbound : l.endpoint.outbound = outbound

variable {accepted outbound : List UInt32}

theorem Full.read (h : Full accepted outbound l) (r : Register) :
    Full accepted outbound (l.read r).2 := by
  obtain ⟨inbound, rxError, same⟩ := l.endpoint.exists_read r
  have read : (l.read r).2.endpoint = { l.endpoint with inbound, rxError } := same
  refine ⟨?_, h.accepted, ?_⟩
  · rw [read]
    exact h.full
  · rw [read]
    exact h.outbound

/-- Nothing gets into a full queue. -/
theorem Full.write (h : Full accepted outbound l) (r : Register) (value : UInt32) :
    Full accepted outbound (l.write r value) := by
  have refused : ¬ (r = .wdata ∧ l.endpoint.hasRoom = true) := by simp [h.full]
  have same : (l.endpoint.write r value).outbound = l.endpoint.outbound := by
    rw [Endpoint.outbound_write, if_neg refused]
  refine ⟨?_, ?_, same.trans h.outbound⟩
  · have full := h.full
    simp only [Ledger.write, Endpoint.hasRoom, same, Endpoint.depth_write] at full ⊢
    exact full
  · simp only [Ledger.write, if_neg refused, h.accepted]

end Ledger

/-! ## Operations of one end -/

/-- What can be asked of one end of a wire. -/
inductive PortCall where
  | read (r : Register)
  | write (r : Register) (value : UInt32)
  | barrier
  | pause
  | status
  | canRead
  | canWrite
  | abortOutstanding
  | errors
  | writeWord (word : UInt32)
  | takeWord
  | readWord
  | completePacket
  | acknowledgeAbort
  | requestAbort
  | send (p : Packet)
  | receive (into : Packet)

namespace PortCall

variable {σ τ ε : Type}

/-- Performs the operation, whatever becomes of it. -/
def run [RegisterBus σ ε] [Raises ε] : PortCall → Act ε σ Unit
  | read r => RegisterBus.read r >>= fun _ => pure ()
  | write r value => RegisterBus.write r value
  | barrier => Mailbox.barrier
  | pause => Mailbox.pause
  | status => Mailbox.status >>= fun _ => pure ()
  | canRead => Mailbox.canRead >>= fun _ => pure ()
  | canWrite => Mailbox.canWrite >>= fun _ => pure ()
  | abortOutstanding => Mailbox.abortOutstanding >>= fun _ => pure ()
  | errors => Mailbox.errors >>= fun _ => pure ()
  | writeWord word => Mailbox.writeWord word
  | takeWord => Mailbox.takeWord >>= fun _ => pure ()
  | readWord => Mailbox.readWord >>= fun _ => pure ()
  | completePacket => Mailbox.completePacket
  | acknowledgeAbort => Mailbox.acknowledgeAbort
  | requestAbort => Mailbox.requestAbort
  | send p => Transfer.send p >>= fun _ => pure ()
  | receive into => Act.withLocal into Transfer.receive >>= fun _ => pure ()

/-- What every access keeps, every operation keeps. -/
theorem keeps [RegisterBus σ ε] [Raises ε] {P : σ → Prop}
    (reads : ∀ r, Keeps P (RegisterBus.read r : Act ε σ UInt32))
    (writes : ∀ r value, Keeps P (RegisterBus.write r value : Act ε σ Unit))
    (barrier : Keeps P (Mailbox.barrier : Act ε σ Unit))
    (pause : Keeps P (Mailbox.pause : Act ε σ Unit)) (call : PortCall) :
    Keeps P (call.run : Act ε σ Unit) := by
  have ended {α : Type} {x : Act ε σ α} (h : Keeps P x) :
      Keeps P (x >>= fun _ => Pure.pure () : Act ε σ Unit) :=
    h.bind fun _ => Keeps.pure ()
  have checked : Keeps P (Mailbox.status : Act ε σ Status) :=
    (reads .status).bind fun _ => Keeps.pure _
  have others (r : Register) (value : UInt32) (_ : r ≠ .abort) :
      Keeps P (RegisterBus.write r value : Act ε σ Unit) :=
    writes r value
  cases call with
  | read r => exact ended (reads r)
  | write r value => exact writes r value
  | barrier => exact barrier
  | pause => exact pause
  | status => exact ended checked
  | canRead | canWrite | abortOutstanding | errors =>
    exact ended (checked.bind fun _ => Keeps.pure _)
  | writeWord word => exact Transfer.keeps_writeWord (reads .status) others barrier word
  | takeWord => exact ended (Mailbox.keeps_takeWord reads)
  | readWord => exact ended (Mailbox.keeps_readWord reads)
  | completePacket => exact barrier.bind fun _ => (writes .done 1).bind fun _ => barrier
  | acknowledgeAbort | requestAbort => exact (writes .abort 1).bind fun _ => barrier
  | send p => exact ended (Transfer.keeps_send (reads .status) others barrier p)
  | receive into => exact ended (Keeps.withLocal (Transfer.keeps_receive reads) into)

/-- Where every access is the same on two buses, every operation is. -/
theorem relates [RegisterBus σ ε] [RegisterBus τ ε] [Raises ε] {E : Comparison} {R : σ → τ → Prop}
    (reads : ∀ r, Relates E R (RegisterBus.read r : Act ε σ UInt32) (RegisterBus.read r))
    (writes : ∀ r value, Relates E R (RegisterBus.write r value : Act ε σ Unit)
      (RegisterBus.write r value))
    (barrier : Relates E R (Mailbox.barrier : Act ε σ Unit) Mailbox.barrier)
    (pause : Relates E R (Mailbox.pause : Act ε σ Unit) Mailbox.pause) (call : PortCall) :
    Relates E R (call.run : Act ε σ Unit) call.run := by
  have ended {α : Type} {x : Act ε σ α} {y : Act ε τ α} (h : Relates E R x y) :
      Relates E R (x >>= fun _ => Pure.pure ()) (y >>= fun _ => Pure.pure ()) :=
    h.bind fun _ => Relates.pure ()
  have checked : Relates E R (Mailbox.status : Act ε σ Status) Mailbox.status :=
    (reads .status).bind fun _ => Relates.pure _
  have alike : Transfer.Alike ε E R :=
    ⟨reads .rdata, checked.bind fun _ => Relates.pure _, checked.bind fun _ => Relates.pure _,
      writes .wdata, writes .done 1, barrier⟩
  cases call with
  | read r => exact ended (reads r)
  | write r value => exact writes r value
  | barrier => exact barrier
  | pause => exact pause
  | status => exact ended checked
  | canRead | canWrite | abortOutstanding | errors =>
    exact ended (checked.bind fun _ => Relates.pure _)
  | writeWord word => exact alike.writeWord word
  | takeWord => exact ended alike.takeWord
  | readWord => exact ended alike.readWord
  | completePacket => exact alike.completePacket
  | acknowledgeAbort | requestAbort => exact (writes .abort 1).bind fun _ => barrier
  | send p => exact ended (alike.send p)
  | receive into => exact ended (alike.receive.withLocal into)

end PortCall

/-! ## Tapped ledgers -/

namespace TappedBus

variable {σ : Type}

/-- What every operation keeps of a bus, it keeps of the bus behind a tap. -/
theorem keeps_call [RegisterBus σ Error] {P : σ → Prop}
    (reads : ∀ r, Keeps P (RegisterBus.read r : Act Error σ UInt32))
    (writes : ∀ r value, Keeps P (RegisterBus.write r value : Act Error σ Unit))
    (barrier : Keeps P (RegisterBus.barrier : Act Empty σ Unit))
    (pause : Keeps P (RegisterBus.pause : Act Empty σ Unit)) (call : PortCall) :
    Keeps (fun t : TappedBus σ => P t.bus) (call.run : Act Error (TappedBus σ) Unit) := by
  have behind {ε α : Type} {x : Act ε σ α} (h : Keeps P x) :
      Keeps (fun t : TappedBus σ => P t.bus) (x.within busPart) :=
    h.within (fun _ ht => ht) fun _ _ _ hs => hs
  have struck (k : AccessKind) :
      Keeps (fun t : TappedBus σ => P t.bus) (strikes k : Act Error (TappedBus σ) Bool) :=
    fun _ ht => ht
  have emitted {ε : Type} (event : Event) :
      Keeps (fun t : TappedBus σ => P t.bus) (Act.emit event : Act ε (TappedBus σ) Unit) :=
    fun _ ht => ht
  apply PortCall.keeps
  · intro r
    refine (struck (.read r)).bind fun hit => Keeps.ite ?_ ?_
    · exact (emitted _).bind fun _ => Keeps.fail .io
    · refine (behind (reads r)).bind fun value => Keeps.bind (x := Act.get) (fun _ ht => ht) ?_
      intro t
      exact (emitted _).bind fun _ => Keeps.pure _
  · intro r value
    refine (struck (.write r)).bind fun hit => Keeps.ite ?_ ?_
    · exact (emitted _).bind fun _ => Keeps.fail .io
    · exact (behind (writes r value)).bind fun _ => emitted _
  · exact ((behind barrier).bind fun _ => emitted _).mapFailure _
  · exact (behind pause).mapFailure _

end TappedBus

namespace Ledger

theorem keeps_agrees {delivered arrived : List UInt32} (call : PortCall) :
    Keeps (fun t : TappedBus Ledger => t.bus.Agrees delivered arrived)
      (call.run : Act Error (TappedBus Ledger) Unit) := by
  apply TappedBus.keeps_call
  · intro r l agrees
    exact agrees.read r
  · intro r value l agrees
    exact agrees.write r value
  · intro l agrees
    exact ⟨agrees.accepted, agrees.popped⟩
  · intro l agrees
    exact agrees

theorem keeps_full {accepted outbound : List UInt32} (call : PortCall) :
    Keeps (fun t : TappedBus Ledger => t.bus.Full accepted outbound)
      (call.run : Act Error (TappedBus Ledger) Unit) := by
  apply TappedBus.keeps_call
  · intro r l full
    exact full.read r
  · intro r value l full
    exact full.write r value
  · intro l full
    exact ⟨full.full, full.accepted, full.outbound⟩
  · intro l full
    exact full

end Ledger

namespace TappedBus

/-- The tapped endpoint of a tapped ledger. -/
def endpointPart (t : TappedBus Ledger) :
    TappedBus Endpoint × (TappedBus Endpoint → TappedBus Ledger) :=
  (⟨t.bus.endpoint, t.held, t.passed, t.faults⟩,
    fun u => ⟨{ t.bus with endpoint := u.bus }, u.held, u.passed, u.faults⟩)

/-- The tapped endpoint as it is without a ledger. -/
def bare (t : TappedBus Ledger) : TappedBus Endpoint :=
  (endpointPart t).1

/-- The ledger only watches. -/
theorem relates_bare (call : PortCall) :
    Relates .equal (fun (t : TappedBus Ledger) u => t.bare = u)
      (call.run : Act Error (TappedBus Ledger) Unit) call.run := by
  have struck (k : AccessKind) : Relates .equal (fun (t : TappedBus Ledger) u => t.bare = u)
      (strikes k : Act Error (TappedBus Ledger) Bool) (strikes k) := by
    rintro t _ rfl
    exact ⟨rfl, rfl, rfl⟩
  apply PortCall.relates
  · intro r
    apply (struck (.read r)).bind
    intro hit
    cases hit with
    | true =>
      rintro t _ rfl
      exact ⟨rfl, rfl, rfl⟩
    | false =>
      rintro t _ rfl
      exact ⟨rfl, rfl, rfl⟩
  · intro r value
    apply (struck (.write r)).bind
    intro hit
    cases hit with
    | true =>
      rintro t _ rfl
      exact ⟨rfl, rfl, rfl⟩
    | false =>
      rintro t _ rfl
      exact ⟨rfl, rfl, rfl⟩
  · rintro t _ rfl
    exact ⟨rfl, rfl, rfl⟩
  · rintro t _ rfl
    exact ⟨rfl, rfl, rfl⟩

/-- The mask shows room whether or not there is any. -/
def ClaimsRoom (t : TappedBus Endpoint) : Prop :=
  t.held &&& t.passed &&& Status.txAvailableBit ≠ 0

theorem txAvailable_shown {t : TappedBus Endpoint} (full : t.bus.hasRoom = false)
    (honest : ¬ t.ClaimsRoom) :
    (Status.mk (t.shown .status t.bus.status.bits)).txAvailable = false := by
  have unset : t.bus.status.bits &&& Status.txAvailableBit = 0 := by
    have no := (Endpoint.txAvailable_status t.bus).trans full
    simpa [Status.txAvailable] using no
  have split : (t.bus.status.bits ||| t.held) &&& t.passed &&& Status.txAvailableBit =
      (t.bus.status.bits &&& Status.txAvailableBit) &&& t.passed |||
        t.held &&& t.passed &&& Status.txAvailableBit := by
    apply UInt32.toBitVec_inj.1
    ext i hi
    simp
    grind
  have claimed : t.held &&& t.passed &&& Status.txAvailableBit = 0 := not_not.mp honest
  rw [unset, claimed] at split
  simp [Status.txAvailable, shown, split]

/-- A word for which there is no room is refused, unless the mask shows room. -/
theorem run_writeWord_refused {t : TappedBus Endpoint} (full : t.bus.hasRoom = false)
    (word : UInt32) :
    ((Fault.strike t.faults (.read .status)).1 = true →
      ((Mailbox.writeWord word : Act Error (TappedBus Endpoint) Unit).run t).1 = .error .io) ∧
    ((Fault.strike t.faults (.read .status)).1 = false → ¬ t.ClaimsRoom →
      ((Mailbox.writeWord word : Act Error (TappedBus Endpoint) Unit).run t).1 =
        .error .channelNotReady) := by
  have reads := run_read .status t
  refine ⟨fun struck => ?_, fun quiet honest => ?_⟩
  · rw [if_pos struck] at reads
    have checks : (Mailbox.canWrite : Act Error (TappedBus Endpoint) Bool).run t = (.error .io, _) :=
      run_bind_error (run_bind_error reads _) _
    rw [Mailbox.writeWord, run_bind_error checks]
  · rw [if_neg (by simp [quiet])] at reads
    have checks : (Mailbox.canWrite : Act Error (TappedBus Endpoint) Bool).run t = (.ok false, _) :=
      (run_bind_ok (run_bind_ok reads _) _).trans (by rw [← txAvailable_shown full honest]; rfl)
    rw [Mailbox.writeWord, run_bind_ok checks]
    rfl

end TappedBus

/-! ## Histories of a wire -/

namespace Side

def other : Side → Side
  | left => right
  | right => left

theorem other_other (s : Side) : s.other.other = s := by
  cases s <;> rfl

end Side

/-- A change that is made to one end from outside. None of them moves a word. -/
inductive Setting where
  | depth (n : Nat)
  | mask (held passed : UInt32)
  | fault (f : Fault AccessKind)
  | clearFaults
  | abortByPeer
  | autoAcknowledge (completes : Bool)

def Setting.apply (t : TappedBus Endpoint) : Setting → TappedBus Endpoint
  | depth n => { t with bus.depth := n }
  | mask held passed => t.mask held passed
  | fault f => t.addFault f
  | clearFaults => t.clearFaults
  | abortByPeer => { t with bus := t.bus.abortByPeer }
  | autoAcknowledge completes => { t with bus.autoAcknowledge := completes }

/-- One step of a wire. -/
inductive WireStep where
  | call (s : Side) (call : PortCall)
  | set (s : Side) (setting : Setting)
  | deliver (s : Side)

def Wire.step (w : Wire) : WireStep → Wire
  | .call s call =>
    (((call.run : Act Error (TappedBus Endpoint) Unit).within (Wire.part s)).run w).2
  | .set s setting => (w.part s).2 (setting.apply (w.part s).1)
  | .deliver s => w.deliver s

/-- A wire with a ledger at each end. -/
abbrev History : Type :=
  Side → TappedBus Ledger

namespace History

/-- The wire as it is without ledgers. -/
def wire (h : History) : Wire :=
  ⟨(h .left).bare, (h .right).bare⟩

/-- A wire with nothing in its ledgers. -/
def start (w : Wire) : History := fun s =>
  ⟨.fresh (w.tap s).bus, (w.tap s).held, (w.tap s).passed, (w.tap s).faults⟩

def set (h : History) (s : Side) (t : TappedBus Ledger) : History := fun side =>
  if side = s then t else h side

def setEndpoint (h : History) (s : Side) (e : Endpoint) : History :=
  h.set s { h s with bus.endpoint := e }

def step (h : History) : WireStep → History
  | .call s call => h.set s ((call.run : Act Error (TappedBus Ledger) Unit).run (h s)).2
  | .set s setting =>
    h.set s ((TappedBus.endpointPart (h s)).2 (setting.apply (TappedBus.endpointPart (h s)).1))
  | .deliver s =>
    match (h s).bus.endpoint.deliver (h s.other).bus.endpoint with
    | (e, peer) => (h.setEndpoint s e).setEndpoint s.other peer

/-- The ledgers only watch. -/
theorem wire_step (h : History) (x : WireStep) : (h.step x).wire = h.wire.step x := by
  cases x with
  | call s call =>
    have runs := TappedBus.relates_bare call (h s) (h s).bare rfl
    cases s with
    | left => exact congrArg (Wire.mk · (h .right).bare) runs.state
    | right => exact congrArg (Wire.mk (h .left).bare) runs.state
  | set s setting =>
    cases s with
    | left => rfl
    | right => rfl
  | deliver s =>
    cases s with
    | left => rfl
    | right => rfl

theorem wire_foldl_step (h : History) (steps : List WireStep) :
    (steps.foldl step h).wire = steps.foldl Wire.step h.wire := by
  induction steps generalizing h with
  | nil => rfl
  | cons x rest ih =>
    rw [List.foldl_cons, List.foldl_cons, ih, wire_step]

/-- What each side has put across so far is what its ledger and that of the other side say. -/
def Agrees (delivered : Side → List UInt32) (h : History) : Prop :=
  ∀ s, (h s).bus.Agrees (delivered s) (delivered s.other)

theorem Agrees.set {delivered : Side → List UInt32} {h : History} (agrees : Agrees delivered h)
    (s : Side) {t : TappedBus Ledger} (ends : t.bus.Agrees (delivered s) (delivered s.other)) :
    Agrees delivered (h.set s t) := by
  intro side
  unfold History.set
  split
  · next same => exact same ▸ ends
  · exact agrees side

theorem Agrees.deliver {delivered : Side → List UInt32} {h : History} (agrees : Agrees delivered h)
    (s : Side) : Agrees (fun side => if side = s then (h s).bus.accepted else delivered side)
      (h.step (.deliver s)) := by
  intro side
  cases s with
  | left =>
    have near : (h .left).bus.Agrees (delivered .left) (delivered .right) := agrees .left
    have far : (h .right).bus.Agrees (delivered .right) (delivered .left) := agrees .right
    cases side with
    | left => exact ⟨(List.append_nil _).symm, near.popped⟩
    | right =>
      refine ⟨far.accepted, near.accepted.trans ?_⟩
      rw [far.popped]
      exact List.append_assoc ..
  | right =>
    have near : (h .right).bus.Agrees (delivered .right) (delivered .left) := agrees .right
    have far : (h .left).bus.Agrees (delivered .left) (delivered .right) := agrees .left
    cases side with
    | left =>
      refine ⟨far.accepted, near.accepted.trans ?_⟩
      rw [far.popped]
      exact List.append_assoc ..
    | right => exact ⟨(List.append_nil _).symm, near.popped⟩

theorem Agrees.step {delivered : Side → List UInt32} {h : History} (agrees : Agrees delivered h)
    (x : WireStep) : ∃ delivered, Agrees delivered (h.step x) := by
  cases x with
  | call s call =>
    exact ⟨delivered, agrees.set s (Ledger.keeps_agrees call (h s) (agrees s))⟩
  | set s setting =>
    refine ⟨delivered, agrees.set s ?_⟩
    have ends := agrees s
    cases setting with
    | depth | mask | fault | clearFaults | abortByPeer | autoAcknowledge =>
      exact ⟨ends.accepted, ends.popped⟩
  | deliver s => exact ⟨_, agrees.deliver s⟩

theorem Agrees.steps {delivered : Side → List UInt32} {h : History} (agrees : Agrees delivered h)
    (steps : List WireStep) : ∃ delivered, Agrees delivered (steps.foldl History.step h) := by
  induction steps generalizing delivered h with
  | nil => exact ⟨delivered, agrees⟩
  | cons x rest ih =>
    obtain ⟨delivered', agrees'⟩ := agrees.step x
    exact ih agrees'

end History

/-- The wire after some steps. -/
def Wire.after (w : Wire) (steps : List WireStep) : Wire :=
  steps.foldl Wire.step w

/-- The wire after some steps, with ledgers of all of them. -/
def Wire.history (w : Wire) (steps : List WireStep) : History :=
  steps.foldl History.step (.start w)

/-- A wire loses nothing. Whatever is done at its two ends, and whenever words are delivered: what
one side got into its outbound queue is what the other side has read, then what waits there, then
what is not yet delivered. Into a full queue nothing gets, and a word for it is refused, unless an
access fails or the mask shows room. -/
theorem Wire.lossless {w : Wire}
    (empty : ∀ s, (w.tap s).bus.inbound = [] ∧ (w.tap s).bus.outbound = [])
    (steps : List WireStep) :
    (w.history steps).wire = w.after steps ∧
    (∀ s, (w.history steps s).bus.accepted = (w.history steps s.other).bus.popped ++
      ((w.after steps).tap s.other).bus.inbound ++ ((w.after steps).tap s).bus.outbound) ∧
    ∀ s, ((w.after steps).tap s).bus.hasRoom = false →
      (∀ call,
        (w.history (steps ++ [.call s call]) s).bus.accepted =
          (w.history steps s).bus.accepted ∧
        ((w.after (steps ++ [.call s call])).tap s).bus.outbound =
          ((w.after steps).tap s).bus.outbound) ∧
      ∀ word,
        ((Fault.strike ((w.after steps).tap s).faults (.read .status)).1 = true →
          ((Mailbox.writeWord word : Act Error (TappedBus Endpoint) Unit).run
            ((w.after steps).tap s)).1 = .error .io) ∧
        ((Fault.strike ((w.after steps).tap s).faults (.read .status)).1 = false →
          ¬ ((w.after steps).tap s).ClaimsRoom →
          ((Mailbox.writeWord word : Act Error (TappedBus Endpoint) Unit).run
            ((w.after steps).tap s)).1 = .error .channelNotReady) := by
  have watched (steps : List WireStep) : (w.history steps).wire = w.after steps :=
    (History.start w).wire_foldl_step steps
  have tap (steps : List WireStep) (s : Side) :
      (w.after steps).tap s = (w.history steps s).bare := by
    rw [← watched]
    cases s with
    | left => rfl
    | right => rfl
  refine ⟨watched steps, fun s => ?_, fun s full => ⟨fun call => ?_, fun word => ?_⟩⟩
  · have begins : (History.start w).Agrees fun _ => [] :=
      fun s => .fresh (empty s).1 (empty s).2
    obtain ⟨delivered, agrees⟩ := begins.steps steps
    have sender : (w.history steps s).bus.accepted = _ := (agrees s).accepted
    have receiver := (agrees s.other).popped
    rw [s.other_other] at receiver
    rw [sender, receiver, tap, tap]
    rfl
  · rw [tap] at full
    have still := Ledger.keeps_full call (w.history steps s) ⟨full, rfl, rfl⟩
    have last : w.history (steps ++ [.call s call]) = (w.history steps).step (.call s call) :=
      List.foldl_concat ..
    rw [tap, tap, last, History.step, History.set, if_pos rfl]
    exact ⟨still.accepted, still.outbound⟩
  · exact TappedBus.run_writeWord_refused full word

/-- Two words over a queue that holds one. -/
theorem Wire.lossless_twoWords :
    (∀ s, ((Wire.idle 1).tap s).bus.inbound = [] ∧ ((Wire.idle 1).tap s).bus.outbound = []) ∧
    ((Wire.idle 1).history [.call .left (.writeWord 7), .deliver .left, .call .right .takeWord,
      .call .left (.writeWord 8), .call .left (.writeWord 9)] .left).bus.accepted = [7] ++ [] ++ [8] :=
  have empty : ∀ s, ((Wire.idle 1).tap s).bus.inbound = [] ∧
      ((Wire.idle 1).tap s).bus.outbound = [] := by
    intro s
    cases s with
    | left | right => exact ⟨rfl, rfl⟩
  ⟨empty, (Wire.lossless empty _).2.1 .left⟩

end Coprocessor
