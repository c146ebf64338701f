import Coprocessor.Async
import Coprocessor.Proofs.Host.Acceptance
import Coprocessor.Proofs.Mailbox.Program
import Coprocessor.Proofs.Mailbox.Reception

/-!
A host's session with its client: sends, polls, receptions, requests and aborts in any order, each
tried whatever became of those before. Everything that a host does is portable, so a session is one
program on every bus.
-/
namespace Coprocessor

open Act

namespace Async

variable {α : Type}

/-! ## Words -/

theorem portable_status : Portable fun σ ε _ _ => (Async.status : Act ε σ Status) :=
  (Portable.read .status).bind fun bits => Portable.pure (Status.mk bits)

theorem portable_canRead : Portable fun σ ε _ _ => (Async.canRead : Act ε σ Bool) :=
  portable_status.bind fun s => Portable.pure s.rxAvailable

theorem portable_canWrite : Portable fun σ ε _ _ => (Async.canWrite : Act ε σ Bool) :=
  portable_status.bind fun s => Portable.pure s.txAvailable

theorem portable_abortOutstanding :
    Portable fun σ ε _ _ => (Async.abortOutstanding : Act ε σ Bool) :=
  portable_status.bind fun s => Portable.pure s.abortInProgress

theorem portable_writeWord (word : UInt32) :
    Portable fun σ ε _ _ => (Async.writeWord word : Act ε σ Unit) := by
  apply portable_canWrite.bind
  intro ready
  cases ready with
  | true => exact (Portable.write .wdata word).bind fun _ => Portable.log (.wordWritten word)
  | false => exact Portable.fail .channelNotReady

theorem portable_takeWord : Portable fun σ ε _ _ => (Async.takeWord : Act ε σ UInt32) :=
  (Portable.read .rdata).bind fun word =>
    (Portable.log (.wordRead word)).bind fun _ => Portable.pure word

theorem portable_readWord : Portable fun σ ε _ _ => (Async.readWord : Act ε σ UInt32) := by
  apply portable_canRead.bind
  intro ready
  cases ready with
  | true => exact portable_takeWord
  | false => exact Portable.fail .channelNotReady

/-! ## Packets -/

theorem portable_writeWords (words : List UInt32) :
    Portable fun σ ε _ _ => (Async.writeWords words : Act ε σ Unit) := by
  induction words with
  | nil => exact Portable.pure ()
  | cons word rest ih => exact (portable_writeWord word).bind fun _ => ih

theorem portable_send (p : Packet) : Portable fun σ ε _ _ => (Async.send p : Act ε σ Nat) := by
  unfold Async.send
  cases argCount p.argLen with
  | error e => exact Portable.fail e
  | ok n =>
    refine (portable_writeWord p.version).bind fun _ => (portable_writeWord p.header).bind fun _ => ?_
    refine (portable_writeWords p.args).bind fun _ => (Portable.write .done 1).bind fun _ => ?_
    exact (Portable.log (.packetSent p.opcode n)).bind fun _ => Portable.pure n

theorem portable_readArgs (n i : Nat) :
    PortableBeside fun σ ε _ _ => (Async.readArgs n i : Act ε (σ × Packet) Unit) := by
  induction n generalizing i with
  | zero => exact PortableBeside.pure ()
  | succ n ih =>
    refine (PortableBeside.onBus portable_readWord).bind fun word => ?_
    exact (PortableBeside.fill fun p : Packet =>
      { p with data := p.data.setIfInBounds i word }).bind fun _ => ih (i + 1)

theorem portable_discardWord :
    Portable fun σ ε _ _ => (Async.discardWord : Act ε σ (Option Unit)) := by
  apply portable_canRead.bind
  intro ready
  cases ready with
  | true =>
    refine portable_takeWord.bind fun word => ?_
    exact (Portable.log (.surplusWord word)).bind fun _ => Portable.pure none
  | false => exact Portable.pure (some ())

theorem portable_discardSurplus :
    Portable fun σ ε _ _ => (Async.discardSurplus : Act ε σ Unit) := by
  apply (Portable.firstSome (fun _ => portable_discardWord) Transfer.surplusLimit 0).bind
  intro finished
  cases finished with
  | some done => exact Portable.pure ()
  | none =>
    apply portable_canRead.bind
    intro more
    cases more with
    | true => exact (Portable.log (.surplusUnending _)).bind fun _ => Portable.fail .timeout
    | false => exact Portable.pure ()

theorem portable_receiveDeclared (opcode argLen : UInt16) :
    PortableBeside fun σ ε _ _ =>
      (Async.receiveDeclared opcode argLen : Act ε (σ × Packet) Nat) := by
  unfold Async.receiveDeclared
  cases argCount argLen with
  | error e =>
    exact (PortableBeside.log (.packetTooLong opcode argLen)).bind fun _ => PortableBeside.fail e
  | ok n =>
    dsimp only
    refine (PortableBeside.fill fun p : Packet => { p with argLen }).bind fun _ => ?_
    refine (portable_readArgs n 0).bind fun _ => ?_
    refine (PortableBeside.onBus portable_discardSurplus).bind fun _ => ?_
    exact (PortableBeside.log (.packetReceived opcode n)).bind fun _ => PortableBeside.pure n

theorem portable_receive :
    PortableBeside fun σ ε _ _ => (Async.receive : Act ε (σ × Packet) Nat) := by
  refine (PortableBeside.onBus portable_takeWord).bind fun version => ?_
  refine (PortableBeside.fill fun p : Packet => { p with version }).bind fun _ => ?_
  refine (PortableBeside.onBus portable_readWord).bind fun header => ?_
  refine (PortableBeside.fill fun p : Packet => { p with opcode := (unpackHeader header).1 }).bind
    fun _ => ?_
  exact portable_receiveDeclared (unpackHeader header).1 (unpackHeader header).2

theorem portable_receiveFresh :
    Portable fun σ ε _ _ => (Async.receiveFresh : Act ε σ Packet) :=
  (portable_receive Packet.empty).bind fun received => Portable.pure received.2

/-! ## Requests -/

theorem portable_acceptAnswer (response : Packet) (asked : Option UInt16) :
    Portable fun σ ε _ _ => (Client.acceptAnswer response asked : Act ε σ Unit) := by
  obtain accepts | ⟨m, refuses⟩ := Client.acceptAnswer_cases response asked
  · simp only [accepts]
    exact Portable.pure ()
  · simp only [refuses]
    exact (Portable.log m).bind fun _ => Portable.fail .invalidOpcode

theorem portable_receiveAnswer (asked : Option UInt16) :
    Portable fun σ ε _ _ => (Async.receiveAnswer asked : Act ε σ Packet) :=
  portable_receiveFresh.bind fun response =>
    (portable_acceptAnswer response asked).bind fun _ => Portable.pure response

theorem portable_awaitAnswer (limit : Nat) :
    Portable fun σ ε _ _ => (Async.awaitAnswer limit : Act ε σ (Option Nat)) := by
  refine Portable.firstSome (fun i => ?_) (max 1 limit) 0
  apply portable_canRead.bind
  intro ready
  cases ready with
  | true => exact Portable.pure (some i)
  | false =>
    by_cases later : i + 1 < limit
    · simp only [Bool.false_eq_true, if_false, if_pos later]
      exact (Portable.emit .pause).bind fun _ => Portable.pure none
    · simp only [Bool.false_eq_true, if_false, if_neg later]
      exact Portable.pure none

theorem portable_request (limits : ClientLimits) (p : Packet) :
    Portable fun σ ε _ _ => (Async.request limits p : Act ε σ Packet) := by
  refine (Portable.log (.requestStarted p.opcode)).bind fun _ => (portable_send p).bind fun _ => ?_
  apply (portable_awaitAnswer limits.pollLimit.toNat).bind
  intro answered
  cases answered with
  | none => exact (Portable.log (.requestUnanswered _)).bind fun _ => Portable.fail .timeout
  | some polls =>
    refine (portable_receiveAnswer (some p.opcode)).bind fun response => ?_
    exact (Portable.log (.requestCompleted polls)).bind fun _ => Portable.pure response

theorem portable_awaitAborted (limit : Nat) :
    Portable fun σ ε _ _ => (Async.awaitAborted limit : Act ε σ (Option Unit)) := by
  refine Portable.firstSome (fun _ => ?_) limit 0
  apply portable_abortOutstanding.bind
  intro outstanding
  cases outstanding with
  | true => exact (Portable.emit .pause).bind fun _ => Portable.pure none
  | false => exact Portable.pure (some ())

theorem portable_abort (limits : ClientLimits) :
    Portable fun σ ε _ _ => (Async.abort limits : Act ε σ Unit) := by
  refine (Portable.write .abort 1).bind fun _ => ?_
  apply (portable_awaitAborted limits.abortLimit.toNat).bind
  intro completed
  cases completed with
  | some done => exact Portable.log .abortCompleted
  | none => exact (Portable.log (.abortUnending _)).bind fun _ => Portable.fail .abortFailed

end Async

/-! ## Sessions -/

/-- What a host asks of its client. -/
inductive ClientCall where
  | send (p : Packet)
  | pollReady
  | receive
  | request (limits : ClientLimits) (p : Packet)
  | abort (limits : ClientLimits)

/-- What the client gives back. -/
inductive Reply where
  | sent (count : Nat)
  | ready (waiting : Bool)
  | answer (p : Packet)
  | aborted
  deriving DecidableEq

namespace ClientCall

variable {σ ε : Type} [RegisterBus σ ε] [Raises ε]

def run : ClientCall → Act ε σ Reply
  | send p => do return .sent (← Async.send p)
  | pollReady => do return .ready (← Async.canRead)
  | receive => do return .answer (← Async.receiveAnswer none)
  | request limits p => do return .answer (← Async.request limits p)
  | abort limits => do
    Async.abort limits
    return .aborted

/-- Calls one after the other. An error is what became of its call, and a trap ends the session. -/
def session : List ClientCall → Act Trap σ (List (Except Error Reply))
  | [] => pure []
  | call :: rest => do
    let first ← (call.run : Act ε σ Reply).settle
    return first :: (← session rest)

end ClientCall

theorem portable_call (call : ClientCall) :
    Portable fun σ ε _ _ => (call.run : Act ε σ Reply) := by
  cases call with
  | send p => exact (Async.portable_send p).bind fun count => Portable.pure (Reply.sent count)
  | pollReady => exact Async.portable_canRead.bind fun waiting => Portable.pure (Reply.ready waiting)
  | receive => exact (Async.portable_receiveAnswer none).bind fun p => Portable.pure (Reply.answer p)
  | request limits p =>
    exact (Async.portable_request limits p).bind fun answer => Portable.pure (Reply.answer answer)
  | abort limits => exact (Async.portable_abort limits).bind fun _ => Portable.pure Reply.aborted

/-- A session is one program on every bus. -/
theorem exists_program_session (calls : List ClientCall) :
    ∃ t : Program (List (Except Error Reply)), ∀ (σ ε : Type) [RegisterBus σ ε] [Raises ε]
      [LawfulRaises ε], (ClientCall.session calls : Act Trap σ _) = t.perform := by
  induction calls with
  | nil => exact ⟨.done [], fun _ _ _ _ _ => rfl⟩
  | cons call rest ih =>
    obtain ⟨first, performs⟩ := portable_call call
    obtain ⟨later, performs'⟩ := ih
    refine ⟨first.bind fun reply => later.bind fun replies => .done (reply :: replies),
      fun σ ε _ _ _ => ?_⟩
    rw [ClientCall.session, performs σ ε, performs' σ ε, Program.perform_bind]
    congr 1
    funext reply
    rw [Program.perform_bind]
    rfl

end Coprocessor
