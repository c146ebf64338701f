import Coprocessor.Proofs.Act.Relates
import Coprocessor.Proofs.Mailbox.Reception

/-!
Two buses that packets cross alike. Moving a packet takes few operations of a bus, so two buses on
which these give the same cannot be told apart by packets. How the states of the buses are related
is left open, and so is what is compared of the events.
-/
namespace Coprocessor

open Act

variable {σ τ ε : Type} [RegisterBus σ ε] [RegisterBus τ ε] [Raises ε]

namespace Transfer

/-- Two buses that packets cross alike. Of the status no more is asked than the two flow-control
bits. -/
structure Alike (ε : Type) [RegisterBus σ ε] [RegisterBus τ ε] (E : Comparison)
    (R : σ → τ → Prop) : Prop where
  take : Relates E R (RegisterBus.read .rdata : Act ε σ UInt32) (RegisterBus.read .rdata)
  canRead : Relates E R (Mailbox.canRead : Act ε σ Bool) Mailbox.canRead
  canWrite : Relates E R (Mailbox.canWrite : Act ε σ Bool) Mailbox.canWrite
  put : ∀ word, Relates E R (RegisterBus.write .wdata word : Act ε σ Unit)
    (RegisterBus.write .wdata word)
  done : Relates E R (RegisterBus.write .done 1 : Act ε σ Unit) (RegisterBus.write .done 1)
  barrier : Relates E R (Mailbox.barrier : Act ε σ Unit) Mailbox.barrier

namespace Alike

variable {E : Comparison} {R : σ → τ → Prop} (alike : Alike ε E R)
include alike

/-! ## Words -/

omit [Raises ε] in
theorem takeWord : Relates E R (Mailbox.takeWord : Act ε σ UInt32) Mailbox.takeWord :=
  alike.take.bind fun word => (Relates.log (.wordRead word)).bind fun _ => Relates.pure word

theorem readWord : Relates E R (Mailbox.readWord : Act ε σ UInt32) Mailbox.readWord := by
  apply alike.canRead.bind
  intro ready
  cases ready with
  | true => exact alike.takeWord
  | false => exact Relates.fail .channelNotReady

theorem writeWord (word : UInt32) :
    Relates E R (Mailbox.writeWord word : Act ε σ Unit) (Mailbox.writeWord word) := by
  apply alike.canWrite.bind
  intro ready
  cases ready with
  | true =>
    exact (alike.put word).bind fun _ => alike.barrier.bind fun _ => Relates.log (.wordWritten word)
  | false => exact Relates.fail .channelNotReady

omit [Raises ε] in
theorem completePacket :
    Relates E R (Mailbox.completePacket : Act ε σ Unit) Mailbox.completePacket :=
  alike.barrier.bind fun _ => alike.done.bind fun _ => alike.barrier

/-! ## Packets -/

theorem writeWords (words : List UInt32) :
    Relates E R (writeWords words : Act ε σ Unit) (writeWords words) := by
  induction words with
  | nil => exact Relates.pure ()
  | cons word rest ih => exact (alike.writeWord word).bind fun _ => ih

theorem send (p : Packet) : Relates E R (send p : Act ε σ Nat) (send p) := by
  unfold Transfer.send
  cases argCount p.argLen with
  | error e => exact Relates.fail e
  | ok n =>
    refine (alike.writeWords p.wire).bind fun _ => alike.completePacket.bind fun _ => ?_
    exact (Relates.log (.packetSent p.opcode n)).bind fun _ => Relates.pure n

theorem readArgs (n i : Nat) :
    Relates E (Beside R) (readArgs n i : Act ε (σ × Packet) Unit) (readArgs n i) := by
  induction n generalizing i with
  | zero => exact Relates.pure ()
  | succ n ih =>
    refine alike.readWord.onBus.bind fun word => ?_
    exact (Relates.filling fun _ _ _ hst => ⟨hst, rfl⟩).bind fun _ => ih (i + 1)

omit [Raises ε] in
theorem discardWord : Relates E R (discardWord : Act ε σ (Option Unit)) discardWord := by
  apply alike.canRead.bind
  intro ready
  cases ready with
  | true =>
    refine alike.takeWord.bind fun word => ?_
    exact (Relates.log (.surplusWord word)).bind fun _ => Relates.pure none
  | false => exact Relates.pure (some ())

theorem discardSurplus : Relates E R (discardSurplus : Act ε σ Unit) discardSurplus := by
  apply (Relates.firstSome (fun _ => alike.discardWord) surplusLimit 0).bind
  intro finished
  cases finished with
  | some done => exact Relates.pure ()
  | none =>
    apply alike.canRead.bind
    intro more
    cases more with
    | true => exact (Relates.log (.surplusUnending _)).bind fun _ => Relates.fail .timeout
    | false => exact Relates.pure ()

theorem receiveDeclared (opcode argLen : UInt16) :
    Relates E (Beside R) (receiveDeclared opcode argLen : Act ε (σ × Packet) Nat)
      (receiveDeclared opcode argLen) := by
  unfold Transfer.receiveDeclared
  cases argCount argLen with
  | error e => exact (Relates.log (.packetTooLong opcode argLen)).bind fun _ => Relates.fail e
  | ok n =>
    dsimp only
    refine (Relates.filling fun _ _ _ hst => ⟨hst, rfl⟩).bind fun _ => ?_
    refine (alike.readArgs n 0).bind fun _ => alike.discardSurplus.onBus.bind fun _ => ?_
    exact (Relates.log (.packetReceived opcode n)).bind fun _ => Relates.pure n

theorem receive : Relates E (Beside R) (receive : Act ε (σ × Packet) Nat) receive := by
  refine alike.takeWord.onBus.bind fun version => ?_
  refine (Relates.filling fun _ _ _ hst => ⟨hst, rfl⟩).bind fun _ => ?_
  refine alike.readWord.onBus.bind fun header => ?_
  refine (Relates.filling fun _ _ _ hst => ⟨hst, rfl⟩).bind fun _ => ?_
  exact alike.receiveDeclared (unpackHeader header).1 (unpackHeader header).2

theorem receiveFresh : Relates E R (receiveFresh : Act ε σ Packet) receiveFresh :=
  (alike.receive.withLocal Packet.empty).bind fun received => Relates.pure received.2

end Alike

end Transfer

end Coprocessor
