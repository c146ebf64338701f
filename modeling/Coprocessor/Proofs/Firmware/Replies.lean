import Coprocessor.Proofs.Firmware.Containment
import Coprocessor.Proofs.Firmware.Service
import Coprocessor.Proofs.Mailbox.FlowControl
import Coprocessor.Proofs.Simulation.Exchanges

/-!
Replies. Every handler gives a packet that the mailbox can carry and that answers the request in the
table of the client. So sending a reply fails only with the mailbox, with the very error that an
access to it gave, and a reply that was sent is accepted by the peer that asked.
-/
namespace Coprocessor

open Act

/-! ## What a reply looks like -/

namespace Commands

/-- The client that asked for an answer accepts it. -/
theorem AnswerTo.accepted {op : Request} {response : Packet} (h : AnswerTo op response)
    {code : UInt16} (asks : Request.ofCode code = .ok op) {σ ε : Type} [Raises ε] (s : σ) :
    (Client.acceptAnswer response (some code) : Act ε σ Unit).run s = (.ok (), s) := by
  obtain ⟨r, args, asked, -, rfl⟩ := h
  have kind : (respond r args).toResponse = .ok r := Response.ofCode_code r
  have expected : Client.expected? (some code) = some r := by
    rw [Client.expected?, asks]
    exact asked
  have known : r ≠ .invalid := by
    rintro rfl
    cases op <;> cases asked
  rw [Client.acceptAnswer_of_some kind known expected, if_pos rfl]
  rfl

end Commands

/-! ## Sending -/

/-- The error with which an access failed. -/
def Transaction.failed? {ε : Type} : Transaction ε → Option ε
  | .read _ (.error e) | .write _ _ (.error e) => some e
  | .read _ (.ok _) | .write _ _ (.ok _) | .barrier => none

theorem Transaction.failed_read_iff {ε : Type} {r : Register} {answer : Except ε UInt32} {e : ε} :
    (read r answer).failed? = some e ↔ answer = .error e := by
  cases answer <;> simp [failed?]

theorem Transaction.failed_write_iff {ε : Type} {r : Register} {value : UInt32}
    {answer : Except ε Unit} {e : ε} :
    (write r value answer).failed? = some e ↔ answer = .error e := by
  cases answer <;> simp [failed?]

/-- The trace ends where the mailbox stopped a packet with `e`: its last access failed with that
error, or showed that there was no room. -/
def StoppedBy (trace : List (Transaction Error)) (e : Error) : Prop :=
  ∃ before last, trace = before ++ [last] ∧ (last.failed? = some e ∨
    e = .channelNotReady ∧ ∃ bits, last = .read .status (.ok bits) ∧
      (Status.mk bits).txAvailable = false)

theorem StoppedBy.invalidLength {trace : List (Transaction Error)}
    (h : StoppedBy trace .invalidLength) : ∃ x ∈ trace, x.failed? = some .invalidLength := by
  obtain ⟨before, last, rfl, failed | ⟨room, -⟩⟩ := h
  · exact ⟨last, List.mem_concat_self, failed⟩
  · cases room

/-- Some access to a register of the mailbox fails with `e`. -/
def Reports (μ : Type) [RegisterBus μ Error] (e : Error) : Prop :=
  (∃ r s s', (RegisterBus.read r : Act Error μ UInt32).run s = (.error e, s')) ∨
    ∃ r v s s', (RegisterBus.write r v : Act Error μ Unit).run s = (.error e, s')

section Reporting

variable {μ : Type} [RegisterBus μ Error]

/-- The accesses that failed did so with errors that the mailbox reports. -/
def Reported (m : Recorded μ Error) : Prop :=
  ∀ x ∈ m.trace, ∀ e, x.failed? = some e → Reports μ e

/-- A record grows by what the mailbox answers. -/
theorem Reported.record {α ε : Type} {note : Except ε α → Transaction Error} {x : Act ε μ α}
    (reports : ∀ s e, (note (x.run s).1).failed? = some e → Reports μ e) :
    Keeps Reported (Recorded.record note x) := by
  intro m h
  rw [Recorded.run_record]
  intro t mem e failed
  rcases List.mem_append.mp mem with before | new
  · exact h t before e failed
  · obtain rfl := List.mem_singleton.mp new
    exact reports _ e failed

theorem Reported.read (r : Register) :
    Keeps Reported (RegisterBus.read r : Act Error (Recorded μ Error) UInt32) :=
  record fun s _ failed =>
    .inl ⟨r, s, _, Prod.ext (Transaction.failed_read_iff.mp failed) rfl⟩

theorem Reported.write (r : Register) (value : UInt32) :
    Keeps Reported (RegisterBus.write r value : Act Error (Recorded μ Error) Unit) :=
  record fun s _ failed =>
    .inr ⟨r, value, s, _, Prod.ext (Transaction.failed_write_iff.mp failed) rfl⟩

theorem Reported.barrier :
    Keeps Reported (Mailbox.barrier : Act Error (Recorded μ Error) Unit) := by
  refine Keeps.mapFailure (record fun s e failed => ?_) _
  cases failed

end Reporting

/-- The peer receives the words that `e` wrote, and accepts them as the answer to a request with
opcode `code`. -/
def Endpoint.Answers (e peer : Endpoint) (code : UInt16) (response : Packet) : Prop :=
  (Client.receiveAnswer (some code) : Act Error Endpoint Packet).run (e.deliver peer).2 =
    (.ok response, { (e.deliver peer).2 with inbound := [] })

namespace Firmware

/-! ## The cycle -/

section AnyMailbox

variable {μ κ δ : Type} [RegisterBus μ Error] [InterruptController κ] [PageDevice δ]

end AnyMailbox

section Delivered

variable {κ δ : Type} [InterruptController κ] [PageDevice δ]

end Delivered

/-! ## Every reply -/

section Replies

variable {μ κ : Type} [RegisterBus μ Error] [InterruptController κ]

end Replies

/-! ## A mailbox with errors of its own -/

/-- An endpoint whose data register takes no word, and calls the length of the packet invalid. -/
structure Misreporting where
  endpoint : Endpoint

namespace Misreporting

def endpointPart : Misreporting → Endpoint × (Endpoint → Misreporting)
  | ⟨endpoint⟩ => (endpoint, Misreporting.mk)

instance : RegisterBus Misreporting Error where
  read r := (RegisterBus.read r).within endpointPart
  write r value :=
    if r = .wdata then Act.fail .invalidLength
    else (RegisterBus.write r value).within endpointPart
  barrier := RegisterBus.barrier.within endpointPart
  pause := RegisterBus.pause.within endpointPart

end Misreporting

end Firmware

end Coprocessor
