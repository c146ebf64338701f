import Coprocessor.Mailbox.Endpoint
import Coprocessor.Mailbox.Transfer
import Coprocessor.Proofs.Act.Run
import Coprocessor.Simulation.TappedBus

/-!
Port operations on an endpoint, and what sending a packet puts into its outbound queue. An endpoint
may be reached through anything that `Carries` every access to it, such as a tap that is clear.
-/
namespace Coprocessor

open Act

/-! ## Buses that lead to an endpoint -/

/-- Every access to the bus `wrap e` is one to the endpoint `e`. -/
structure Carries {σ : Type} [RegisterBus σ Error] (wrap : Endpoint → σ) : Prop where
  read : ∀ e r, (RegisterBus.read r : Act Error σ UInt32).run (wrap e) =
    (.ok (e.read r).1, wrap (e.read r).2)
  write : ∀ e r v, (RegisterBus.write r v : Act Error σ Unit).run (wrap e) =
    (.ok (), wrap (e.write r v))
  barrier : ∀ e, (RegisterBus.barrier : Act Empty σ Unit).run (wrap e) =
    (.ok (), wrap { e with barrierCount := e.barrierCount + 1 })

theorem Carries.id : Carries (fun e : Endpoint => e) where
  read _ _ := rfl
  write _ _ _ := rfl
  barrier _ := rfl

/-- A tap without a mask shows what the bus gives. -/
theorem TappedBus.shown_unmasked {σ : Type} {t : TappedBus σ} (held : t.held = 0)
    (passed : t.passed = 0xFFFFFFFF) (r : Register) (value : UInt32) : t.shown r value = value := by
  have all : (value ||| 0) &&& 0xFFFFFFFF = value := by
    rw [UInt32.or_zero]
    exact UInt32.and_neg_one
  by_cases status : r = .status
  · rw [shown, if_pos status, held, passed]
    exact all
  · rw [shown, if_neg status]

theorem Carries.clear : Carries (TappedBus.clear : Endpoint → TappedBus Endpoint) where
  read e r := by
    show (Except.ok ((TappedBus.clear (e.read r).2).shown r (e.read r).1),
      TappedBus.clear (e.read r).2) = _
    rw [TappedBus.shown_unmasked rfl rfl]
  write e r v := rfl
  barrier e := rfl

/-! ## What passes through an endpoint -/

namespace Endpoint

/-- The endpoint after words that there was room for. -/
def written (e : Endpoint) (words : List UInt32) : Endpoint :=
  { e with
    outbound := e.outbound ++ words
    writeCount := e.writeCount + words.length
    barrierCount := e.barrierCount + words.length }

/-- The endpoint after the signal that a packet is complete. -/
def signalled (e : Endpoint) : Endpoint :=
  { e with
    doneCount := e.doneCount + 1
    writeCount := e.writeCount + 1
    barrierCount := e.barrierCount + 2 }

theorem hasRoom_iff {e : Endpoint} : e.hasRoom = true ↔ e.outbound.length < e.depth :=
  decide_eq_true_iff

@[simp] theorem written_nil (e : Endpoint) : e.written [] = e := by
  simp [written]

theorem written_cons (e : Endpoint) (word : UInt32) (rest : List UInt32) :
    (e.written [word]).written rest = e.written (word :: rest) := by
  simp only [written, List.append_assoc, List.singleton_append, List.length_cons, List.length_nil,
    mk.injEq, true_and]
  omega

end Endpoint

namespace Mailbox

variable {σ : Type} [RegisterBus σ Error] {wrap : Endpoint → σ} (carries : Carries wrap)
include carries

theorem run_status (e : Endpoint) :
    (status : Act Error σ Status).run (wrap e) = (.ok e.status, wrap e) :=
  run_bind_ok (carries.read e .status) _

theorem run_canRead (e : Endpoint) :
    (canRead : Act Error σ Bool).run (wrap e) = (.ok !e.inbound.isEmpty, wrap e) := by
  rw [canRead, run_bind_ok (run_status carries e), Endpoint.rxAvailable_status]
  rfl

theorem run_canWrite (e : Endpoint) :
    (canWrite : Act Error σ Bool).run (wrap e) = (.ok e.hasRoom, wrap e) := by
  rw [canWrite, run_bind_ok (run_status carries e), Endpoint.txAvailable_status]
  rfl

theorem run_barrier (e : Endpoint) :
    (barrier : Act Error σ Unit).run (wrap e) =
      (.ok (), wrap { e with barrierCount := e.barrierCount + 1 }) :=
  run_sure (carries.barrier e)

theorem run_writeWord {e : Endpoint} (room : e.outbound.length < e.depth) (word : UInt32) :
    (writeWord word : Act Error σ Unit).run (wrap e) = (.ok (), wrap (e.written [word])) := by
  have ready : e.hasRoom = true := Endpoint.hasRoom_iff.mpr room
  rw [writeWord, run_bind_ok (run_canWrite carries e), ready, if_pos rfl,
    run_bind_ok (carries.write e .wdata word), run_bind_ok (run_barrier carries _), run_log]
  have still : { e with writeCount := e.writeCount + 1 }.hasRoom = true := ready
  simp only [Endpoint.write, Endpoint.store, still, if_pos]
  rfl

/-- Without room a word is refused, and nothing is written. -/
theorem run_writeWord_full {e : Endpoint} (full : e.depth ≤ e.outbound.length) (word : UInt32) :
    (writeWord word : Act Error σ Unit).run (wrap e) = (.error .channelNotReady, wrap e) := by
  have busy : e.hasRoom = false := by
    rw [← Bool.not_eq_true, Endpoint.hasRoom_iff]
    exact Nat.not_lt.mpr full
  rw [writeWord, run_bind_ok (run_canWrite carries e), busy]
  rfl

/-- A word is taken whether or not one is waiting; without one it is zero. -/
theorem run_takeWord (e : Endpoint) :
    (takeWord : Act Error σ UInt32).run (wrap e) = (.ok (e.read .rdata).1, wrap (e.read .rdata).2) := by
  rw [takeWord, run_bind_ok (carries.read e .rdata), run_log_bind]
  rfl

theorem run_readWord {e : Endpoint} {word : UInt32} {rest : List UInt32}
    (waiting : e.inbound = word :: rest) :
    (readWord : Act Error σ UInt32).run (wrap e) = (.ok word, wrap { e with inbound := rest }) := by
  rw [readWord, run_bind_ok (run_canRead carries e), waiting, List.isEmpty_cons,
    Bool.not_false, if_pos rfl, run_takeWord carries, Endpoint.read_rdata_of_cons waiting]

theorem run_readWord_empty {e : Endpoint} (empty : e.inbound = []) :
    (readWord : Act Error σ UInt32).run (wrap e) = (.error .channelNotReady, wrap e) := by
  rw [readWord, run_bind_ok (run_canRead carries e), empty]
  rfl

theorem run_completePacket (e : Endpoint) :
    (completePacket : Act Error σ Unit).run (wrap e) = (.ok (), wrap e.signalled) := by
  rw [completePacket, run_bind_ok (run_barrier carries e), run_bind_ok (carries.write _ .done 1),
    run_barrier carries]
  rfl

end Mailbox

namespace Transfer

/-- A packet that declares too many arguments is not begun. -/
theorem run_send_tooLong {σ ε : Type} [RegisterBus σ ε] [Raises ε] {p : Packet}
    (long : ¬ p.argLen.toNat ≤ maxArgs) (s : σ) :
    (send p : Act ε σ Nat).run s = (.error (Raises.raise .invalidLength), s) := by
  rw [send, argCount, if_neg long]
  rfl

variable {σ : Type} [RegisterBus σ Error]
variable {wrap : Endpoint → σ} (carries : Carries wrap)
include carries

/-! ## Sending -/

theorem run_writeWords {e : Endpoint} {words : List UInt32}
    (room : e.outbound.length + words.length ≤ e.depth) :
    (writeWords words : Act Error σ Unit).run (wrap e) = (.ok (), wrap (e.written words)) := by
  induction words generalizing e with
  | nil =>
    rw [Endpoint.written_nil]
    rfl
  | cons word rest ih =>
    rw [List.length_cons] at room
    rw [writeWords, run_bind_ok (Mailbox.run_writeWord carries (by omega) word), ih,
      Endpoint.written_cons]
    simp only [Endpoint.written, List.length_append, List.length_singleton]
    omega

/-- Of words that do not all find room, those are queued that do. -/
theorem run_writeWords_full {e : Endpoint} {words : List UInt32} (some : words ≠ [])
    (full : e.depth < e.outbound.length + words.length) :
    (writeWords words : Act Error σ Unit).run (wrap e) =
      (.error .channelNotReady, wrap (e.written (words.take (e.depth - e.outbound.length)))) := by
  induction words generalizing e with
  | nil => exact absurd rfl some
  | cons word rest ih =>
    rw [List.length_cons] at full
    by_cases room : e.outbound.length < e.depth
    · have queued : (e.written [word]).outbound.length = e.outbound.length + 1 := by
        simp [Endpoint.written]
      have full' : (e.written [word]).depth < (e.written [word]).outbound.length + rest.length := by
        rw [queued]
        exact Nat.lt_of_lt_of_eq full (by omega)
      have left : e.depth - e.outbound.length = e.depth - (e.outbound.length + 1) + 1 := by omega
      have some' : rest ≠ [] := by
        rintro rfl
        rw [List.length_nil] at full
        omega
      rw [writeWords, run_bind_ok (Mailbox.run_writeWord carries room word), ih some' full', queued,
        left, List.take_succ_cons, Endpoint.written_cons]
      rfl
    · rw [writeWords, run_bind_error (Mailbox.run_writeWord_full carries (Nat.not_lt.mp room) word),
        Nat.sub_eq_zero_of_le (Nat.not_lt.mp room), List.take_zero, Endpoint.written_nil]

/-- A packet that fits is queued in its wire form. -/
theorem run_send {p : Packet} {e : Endpoint} (fits : p.argLen.toNat ≤ maxArgs)
    (room : e.outbound.length + p.wire.length ≤ e.depth) :
    (send p : Act Error σ Nat).run (wrap e) =
      (.ok p.argLen.toNat, wrap (e.written p.wire).signalled) := by
  rw [send, argCount_eq_ok_iff.mpr ⟨fits, rfl⟩]
  dsimp only
  rw [run_bind_ok (run_writeWords carries room), run_bind_ok (Mailbox.run_completePacket carries _),
    run_log_bind, run_pure]

/-- A packet for which the queue has no room is queued in part, and not signalled. -/
theorem run_send_full {p : Packet} {e : Endpoint} (fits : p.argLen.toNat ≤ maxArgs)
    (full : e.depth < e.outbound.length + p.wire.length) :
    (send p : Act Error σ Nat).run (wrap e) =
      (.error .channelNotReady, wrap (e.written (p.wire.take (e.depth - e.outbound.length)))) := by
  have some : p.wire ≠ [] := List.cons_ne_nil _ _
  rw [send, argCount_eq_ok_iff.mpr ⟨fits, rfl⟩]
  dsimp only
  rw [run_bind_error (run_writeWords_full carries some full)]

/-- An empty queue of the default depth has room for any packet that fits. -/
theorem run_send_empty {p : Packet} {e : Endpoint} (fits : p.argLen.toNat ≤ maxArgs)
    (empty : e.outbound = []) (room : Endpoint.defaultDepth ≤ e.depth) :
    (send p : Act Error σ Nat).run (wrap e) =
      (.ok p.argLen.toNat, wrap (e.written p.wire).signalled) := by
  have words : p.wire.length ≤ Endpoint.defaultDepth := by
    rw [Packet.length_wire, Endpoint.defaultDepth]
    omega
  refine run_send carries fits ?_
  rw [empty, List.length_nil, Nat.zero_add]
  exact Nat.le_trans words room

end Transfer

end Coprocessor
