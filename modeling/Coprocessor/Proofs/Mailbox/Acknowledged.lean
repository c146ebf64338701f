import Coprocessor.Proofs.Mailbox.Alike
import Coprocessor.Proofs.Mailbox.FlowControl

/-!
Acknowledging an abort beside everything else that is done with an endpoint. The acknowledgement
changes the two abort bits and counts a write; no word, no error latch and no other access depends
on these, so that an abort can be acknowledged before an access or after it. Only a status that is
shown in between tells which it was.
-/
namespace Coprocessor

open Act

/-! ## Faults of different kinds -/

namespace Fault

variable {κ : Type} [DecidableEq κ] {j k : κ}

/-- Counting accesses of one kind changes no answer about another. -/
theorem strike_other (other : j ≠ k) (faults : List (Fault κ)) :
    (strike (strike faults j).2 k).1 = (strike faults k).1 := by
  simp only [strike, List.any_map]
  congr 1
  funext f
  by_cases counted : f.kind = j
  · have apart : (j == k) = false := beq_eq_false_iff_ne.mpr other
    simp [counted, apart]
  · simp [counted]

theorem strike_comm (faults : List (Fault κ)) :
    (strike (strike faults j).2 k).2 = (strike (strike faults k).2 j).2 := by
  simp only [strike, List.map_map]
  congr 1
  funext f
  by_cases first : f.kind = j
  · by_cases second : f.kind = k
    · obtain rfl : j = k := first.symm.trans second
      rfl
    · simp [first, first ▸ second]
  · by_cases second : f.kind = k
    · simp [second, second ▸ first]
    · simp [first, second]

end Fault

/-! ## The abort bits -/

/-- The status bits of the abort channel. -/
def Status.abortBits : UInt32 :=
  abortInProgressBit ||| abortAcknowledgedBit

/-- The same words but for the abort bits. -/
def SameButAbortBits (v w : UInt32) : Prop :=
  v &&& ~~~Status.abortBits = w &&& ~~~Status.abortBits

namespace SameButAbortBits

variable {v w : UInt32}

/-- Bits that are not of the abort channel are the same. -/
theorem bit (h : SameButAbortBits v w) {b : UInt32} (other : ~~~Status.abortBits &&& b = b) :
    v &&& b = w &&& b := by
  calc v &&& b
      = v &&& ~~~Status.abortBits &&& b := by rw [UInt32.and_assoc, other]
    _ = w &&& ~~~Status.abortBits &&& b := by rw [h]
    _ = w &&& b := by rw [UInt32.and_assoc, other]

/-- Holding some bits at one and some at zero makes no other bit differ. -/
theorem masked (h : SameButAbortBits v w) (held passed : UInt32) :
    SameButAbortBits ((v ||| held) &&& passed) ((w ||| held) &&& passed) := by
  have apart (x m : UInt32) :
      (x ||| held) &&& passed &&& m = ((x &&& m) ||| held) &&& (passed &&& m) := by
    apply UInt32.toBitVec_inj.1
    ext i hi
    simp
    grind
  rw [SameButAbortBits, apart, apart, h]

end SameButAbortBits

namespace Endpoint

private theorem bits_and_other (a b c d e f c' d' : Bool) :
    SameButAbortBits
      ((if a then 0 else Status.rxAvailableBit) ||| (if b then Status.txAvailableBit else 0) |||
        (if c then Status.abortInProgressBit else 0) |||
        (if d then Status.abortAcknowledgedBit else 0) |||
        (if e then Status.txErrorBit else 0) ||| (if f then Status.rxErrorBit else 0))
      ((if a then 0 else Status.rxAvailableBit) ||| (if b then Status.txAvailableBit else 0) |||
        (if c' then Status.abortInProgressBit else 0) |||
        (if d' then Status.abortAcknowledgedBit else 0) |||
        (if e then Status.txErrorBit else 0) ||| (if f then Status.rxErrorBit else 0)) := by
  revert a b c d e f c' d'
  unfold SameButAbortBits
  decide

/-! ## An endpoint whose abort was acknowledged -/

/-- The endpoint after an abort was acknowledged. -/
def acknowledged (e : Endpoint) : Endpoint :=
  { e.write .abort 1 with barrierCount := (e.write .abort 1).barrierCount + 1 }

/-- An abort in progress is acknowledged, and one raised where there is none is acknowledged at
once or left for the other side. -/
theorem acknowledged_eq (e : Endpoint) :
    e.acknowledged = { e with
      abortInProgress := !e.abortInProgress && !e.autoAcknowledge
      abortAcknowledged := e.abortInProgress || e.autoAcknowledge
      writeCount := e.writeCount + 1
      barrierCount := e.barrierCount + 1 } := by
  obtain ⟨inbound, outbound, depth, inProgress, acknowledged, auto, txError, rxError⟩ := e
  cases inProgress with
  | true => rfl
  | false =>
    cases auto with
    | true => rfl
    | false => rfl

theorem status_acknowledged (e : Endpoint) :
    SameButAbortBits e.status.bits e.acknowledged.status.bits := by
  rw [acknowledged_eq]
  exact bits_and_other ..

theorem read_acknowledged (e : Endpoint) (r : Register) :
    (e.acknowledged.read r).2 = (e.read r).2.acknowledged := by
  rw [acknowledged_eq, acknowledged_eq]
  cases r with
  | rdata =>
    unfold read
    cases e.inbound with
    | nil => rfl
    | cons word rest => rfl
  | wdata | status | abort | done => rfl

/-- No word that is read depends on the abort channel. -/
theorem word_acknowledged (e : Endpoint) :
    (e.acknowledged.read .rdata).1 = (e.read .rdata).1 := by
  rw [acknowledged_eq]
  unfold read
  cases e.inbound with
  | nil => rfl
  | cons word rest => rfl

theorem write_acknowledged (e : Endpoint) {r : Register} (other : r ≠ .abort) (value : UInt32) :
    e.acknowledged.write r value = (e.write r value).acknowledged := by
  rw [acknowledged_eq, acknowledged_eq]
  cases r with
  | abort => exact absurd rfl other
  | wdata =>
    by_cases room : e.outbound.length < e.depth
    · simp [write, store, hasRoom, room]
    · simp [write, store, hasRoom, room]
  | done =>
    by_cases signals : value &&& 1 = 0
    · simp [write, store, signals]
    · simp [write, store, signals]
  | rdata | status => rfl

end Endpoint

/-! ## A tapped endpoint -/

namespace TappedBus

/-- Whether the next write to the abort register is struck. -/
def refuses (t : TappedBus Endpoint) : Bool :=
  (Fault.strike t.faults (.write .abort)).1

/-- The tapped endpoint after an abort was acknowledged, or the attempt was struck. -/
def acknowledged (t : TappedBus Endpoint) : TappedBus Endpoint :=
  { t with
    bus := if t.refuses then t.bus else t.bus.acknowledged
    faults := (Fault.strike t.faults (.write .abort)).2 }

/-- What an acknowledgement shows. -/
def shownAcknowledging (struck : Bool) : List Event :=
  if struck then [.access (.write .abort 1 false)]
  else [.access (.write .abort 1 true), .access .barrier]

theorem acknowledgeAbort_apply (t : TappedBus Endpoint) :
    (Mailbox.acknowledgeAbort : Act Error (TappedBus Endpoint) Unit) t =
      ⟨if t.refuses then .error .io else .ok (), t.acknowledged, shownAcknowledging t.refuses⟩ := by
  unfold Mailbox.acknowledgeAbort
  rw [bind_apply, write_apply, acknowledged, shownAcknowledging, refuses]
  cases (Fault.strike t.faults (.write .abort)).1 with
  | true => rfl
  | false => rfl

variable {t : TappedBus Endpoint}

/-- An access of another kind, and an acknowledgement, in either order. -/
theorem acknowledged_counted {k : AccessKind} (other : k ≠ .write .abort) {g : Endpoint → Endpoint}
    (apart : ∀ e, g e.acknowledged = (g e).acknowledged) :
    { t.acknowledged with
      bus := g t.acknowledged.bus
      faults := (Fault.strike t.acknowledged.faults k).2 } =
      { t with bus := g t.bus, faults := (Fault.strike t.faults k).2 }.acknowledged := by
  unfold acknowledged refuses
  dsimp only
  rw [Fault.strike_other other, Fault.strike_comm]
  split
  · rfl
  · rw [apart]

/-- A tapped endpoint beside what it is after an acknowledgement, which is struck or not. -/
def Acknowledging (struck : Bool) (t u : TappedBus Endpoint) : Prop :=
  u = t.acknowledged ∧ t.refuses = struck

namespace Acknowledging

variable {struck : Bool} {u : TappedBus Endpoint} (h : Acknowledging struck t u)
include h

theorem strike {k : AccessKind} (other : k ≠ .write .abort) :
    (Fault.strike u.faults k).1 = (Fault.strike t.faults k).1 := by
  obtain ⟨rfl, -⟩ := h
  exact Fault.strike_other other.symm t.faults

/-- An access of another kind, after the acknowledgement as before it. -/
theorem counted {k : AccessKind} (other : k ≠ .write .abort) {g : Endpoint → Endpoint}
    (apart : ∀ e, g e.acknowledged = (g e).acknowledged) :
    Acknowledging struck { t with bus := g t.bus, faults := (Fault.strike t.faults k).2 }
      { u with bus := g u.bus, faults := (Fault.strike u.faults k).2 } := by
  obtain ⟨rfl, rfl⟩ := h
  exact ⟨acknowledged_counted other apart, Fault.strike_other other t.faults⟩

/-- An access that was struck and reached nothing. -/
theorem struckAt (k : AccessKind) (other : k ≠ .write .abort) :
    Acknowledging struck { t with faults := (Fault.strike t.faults k).2 }
      { u with faults := (Fault.strike u.faults k).2 } :=
  h.counted (g := id) other fun _ => rfl

theorem word : (u.bus.read .rdata).1 = (t.bus.read .rdata).1 := by
  obtain ⟨rfl, -⟩ := h
  unfold acknowledged
  dsimp only
  split
  · rfl
  · exact Endpoint.word_acknowledged t.bus

theorem status :
    SameButAbortBits (t.shown .status t.bus.status.bits) (u.shown .status u.bus.status.bits) := by
  obtain ⟨rfl, -⟩ := h
  apply SameButAbortBits.masked
  unfold acknowledged
  dsimp only
  split
  · rfl
  · exact Endpoint.status_acknowledged t.bus

end Acknowledging

end TappedBus

/-! ## Packets and acknowledgements -/

/-- Events that show the same but for the abort bits of a status. -/
inductive Event.SameButAbortBits : Event → Event → Prop
  | same (e : Event) : SameButAbortBits e e
  | status {v w : UInt32} (h : Coprocessor.SameButAbortBits v w) :
      SameButAbortBits (.access (.read .status (some v))) (.access (.read .status (some w)))

/-- The same events, the abort bits of a status apart. -/
def Comparison.butAbortBits : Comparison :=
  .eventwise Event.SameButAbortBits .same

namespace TappedBus

variable {struck : Bool}

/-- A check of a status bit that is not of the abort channel. -/
theorem relates_check {bit : Status → Bool} {b : UInt32}
    (other : ~~~Status.abortBits &&& b = b) (reads : ∀ s : Status, bit s = (s.bits &&& b != 0)) :
    Relates .butAbortBits (Acknowledging struck)
      (Mailbox.status >>= fun s => Pure.pure (bit s) : Act Error (TappedBus Endpoint) Bool)
      (Mailbox.status >>= fun s => Pure.pure (bit s)) := by
  intro t u h
  unfold Mailbox.status
  simp only [bind_assoc, pure_bind]
  rw [bind_apply, bind_apply, read_apply, read_apply, h.strike (k := .read .status) nofun]
  cases (Fault.strike t.faults (.read .status)).1 with
  | true => exact ⟨rfl, h.struckAt (.read .status) nofun, Comparison.refl _ _⟩
  | false =>
    refine ⟨?_, h.struckAt (.read .status) nofun, ?_⟩
    · show Except.ok (bit ⟨t.shown .status t.bus.status.bits⟩) =
        .ok (bit ⟨u.shown .status u.bus.status.bits⟩)
      rw [reads, reads, h.status.bit other]
    · exact .cons (.status h.status) .nil

theorem relates_write {r : Register} (other : r ≠ .abort) (value : UInt32) :
    Relates .butAbortBits (Acknowledging struck)
      (RegisterBus.write r value : Act Error (TappedBus Endpoint) Unit)
      (RegisterBus.write r value) := by
  intro t u h
  have kind : AccessKind.write r ≠ .write .abort := fun same => other (AccessKind.write.inj same)
  rw [write_apply, write_apply, h.strike kind]
  split
  · exact ⟨rfl, h.struckAt (.write r) kind, Comparison.refl _ _⟩
  · have left := h.counted (g := (·.write r value)) kind fun e => e.write_acknowledged other value
    exact ⟨rfl, left, Comparison.refl _ _⟩

theorem relates_take :
    Relates .butAbortBits (Acknowledging struck)
      (RegisterBus.read .rdata : Act Error (TappedBus Endpoint) UInt32)
      (RegisterBus.read .rdata) := by
  intro t u h
  rw [read_apply, read_apply, h.strike (k := .read .rdata) nofun]
  split
  · exact ⟨rfl, h.struckAt (.read .rdata) nofun, Comparison.refl _ _⟩
  · have word : u.shown .rdata (u.bus.read .rdata).1 = t.shown .rdata (t.bus.read .rdata).1 :=
      h.word
    have left := h.counted (k := .read .rdata) (g := fun e => (e.read .rdata).2) nofun
      fun e => e.read_acknowledged .rdata
    rw [word]
    exact ⟨rfl, left, Comparison.refl _ _⟩

theorem relates_barrier :
    Relates .butAbortBits (Acknowledging struck)
      (Mailbox.barrier : Act Error (TappedBus Endpoint) Unit) Mailbox.barrier := by
  rintro t _ ⟨rfl, rfl⟩
  rw [barrier_apply, barrier_apply]
  refine ⟨rfl, ⟨?_, rfl⟩, Comparison.refl _ _⟩
  unfold acknowledged refuses
  dsimp only
  split
  · rfl
  · rw [Endpoint.acknowledged_eq, Endpoint.acknowledged_eq]

/-- Packets cross an endpoint after an acknowledgement as they cross it before. -/
theorem alike_acknowledging : Transfer.Alike Error .butAbortBits (Acknowledging struck) where
  take := relates_take
  canRead := relates_check (b := Status.rxAvailableBit) (by decide) fun _ => rfl
  canWrite := relates_check (b := Status.txAvailableBit) (by decide) fun _ => rfl
  put := relates_write (r := .wdata) nofun
  done := relates_write (r := .done) nofun 1
  barrier := relates_barrier

end TappedBus

end Coprocessor
