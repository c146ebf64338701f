import Mathlib.Logic.Function.Iterate
import Coprocessor.Client
import Coprocessor.Proofs.Mailbox.Alike
import Coprocessor.Proofs.Mailbox.Recorded

/-!
Waiting for a status bit. The client reads the status register until the bit is as it waits for it
to be, and lets time pass between two readings. What such polls find depends on the bus alone: each
is asked of the bus that the one before it and the pause after that have left. Over a bus with a
record, they are all that is added to the record.
-/
namespace Coprocessor

open Act

/-! ## Loops -/

namespace Act

variable {ε σ α : Type} {body : Nat → Act ε σ (Option α)} (visited : Nat → σ)

/-- A loop whose first rounds find nothing goes on where they have led. -/
theorem run_firstSome_past {m : Nat} (n : Nat)
    (nothing : ∀ j < m, (body j).run (visited j) = (.ok none, visited (j + 1))) :
    (firstSome (m + n) 0 body).run (visited 0) = (firstSome n m body).run (visited m) := by
  induction m generalizing n with
  | zero => rw [Nat.zero_add]
  | succ m ih =>
    rw [Nat.succ_add_eq_add_succ, ih (n + 1) fun j lt => nothing j (Nat.lt_succ_of_lt lt)]
    rw [firstSome_succ, run_bind_ok (nothing m m.lt_succ_self)]

/-- A loop ends as the first round ends that does not find nothing. -/
theorem run_firstSome_first {k n : Nat} {s' : σ} {r : Except ε (Option α)} (lt : k < n)
    (nothing : ∀ j < k, (body j).run (visited j) = (.ok none, visited (j + 1)))
    (round : (body k).run (visited k) = (r, s')) (ends : r ≠ .ok none) :
    (firstSome n 0 body).run (visited 0) = (r, s') := by
  obtain ⟨m, rfl⟩ := Nat.exists_eq_add_of_lt lt
  rw [Nat.add_assoc, run_firstSome_past visited (m + 1) nothing, firstSome_succ]
  rcases r with e | _ | a
  · rw [run_bind_error round]
  · exact absurd rfl ends
  · rw [run_bind_ok round, run_pure]

end Act

/-! ## Polls -/

namespace Polling

variable {σ ε : Type} [RegisterBus σ ε]

/-- The bus after a poll and a pause. -/
def waited (bus : σ) : σ :=
  ((RegisterBus.pause : Act Empty σ Unit).run
    ((RegisterBus.read .status : Act ε σ UInt32).run bus).2).2

/-- What poll `i` reads and the bus that it leaves, each poll before it followed by a pause. -/
def poll (bus : σ) (i : Nat) : Except ε UInt32 × σ :=
  (RegisterBus.read .status : Act ε σ UInt32).run (waited^[i] bus)

/-- What poll `i` finds a bit to be. -/
def found (bit : Status → Bool) (bus : σ) (i : Nat) : Except ε Bool :=
  (poll bus i).1.map fun bits => bit ⟨bits⟩

/-- The first `n` polls, as they stand in a record. -/
def polls (bus : σ) (n : Nat) : List (Transaction ε) :=
  (List.range n).map fun i => .read .status (poll bus i).1

@[simp] theorem polls_zero (bus : σ) : polls bus 0 = [] :=
  rfl

theorem polls_succ (bus : σ) (n : Nat) :
    polls bus (n + 1) = polls bus n ++ [.read .status (poll bus n).1] := by
  rw [polls, List.range_succ, List.map_append]
  rfl

@[simp] theorem length_polls (bus : σ) (n : Nat) : (polls bus n).length = n := by
  rw [polls, List.length_map, List.length_range]

theorem mem_polls {bus : σ} {n : Nat} {t : Transaction ε} (h : t ∈ polls bus n) :
    ∃ answer, t = .read .status answer := by
  obtain ⟨i, -, rfl⟩ := List.mem_map.mp h
  exact ⟨_, rfl⟩

/-- All polls find the bit as it is passed over, or one is the first that does not. -/
theorem passed_or_first (bit : Status → Bool) (bus : σ) (n : Nat) (passed : Bool) :
    (∀ i < n, found bit bus i = .ok passed) ∨
      ∃ k < n, (∀ i < k, found bit bus i = .ok passed) ∧ found bit bus k ≠ .ok passed := by
  induction n with
  | zero => exact .inl fun i lt => absurd lt i.not_lt_zero
  | succ n ih =>
    obtain all | ⟨k, lt, before, first⟩ := ih
    · by_cases last : found bit bus n = .ok passed
      · refine .inl fun i lt => ?_
        obtain lt | rfl := Nat.lt_succ_iff_lt_or_eq.mp lt
        · exact all i lt
        · exact last
      · exact .inr ⟨n, n.lt_succ_self, all, last⟩
    · exact .inr ⟨k, Nat.lt_succ_of_lt lt, before, first⟩

/-! ## What the client does with them -/

/-- A check of a bit is one poll. -/
theorem run_check (bit : Status → Bool) (bus : σ) (i : Nat) :
    (Mailbox.status >>= fun s => Pure.pure (bit s) : Act ε σ Bool).run (waited^[i] bus) =
      (found bit bus i, (poll bus i).2) := by
  rcases polled : poll bus i with ⟨e | bits, bus'⟩
  · have fails : (Mailbox.status : Act ε σ Status).run (waited^[i] bus) = (.error e, bus') :=
      run_bind_error polled _
    rw [run_bind_error fails, found, polled]
    rfl
  · have reads : (Mailbox.status : Act ε σ Status).run (waited^[i] bus) = (.ok ⟨bits⟩, bus') :=
      run_bind_ok polled _
    rw [run_bind_ok reads, found, polled]
    rfl

/-- A pause after a poll leads to the bus that the next one is asked of. -/
theorem run_pause (bus : σ) (i : Nat) :
    (Mailbox.pause : Act ε σ Unit).run (poll bus i).2 = (.ok (), waited^[i + 1] bus) := by
  obtain ⟨⟨⟩, ran⟩ := exists_run_sure (ε := ε) (RegisterBus.pause : Act Empty σ Unit) (poll bus i).2
  rw [Function.iterate_succ_apply']
  exact ran

/-! ## Over a bus with a record -/

theorem iterate_waited_recorded (s : Recorded σ ε) (n : Nat) :
    waited^[n] s = ⟨waited^[n] s.bus, s.trace ++ polls s.bus n⟩ := by
  induction n with
  | zero => rw [polls_zero, List.append_nil]; rfl
  | succ n ih =>
    rw [Function.iterate_succ_apply', ih, Function.iterate_succ_apply', polls_succ,
      ← List.append_assoc]
    rfl

theorem poll_recorded (s : Recorded σ ε) (i : Nat) :
    poll s i = ((poll s.bus i).1, ⟨(poll s.bus i).2, s.trace ++ polls s.bus (i + 1)⟩) := by
  rw [poll, iterate_waited_recorded, polls_succ, ← List.append_assoc]
  rfl

theorem found_recorded (bit : Status → Bool) (s : Recorded σ ε) :
    found bit s = found bit s.bus := by
  funext i
  rw [found, poll_recorded]
  rfl

end Polling

/-! ## A record changes nothing -/

namespace Recorded

variable {σ ε : Type}

/-- The bus that is recorded. -/
def IsOf (s : Recorded σ ε) (bus : σ) : Prop :=
  s.bus = bus

theorem relates_record {ε' α : Type} (note : Except ε' α → Transaction ε) (x : Act ε' σ α) :
    Relates .equal (IsOf (ε := ε)) (record note x) x := by
  rintro s _ rfl
  exact ⟨rfl, rfl, rfl⟩

variable [RegisterBus σ ε]

theorem relates_read (r : Register) :
    Relates .equal IsOf (RegisterBus.read r : Act ε (Recorded σ ε) UInt32) (RegisterBus.read r) :=
  relates_record (.read r) _

theorem relates_write (r : Register) (value : UInt32) :
    Relates .equal IsOf (RegisterBus.write r value : Act ε (Recorded σ ε) Unit)
      (RegisterBus.write r value) :=
  relates_record (.write r value) _

theorem relates_barrier :
    Relates .equal IsOf (Mailbox.barrier : Act ε (Recorded σ ε) Unit) Mailbox.barrier :=
  (relates_record (fun _ => .barrier) RegisterBus.barrier).mapFailure _

theorem relates_pause :
    Relates .equal IsOf (Mailbox.pause : Act ε (Recorded σ ε) Unit) Mailbox.pause := by
  refine Relates.mapFailure ?_ _
  rintro s _ rfl
  exact ⟨rfl, rfl, rfl⟩

theorem relates_check (bit : Status → Bool) :
    Relates .equal IsOf
      (Mailbox.status >>= fun s => Pure.pure (bit s) : Act ε (Recorded σ ε) Bool)
      (Mailbox.status >>= fun s => Pure.pure (bit s)) :=
  ((relates_read .status).bind fun bits => Relates.pure (Status.mk bits)).bind fun s =>
    Relates.pure (bit s)

/-- Packets cross a bus with a record as they cross the bus. -/
theorem alike : Transfer.Alike ε .equal (IsOf (σ := σ) (ε := ε)) where
  take := relates_read .rdata
  canRead := relates_check Status.rxAvailable
  canWrite := relates_check Status.txAvailable
  put word := relates_write .wdata word
  done := relates_write .done 1
  barrier := relates_barrier

end Recorded

end Coprocessor
