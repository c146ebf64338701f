import Coprocessor.Proofs.Host.Polling
import Coprocessor.Proofs.Mailbox.FlowControl

/-!
How long an abort waits, and what it leaves alone. It is raised by one write, and the status is
polled until the abort is no longer in progress, no more often than the limit says. None of this
touches a word that is on its way, so an abort disturbs no packet.
-/
namespace Coprocessor

open Act

namespace Client

/-! ## The wait -/

section Waiting

open Polling

variable {σ ε : Type} [RegisterBus σ ε] {bus : σ} {limit k : Nat}

/-- One round of the wait for an abort to complete. -/
def abortRound : Act ε σ (Option Unit) := do
  if ← Mailbox.abortOutstanding then
    Mailbox.pause
    return none
  else
    return some ()

/-- The wait for an abort to complete. -/
def awaitAborted (limit : Nat) : Act ε σ (Option Unit) :=
  firstSome limit 0 fun _ => abortRound

theorem run_abortOutstanding (bus : σ) (i : Nat) :
    (Mailbox.abortOutstanding : Act ε σ Bool).run (waited^[i] bus) =
      (found Status.abortInProgress bus i, (poll bus i).2) :=
  run_check Status.abortInProgress bus i

theorem run_abortRound_outstanding {i : Nat}
    (outstanding : found Status.abortInProgress bus i = .ok true) :
    (abortRound : Act ε σ (Option Unit)).run (waited^[i] bus) = (.ok none, waited^[i + 1] bus) := by
  have polled := run_abortOutstanding bus i
  rw [outstanding] at polled
  rw [abortRound, run_bind_ok polled, if_pos rfl, run_bind_ok (run_pause bus i), run_pure]

/-- A poll that fails ends the wait. -/
theorem run_awaitAborted_failed (bus : σ) {e : ε} (lt : k < limit)
    (outstanding : ∀ i < k, found Status.abortInProgress bus i = .ok true)
    (fails : found Status.abortInProgress bus k = .error e) :
    (awaitAborted limit).run bus = (.error e, (poll bus k).2) := by
  have polled := run_abortOutstanding bus k
  rw [fails] at polled
  have round : (abortRound : Act ε σ (Option Unit)).run (waited^[k] bus) =
      (.error e, (poll bus k).2) := by
    rw [abortRound, run_bind_error polled]
  exact run_firstSome_first (fun i => waited^[i] bus) lt
    (fun i before => run_abortRound_outstanding (outstanding i before)) round nofun

/-- So does one that finds the abort completed. -/
theorem run_awaitAborted_completed (bus : σ) (lt : k < limit)
    (outstanding : ∀ i < k, found Status.abortInProgress bus i = .ok true)
    (completed : found Status.abortInProgress bus k = .ok false) :
    (awaitAborted limit).run bus = (.ok (some ()), (poll bus k).2) := by
  have polled := run_abortOutstanding bus k
  rw [completed] at polled
  have round : (abortRound : Act ε σ (Option Unit)).run (waited^[k] bus) =
      (.ok (some ()), (poll bus k).2) := by
    rw [abortRound, run_bind_ok polled]
    rfl
  exact run_firstSome_first (fun i => waited^[i] bus) lt
    (fun i before => run_abortRound_outstanding (outstanding i before)) round nofun

/-- Otherwise the polls run out. -/
theorem run_awaitAborted_unending (bus : σ)
    (outstanding : ∀ i < limit, found Status.abortInProgress bus i = .ok true) :
    (awaitAborted limit).run bus = (.ok none, waited^[limit] bus) :=
  run_firstSome_past (fun i => waited^[i] bus) 0 fun i lt =>
    run_abortRound_outstanding (outstanding i lt)

end Waiting

/-! ## Aborts -/

section Aborting

open Polling

variable {σ ε : Type} [RegisterBus σ ε] [Raises ε] {limits : ClientLimits} {bus : σ}

/-- What raising an abort puts into a record. -/
def raising : Except ε Unit → List (Transaction ε)
  | .ok done => [.write .abort 1 (.ok done), .barrier]
  | .error e => [.write .abort 1 (.error e)]

omit [Raises ε] in
theorem run_requestAbort_recorded (bus : σ) :
    (Mailbox.requestAbort : Act ε (Recorded σ ε) Unit).run (.fresh bus) =
      (((Mailbox.requestAbort : Act ε σ Unit).run bus).1,
        ⟨((Mailbox.requestAbort : Act ε σ Unit).run bus).2,
          raising ((Mailbox.requestAbort : Act ε σ Unit).run bus).1⟩) := by
  have shows : Shows Recording.ofBus (Mailbox.requestAbort : Act ε σ Unit) Mailbox.requestAbort
      fun added r => added = raising r := by
    refine (Shows.write .abort 1).bind (fun _ => Shows.barrier) ?_ ?_
    · intro added e holds
      exact holds
    · rintro first done rest r rfl ⟨rfl, rfl⟩
      rfl
  obtain ⟨added, same, grown, holds⟩ := shows (.fresh bus)
  rcases ran : (Mailbox.requestAbort : Act ε (Recorded σ ε) Unit).run (.fresh bus) with
    ⟨r, bus', trace⟩
  rw [ran] at same grown holds
  obtain rfl : trace = added := grown
  have bare : (Mailbox.requestAbort : Act ε σ Unit).run bus = (r, bus') := same
  rw [bare, holds]

/-- How an abort ends that was raised and has left `raised`, and what it then has asked. -/
structure AwaitsAborted (limits : ClientLimits) (raised : σ)
    (ended : Except ε Unit × Recorded σ ε) : Prop where
  /-- The first poll that fails is the last one. -/
  failed : ∀ k < limits.abortLimit.toNat,
    (∀ i < k, found Status.abortInProgress raised i = .ok true) →
      ∀ e, found Status.abortInProgress raised k = .error e →
        ended = (.error e, ⟨(poll raised k).2, raising (.ok ()) ++ polls raised (k + 1)⟩)
  /-- The first poll that finds the abort completed is the last one. -/
  completed : ∀ k < limits.abortLimit.toNat,
    (∀ i < k, found Status.abortInProgress raised i = .ok true) →
      found Status.abortInProgress raised k = .ok false →
        ended = (.ok (), ⟨(poll raised k).2, raising (.ok ()) ++ polls raised (k + 1)⟩)
  /-- Where no poll does, as many are made as the limit says. -/
  unending : (∀ i < limits.abortLimit.toNat, found Status.abortInProgress raised i = .ok true) →
    ended = (.error (Raises.raise .abortFailed),
      ⟨waited^[limits.abortLimit.toNat] raised,
        raising (.ok ()) ++ polls raised limits.abortLimit.toNat⟩)

/-- After the abort is raised, it goes as its wait does. -/
theorem run_abort_raised {raised : σ}
    (raises : (Mailbox.requestAbort : Act ε σ Unit).run bus = (.ok (), raised)) :
    (abort limits : Act ε σ Unit).run bus =
      (awaitAborted limits.abortLimit.toNat >>= fun completed =>
        match completed with
        | some () => Act.log .abortCompleted
        | none => do
          Act.log (.abortUnending limits.abortLimit.toNat)
          Act.fail .abortFailed).run raised :=
  run_bind_ok raises _

theorem run_abort_refused {bus' : σ} {e : ε}
    (refused : (RegisterBus.write .abort 1 : Act ε σ Unit).run bus = (.error e, bus')) :
    (abort limits : Act ε (Recorded σ ε) Unit).run (.fresh bus) =
      (.error e, ⟨bus', [.write .abort 1 (.error e)]⟩) := by
  have fails : (Mailbox.requestAbort : Act ε σ Unit).run bus = (.error e, bus') :=
    run_bind_error refused _
  have recorded := run_requestAbort_recorded bus
  rw [fails] at recorded
  rw [abort, run_bind_error recorded]
  rfl

/-- From a bus with a record the wait goes as from the bus alone, and records its polls. -/
theorem awaitsAborted_of_raised (limits : ClientLimits) {raised : σ}
    (raises : (Mailbox.requestAbort : Act ε σ Unit).run bus = (.ok (), raised)) :
    AwaitsAborted limits raised
      ((abort limits : Act ε (Recorded σ ε) Unit).run (.fresh bus)) := by
  have recorded := run_requestAbort_recorded bus
  rw [raises] at recorded
  have same := found_recorded Status.abortInProgress ⟨raised, raising (.ok ())⟩
  refine ⟨fun k lt outstanding e fails => ?_, fun k lt outstanding completed => ?_,
    fun outstanding => ?_⟩
  · rw [← same] at outstanding fails
    rw [run_abort_raised recorded,
      run_bind_error (run_awaitAborted_failed _ lt outstanding fails), poll_recorded]
  · rw [← same] at outstanding completed
    rw [run_abort_raised recorded,
      run_bind_ok (run_awaitAborted_completed _ lt outstanding completed), run_log, poll_recorded]
  · rw [← same] at outstanding
    rw [run_abort_raised recorded, run_bind_ok (run_awaitAborted_unending _ outstanding),
      run_log_bind, run_fail, iterate_waited_recorded]

/-- One write, which comes first, and after it polls and a barrier, no more polls than `limit`. -/
def OneWriteThenPolls (limit : Nat) (trace : List (Transaction ε)) : Prop :=
  ∃ answer rest, trace = .write .abort 1 answer :: rest ∧
    (∀ t ∈ rest, t = .barrier ∨ ∃ status, t = .read .status status) ∧
    rest.countP (fun t => t.operation = .read .status) ≤ limit

omit [Raises ε] in
theorem oneWriteThenPolls_raising {n limit : Nat} (few : n ≤ limit) (raised : σ) :
    OneWriteThenPolls limit (raising (.ok ()) ++ polls raised n) := by
  refine ⟨.ok (), .barrier :: polls raised n, rfl, fun t mem => ?_, ?_⟩
  · rcases List.mem_cons.mp mem with rfl | mem
    · exact .inl rfl
    · exact .inr (mem_polls mem)
  · rw [List.countP_cons_of_neg (by simp [Transaction.operation])]
    calc (polls raised n).countP (fun t => t.operation = .read .status)
        ≤ (polls raised n).length := List.countP_le_length
      _ = n := length_polls raised n
      _ ≤ limit := few

/-- Whatever the bus answers, an abort writes once, first, and takes no word. -/
theorem oneWriteThenPolls_abort (limits : ClientLimits) (bus : σ) :
    OneWriteThenPolls limits.abortLimit.toNat
      ((abort limits : Act ε (Recorded σ ε) Unit).run (.fresh bus)).2.trace := by
  rcases written : (RegisterBus.write .abort 1 : Act ε σ Unit).run bus with ⟨e | ⟨⟨⟩⟩, bus'⟩
  · rw [run_abort_refused written]
    exact ⟨.error e, [], rfl, nofun, Nat.zero_le _⟩
  · obtain ⟨⟨⟩, fenced⟩ := exists_run_sure (ε := ε) (RegisterBus.barrier : Act Empty σ Unit) bus'
    have raises := (run_bind_ok written fun _ => Mailbox.barrier).trans fenced
    have awaits := awaitsAborted_of_raised limits raises
    obtain all | ⟨k, lt, before, first⟩ := passed_or_first Status.abortInProgress
      ((RegisterBus.barrier : Act Empty σ Unit).run bus').2 limits.abortLimit.toNat true
    · rw [awaits.unending all]
      exact oneWriteThenPolls_raising (Nat.le_refl _) _
    · cases result : found Status.abortInProgress
        ((RegisterBus.barrier : Act Empty σ Unit).run bus').2 k with
      | error e =>
        rw [awaits.failed k lt before e result]
        exact oneWriteThenPolls_raising lt _
      | ok outstanding =>
        cases outstanding with
        | false =>
          rw [awaits.completed k lt before result]
          exact oneWriteThenPolls_raising lt _
        | true => exact absurd result first

/-- An abort goes over a bus with a record as over the bus. -/
theorem relates_abort_recorded (limits : ClientLimits) :
    Relates .equal Recorded.IsOf
      (abort limits : Act ε (Recorded σ ε) Unit) (abort limits) := by
  have raises := (Recorded.relates_write (σ := σ) (ε := ε) .abort 1).bind fun _ =>
    Recorded.relates_barrier
  refine raises.bind fun _ => Relates.bind ?_ fun completed => ?_
  · refine Relates.firstSome (fun _ => ?_) limits.abortLimit.toNat 0
    apply (Recorded.relates_check Status.abortInProgress).bind
    intro outstanding
    cases outstanding with
    | true => exact Recorded.relates_pause.bind fun _ => Relates.pure none
    | false => exact Relates.pure (some ())
  · cases completed with
    | some done => exact Relates.log .abortCompleted
    | none => exact (Relates.log (.abortUnending _)).bind fun _ => Relates.fail .abortFailed

/-- What polls, the write that raises an abort, barriers and pauses keep of a bus, an abort keeps. -/
theorem keeps_abort {P : σ → Prop} (polls : Keeps P (RegisterBus.read .status : Act ε σ UInt32))
    (raises : Keeps P (RegisterBus.write .abort 1 : Act ε σ Unit))
    (barrier : Keeps P (Mailbox.barrier : Act ε σ Unit))
    (pause : Keeps P (Mailbox.pause : Act ε σ Unit)) (limits : ClientLimits) :
    Keeps P (abort limits : Act ε σ Unit) := by
  have check : Keeps P (Mailbox.abortOutstanding : Act ε σ Bool) :=
    (polls.bind fun _ => Keeps.pure _).bind fun _ => Keeps.pure _
  have round : Keeps P (abortRound : Act ε σ (Option Unit)) :=
    check.bind fun _ => (pause.bind fun _ => Keeps.pure none).ite (Keeps.pure (some ()))
  refine (raises.bind fun _ => barrier).bind fun _ => ?_
  refine (Keeps.firstSome (fun _ => round) limits.abortLimit.toNat 0).bind fun completed => ?_
  cases completed with
  | some done => exact Keeps.log .abortCompleted
  | none => exact (Keeps.log _).bind fun _ => Keeps.fail .abortFailed

end Aborting

end Client

/-! ## What an abort leaves alone -/

namespace Endpoint

/-- The words on their way, the errors of moving them and the packets signalled are the same. -/
structure SameTraffic (e e' : Endpoint) : Prop where
  inbound : e'.inbound = e.inbound
  outbound : e'.outbound = e.outbound
  txError : e'.txError = e.txError
  rxError : e'.rxError = e.rxError
  doneCount : e'.doneCount = e.doneCount

variable {e₀ e : Endpoint}

theorem SameTraffic.write_abort (h : SameTraffic e₀ e) (value : UInt32) :
    SameTraffic e₀ (e.write .abort value) := by
  simp only [write, store, writeAbort]
  repeat' split
  all_goals exact ⟨h.inbound, h.outbound, h.txError, h.rxError, h.doneCount⟩

theorem SameTraffic.abort (limits : ClientLimits) (e : Endpoint) :
    SameTraffic e ((Client.abort limits : Act Error Endpoint Unit).run e).2 := by
  refine Client.keeps_abort (P := SameTraffic e) (fun _ h => h) (fun _ h => h.write_abort 1)
    (fun _ h => ?_) (fun _ h => h) limits e ⟨rfl, rfl, rfl, rfl, rfl⟩
  exact ⟨h.inbound, h.outbound, h.txError, h.rxError, h.doneCount⟩

/-- A tap lets nothing through that would touch the words either, whatever it refuses and masks. -/
theorem SameTraffic.abort_tapped (limits : ClientLimits) (t : TappedBus Endpoint) :
    SameTraffic t.bus ((Client.abort limits : Act Error (TappedBus Endpoint) Unit).run t).2.bus := by
  refine Client.keeps_abort (P := fun u : TappedBus Endpoint => SameTraffic t.bus u.bus)
    (fun u h => ?_) (fun u h => ?_) (fun u h => ?_) (fun u h => ?_) limits t
    ⟨rfl, rfl, rfl, rfl, rfl⟩
  · rw [TappedBus.run_read]
    split
    · exact h
    · exact h
  · rw [TappedBus.run_write]
    split
    · exact h
    · exact h.write_abort 1
  · exact ⟨h.inbound, h.outbound, h.txError, h.rxError, h.doneCount⟩
  · have idle : ((Mailbox.pause : Act Error (TappedBus Endpoint) Unit).run u).2 = u := rfl
    rwa [idle]

end Endpoint

/-- An abort is one write and a bounded wait, whatever the bus: it ends with the first poll that
fails or finds it completed, and else when the limit is reached. At an endpoint it leaves alone
what is on its way, whichever accesses fail and whatever status is shown. -/
theorem Client.abort_polls {σ ε : Type} [RegisterBus σ ε] [Raises ε] (limits : ClientLimits)
    (bus : σ) :
    OneWriteThenPolls limits.abortLimit.toNat
      ((abort limits : Act ε (Recorded σ ε) Unit).run (.fresh bus)).2.trace ∧
    (∀ e bus', (RegisterBus.write .abort 1 : Act ε σ Unit).run bus = (.error e, bus') →
      (abort limits : Act ε (Recorded σ ε) Unit).run (.fresh bus) =
        (.error e, ⟨bus', [.write .abort 1 (.error e)]⟩)) ∧
    (∀ raised, (Mailbox.requestAbort : Act ε σ Unit).run bus = (.ok (), raised) →
      AwaitsAborted limits raised
        ((abort limits : Act ε (Recorded σ ε) Unit).run (.fresh bus))) ∧
    (abort limits : Act ε σ Unit).run bus =
      (((abort limits : Act ε (Recorded σ ε) Unit).run (.fresh bus)).1,
        ((abort limits : Act ε (Recorded σ ε) Unit).run (.fresh bus)).2.bus) ∧
    (∀ e : Endpoint, e.SameTraffic ((abort limits : Act Error Endpoint Unit).run e).2) ∧
    ∀ t : TappedBus Endpoint,
      t.bus.SameTraffic ((abort limits : Act Error (TappedBus Endpoint) Unit).run t).2.bus := by
  have same := relates_abort_recorded limits (.fresh bus) bus rfl
  exact ⟨oneWriteThenPolls_abort limits bus, fun e bus' refused => run_abort_refused refused,
    fun raised raises => awaitsAborted_of_raised limits raises,
    run_eq_iff.mpr ⟨same.result.symm, same.state.symm⟩, Endpoint.SameTraffic.abort limits,
    Endpoint.SameTraffic.abort_tapped limits⟩

end Coprocessor
