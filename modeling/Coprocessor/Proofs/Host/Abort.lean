import Coprocessor.Proofs.Host.AbortPolls
import Coprocessor.Proofs.Host.Acceptance
import Coprocessor.Proofs.Host.Session
import Coprocessor.Proofs.Mailbox.Acknowledged

/-!
Aborts that the other side never completes. The register that raises an abort acknowledges one that
is in progress, whoever raised it, so a second abort takes back the first and finds nothing in
progress: of any number of them, every other one is reported complete.
-/
namespace Coprocessor

open Act

/-! ## What a client keeps of its bus -/

namespace Client

variable {σ ε : Type} [RegisterBus σ ε] [Raises ε] {P : σ → Prop}

variable (reads : ∀ r, Keeps P (RegisterBus.read r : Act ε σ UInt32))
include reads

theorem keeps_receiveAnswer (asked : Option UInt16) :
    Keeps P (receiveAnswer asked : Act ε σ Packet) :=
  (Transfer.keeps_receiveFresh reads).bind fun response =>
    (keeps_acceptAnswer response asked).bind fun _ => Keeps.pure response

variable (writes : ∀ r value, r ≠ .abort → Keeps P (RegisterBus.write r value : Act ε σ Unit))
  (barrier : Keeps P (Mailbox.barrier : Act ε σ Unit))
  (pause : Keeps P (Mailbox.pause : Act ε σ Unit))
include pause

omit [Raises ε] in
theorem keeps_awaitAnswer (limit : Nat) :
    Keeps P (awaitAnswer limit : Act ε σ (Option Nat)) := by
  refine Keeps.firstSome (fun i => ?_) (max 1 limit) 0
  refine (Mailbox.keeps_canRead reads).bind fun ready => (Keeps.pure _).ite ?_
  by_cases later : i + 1 < limit
  · rw [if_pos later]
    exact pause.bind fun _ => Keeps.pure none
  · rw [if_neg later]
    exact Keeps.pure none

include writes barrier

theorem keeps_request (limits : ClientLimits) (p : Packet) :
    Keeps P (request limits p : Act ε σ Packet) := by
  refine (Keeps.log _).bind fun _ => ?_
  refine (Transfer.keeps_send (reads .status) writes barrier p).bind fun _ => ?_
  refine (keeps_awaitAnswer reads pause limits.pollLimit.toNat).bind fun answered => ?_
  cases answered with
  | none => exact (Keeps.log _).bind fun _ => Keeps.fail .timeout
  | some polls =>
    exact (keeps_receiveAnswer reads (some p.opcode)).bind fun response =>
      (Keeps.log _).bind fun _ => Keeps.pure response

end Client

/-! ## Endpoints with an abort in progress -/

namespace Endpoint

/-- An endpoint whose other side completes no abort, with or without one in progress. -/
structure Deaf (raised : Bool) (e : Endpoint) : Prop where
  abortInProgress : e.abortInProgress = raised
  autoAcknowledge : e.autoAcknowledge = false

variable {raised : Bool}

theorem Deaf.read {e : Endpoint} (h : Deaf raised e) (r : Register) : Deaf raised (e.read r).2 := by
  cases r with
  | rdata =>
    cases waiting : e.inbound with
    | nil =>
      rw [read_rdata_of_nil waiting]
      exact ⟨h.abortInProgress, h.autoAcknowledge⟩
    | cons word rest =>
      rw [read_rdata_of_cons waiting]
      exact ⟨h.abortInProgress, h.autoAcknowledge⟩
  | wdata | status | abort | done => exact h

theorem Deaf.write {e : Endpoint} (h : Deaf raised e) {r : Register} (other : r ≠ .abort)
    (value : UInt32) : Deaf raised (e.write r value) := by
  cases r with
  | abort => exact absurd rfl other
  | wdata | done =>
    simp only [Endpoint.write, store]
    split
    · exact ⟨h.abortInProgress, h.autoAcknowledge⟩
    · exact ⟨h.abortInProgress, h.autoAcknowledge⟩
  | rdata | status => exact ⟨h.abortInProgress, h.autoAcknowledge⟩

/-- An abort that is raised stays, and one that stays is taken back. -/
theorem Deaf.acknowledged {e : Endpoint} (h : Deaf raised e) : Deaf (!raised) e.acknowledged := by
  rw [acknowledged_eq]
  refine ⟨?_, h.autoAcknowledge⟩
  simp [h.abortInProgress, h.autoAcknowledge]

/-- Polls of an endpoint in memory all find the same. -/
theorem found_status (bit : Status → Bool) (e : Endpoint) (i : Nat) :
    Polling.found bit e i = .ok (bit e.status) := by
  rw [Polling.found, Polling.poll, Function.iterate_fixed (rfl : Polling.waited e = e) i]
  rfl

/-- Until it runs out of polls, the wait goes on as long as an abort is in progress. -/
theorem run_awaitAborted (e : Endpoint) (limit : Nat) :
    (Client.awaitAborted limit : Act Error Endpoint (Option Unit)).run e =
      (.ok (if e.abortInProgress ∨ limit = 0 then none else some ()), e) := by
  have still (n : Nat) : Polling.waited^[n] e = e := Function.iterate_fixed rfl n
  have polled (i : Nat) : Polling.found Status.abortInProgress e i = .ok e.abortInProgress := by
    rw [found_status, abortInProgress_status]
  cases raised : e.abortInProgress with
  | true =>
    rw [Client.run_awaitAborted_unending e fun i _ => (polled i).trans (by rw [raised]), still]
    simp
  | false =>
    cases limit with
    | zero => rfl
    | succ limit =>
      rw [Client.run_awaitAborted_completed e limit.succ_pos nofun
        ((polled 0).trans (by rw [raised])), if_neg (by simp)]
      rfl

/-- An abort where none is in progress is given up, whatever the limit. One that finds another in
progress takes that back and counts as completed, if it may poll at all. -/
theorem Deaf.run_abort {e : Endpoint} (h : Deaf raised e) (limits : ClientLimits) :
    (Client.abort limits : Act Error Endpoint Unit).run e =
      (if raised ∧ limits.abortLimit ≠ 0 then .ok () else .error .abortFailed, e.acknowledged) := by
  have raises : (Mailbox.requestAbort : Act Error Endpoint Unit).run e = (.ok (), e.acknowledged) :=
    rfl
  have outstanding : e.acknowledged.abortInProgress = !raised := h.acknowledged.abortInProgress
  have none_left : limits.abortLimit.toNat = 0 ↔ limits.abortLimit = 0 := by
    rw [← UInt32.toNat_inj]
    rfl
  rw [Client.run_abort_raised raises, run_bind_ok (run_awaitAborted _ _), outstanding]
  cases raised with
  | false =>
    simp
    rfl
  | true =>
    by_cases patient : limits.abortLimit = 0
    · simp [patient]
      rfl
    · simp [patient, none_left]

end Endpoint

/-! ## Sessions with aborts -/

namespace ClientCall

variable {σ ε : Type} [RegisterBus σ ε] [Raises ε]

/-- The call as it is made with barriers. -/
def sync : ClientCall → Act ε σ Reply
  | send p => do return .sent (← Client.send p)
  | pollReady => do return .ready (← Client.answerReady)
  | receive => do return .answer (← Client.receive)
  | request limits p => do return .answer (← Client.request limits p)
  | abort limits => do
    Client.abort limits
    return .aborted

/-- Calls one after the other, and what became of each. -/
def replies {ε' : Type} : List ClientCall → Act ε' σ (List (Except ε Reply))
  | [] => pure []
  | call :: rest => do
    let first ← (call.sync : Act ε σ Reply).attempt
    return first :: (← replies rest)

def isAbort : ClientCall → Bool
  | abort _ => true
  | _ => false

variable {raised : Bool}

theorem keeps_deaf {call : ClientCall} (other : call.isAbort = false) :
    Keeps (Endpoint.Deaf raised) (call.sync : Act Error Endpoint Reply) := by
  have reads (r : Register) :
      Keeps (Endpoint.Deaf raised) (RegisterBus.read r : Act Error Endpoint UInt32) :=
    fun _ deaf => deaf.read r
  have writes (r : Register) (value : UInt32) (other : r ≠ .abort) :
      Keeps (Endpoint.Deaf raised) (RegisterBus.write r value : Act Error Endpoint Unit) :=
    fun _ deaf => deaf.write other value
  have barrier : Keeps (Endpoint.Deaf raised) (Mailbox.barrier : Act Error Endpoint Unit) :=
    fun _ deaf => ⟨deaf.abortInProgress, deaf.autoAcknowledge⟩
  have pause : Keeps (Endpoint.Deaf raised) (Mailbox.pause : Act Error Endpoint Unit) :=
    fun _ deaf => deaf
  cases call with
  | send p =>
    exact (Transfer.keeps_send (reads .status) writes barrier p).bind fun _ => Keeps.pure _
  | pollReady => exact (Mailbox.keeps_canRead reads).bind fun _ => Keeps.pure _
  | receive => exact (Client.keeps_receiveAnswer reads none).bind fun _ => Keeps.pure _
  | request limits p =>
    exact (Client.keeps_request reads writes barrier pause limits p).bind fun _ => Keeps.pure _
  | abort limits => cases other

theorem run_sync_abort {e : Endpoint} (deaf : e.Deaf raised) (limits : ClientLimits) :
    ((abort limits).sync : Act Error Endpoint Reply).run e =
      (if raised ∧ limits.abortLimit ≠ 0 then .ok .aborted else .error .abortFailed,
        e.acknowledged) := by
  rw [sync, run_bind, deaf.run_abort]
  by_cases taken : raised ∧ limits.abortLimit ≠ 0
  · rw [if_pos taken, if_pos taken]
    rfl
  · rw [if_neg taken, if_neg taken]

/-- One call after `n` aborts. -/
theorem run_sync_after {e : Endpoint} {n : Nat} (deaf : e.Deaf (n % 2 == 1)) (call : ClientCall) :
    ∃ r e', (call.sync : Act Error Endpoint Reply).run e = (r, e') ∧
      e'.Deaf ((n + [call].countP isAbort) % 2 == 1) ∧
      ∀ limits, call = .abort limits → r = if n % 2 = 0 ∨ limits.abortLimit = 0 then
        .error .abortFailed else .ok .aborted := by
  cases kind : call.isAbort with
  | false =>
    have kept := keeps_deaf kind e deaf
    refine ⟨_, _, rfl, ?_, fun limits same => ?_⟩
    · simp only [List.countP_singleton, kind, Bool.false_eq_true, if_false, Nat.add_zero]
      exact kept
    · rw [same] at kind
      cases kind
  | true =>
    cases call with
    | send | pollReady | receive | request => cases kind
    | abort limits =>
      have turned := deaf.acknowledged
      have parity : (!(n % 2 == 1)) = ((n + 1) % 2 == 1) := by
        rcases Nat.mod_two_eq_zero_or_one n with even | odd
        · simp [Nat.add_mod, even]
        · simp [Nat.add_mod, odd]
      rw [parity] at turned
      refine ⟨_, _, run_sync_abort deaf limits, turned, fun limits' same => ?_⟩
      obtain rfl := ClientCall.abort.inj same
      rcases Nat.mod_two_eq_zero_or_one n with even | odd
      · simp [even]
      · by_cases patient : limits.abortLimit = 0
        · simp [patient]
        · simp [odd, patient]

/-- The calls after `n` aborts. -/
theorem replies_after {e : Endpoint} {n : Nat} (deaf : e.Deaf (n % 2 == 1))
    (calls : List ClientCall) :
    ∃ answers e', (replies calls : Act Empty Endpoint _).run e = (.ok answers, e') ∧
      answers.length = calls.length ∧
      ∀ i limits, calls[i]? = some (.abort limits) →
        answers[i]? = some (if (n + (calls.take i).countP isAbort) % 2 = 0 ∨ limits.abortLimit = 0
          then .error .abortFailed else .ok .aborted) := by
  induction calls generalizing e n with
  | nil => exact ⟨[], e, rfl, rfl, nofun⟩
  | cons call rest ih =>
    obtain ⟨r, e₁, ran, deaf₁, answered⟩ := run_sync_after deaf call
    obtain ⟨answers, e', later, length, rest_answered⟩ := ih deaf₁
    refine ⟨r :: answers, e', ?_, ?_, ?_⟩
    · have tried : ((call.sync : Act Error Endpoint Reply).attempt : Act Empty Endpoint _).run e =
          (.ok r, e₁) := by
        rw [run_attempt, ran]
      rw [replies, run_bind_ok tried, run_bind_ok later, run_pure]
    · rw [List.length_cons, List.length_cons, length]
    · intro i limits found
      cases i with
      | zero =>
        rw [answered limits (Option.some.inj found)]
        rfl
      | succ i =>
        have split : ((call :: rest).take (i + 1)).countP isAbort =
            [call].countP isAbort + (rest.take i).countP isAbort := by
          rw [List.take_succ_cons, ← List.singleton_append, List.countP_append]
        rw [split, ← Nat.add_assoc]
        exact rest_answered i limits found

/-- Where the other side completes no abort and none is in progress, the first abort fails, and so
does every other one after it; those between are reported complete. -/
theorem replies_deaf {e : Endpoint} (deaf : e.Deaf false) (calls : List ClientCall) :
    ∃ answers e', (replies calls : Act Empty Endpoint _).run e = (.ok answers, e') ∧
      answers.length = calls.length ∧
      ∀ i limits, calls[i]? = some (.abort limits) →
        answers[i]? = some (if (calls.take i).countP isAbort % 2 = 0 ∨ limits.abortLimit = 0 then
          .error .abortFailed else .ok .aborted) := by
  have all := replies_after (n := 0) deaf calls
  simpa only [Nat.zero_add] using all

/-- Two aborts that the other side does not complete. -/
theorem replies_deaf_twice :
    Endpoint.Deaf false { Endpoint.new 4 with autoAcknowledge := false } ∧
    ∃ answers e', (replies [.abort .default, .pollReady, .abort .default] : Act Empty Endpoint _).run
        { Endpoint.new 4 with autoAcknowledge := false } = (.ok answers, e') ∧
      answers[0]? = some (.error .abortFailed) ∧ answers[2]? = some (.ok .aborted) := by
  have deaf : Endpoint.Deaf false { Endpoint.new 4 with autoAcknowledge := false } := ⟨rfl, rfl⟩
  obtain ⟨answers, e', ran, -, answered⟩ :=
    replies_deaf deaf [.abort .default, .pollReady, .abort .default]
  exact ⟨deaf, answers, e', ran, answered 0 .default rfl, answered 2 .default rfl⟩

/-- An abort that the other side did not complete is reported complete. -/
theorem abort_reported_complete :
    ∃ e', (replies [.abort ⟨3, 3⟩, .abort ⟨3, 3⟩] : Act Empty Endpoint _).run
      { Endpoint.new 4 with autoAcknowledge := false } =
        (.ok [.error .abortFailed, .ok .aborted], e') :=
  ⟨_, rfl⟩

end ClientCall

end Coprocessor
