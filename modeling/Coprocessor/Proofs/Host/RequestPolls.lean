import Coprocessor.Proofs.Host.Acceptance
import Coprocessor.Proofs.Host.Polling
import Coprocessor.Proofs.Mailbox.SendTrace

/-!
How long a request waits. After it is sent the status is polled until it shows a word, as often as
the limit says and once at the least. The first poll that fails or shows a word ends the wait, and
what is received then is the answer if its opcode is one for the request.
-/
namespace Coprocessor

open Act

namespace Client

/-! ## The wait -/

section Waiting

open Polling

variable {σ ε : Type} [RegisterBus σ ε] {bus : σ} {limit k : Nat}

/-- One round of the wait for an answer. -/
def awaitRound (limit i : Nat) : Act ε σ (Option Nat) := do
  if ← answerReady then
    return some i
  else
    if i + 1 < limit then Mailbox.pause
    return none

theorem run_answerReady (bus : σ) (i : Nat) :
    (answerReady : Act ε σ Bool).run (waited^[i] bus) =
      (found Status.rxAvailable bus i, (poll bus i).2) :=
  run_check Status.rxAvailable bus i

/-- A round that finds nothing lets time pass, the last one apart. -/
theorem run_awaitRound_quiet (limit : Nat) {i : Nat}
    (quiet : found Status.rxAvailable bus i = .ok false) :
    (awaitRound limit i).run (waited^[i] bus) =
      (.ok none, if i + 1 < limit then waited^[i + 1] bus else (poll bus i).2) := by
  have polled := run_answerReady bus i
  rw [quiet] at polled
  rw [awaitRound, run_bind_ok polled]
  by_cases later : i + 1 < limit
  · simp only [Bool.false_eq_true, if_false, if_pos later]
    rw [run_bind_ok (run_pause bus i), run_pure]
  · simp only [Bool.false_eq_true, if_false, if_neg later]
    rfl

theorem run_awaitRound_failed {i : Nat} {e : ε}
    (fails : found Status.rxAvailable bus i = .error e) :
    (awaitRound limit i).run (waited^[i] bus) = (.error e, (poll bus i).2) := by
  have polled := run_answerReady bus i
  rw [fails] at polled
  rw [awaitRound, run_bind_error polled]

theorem run_awaitRound_ready {i : Nat} (ready : found Status.rxAvailable bus i = .ok true) :
    (awaitRound limit i).run (waited^[i] bus) = (.ok (some i), (poll bus i).2) := by
  have polled := run_answerReady bus i
  rw [ready] at polled
  rw [awaitRound, run_bind_ok polled]
  rfl

/-- The rounds before the last one lead from poll to poll. -/
theorem run_awaitRound_of_lt (lt : k < max 1 limit)
    (quiet : ∀ i < k, found Status.rxAvailable bus i = .ok false) (i : Nat) (before : i < k) :
    (awaitRound limit i).run (waited^[i] bus) = (.ok none, waited^[i + 1] bus) := by
  rw [run_awaitRound_quiet limit (quiet i before), if_pos (by omega)]

/-- A poll that fails ends the wait. -/
theorem run_awaitAnswer_failed (bus : σ) {e : ε} (lt : k < max 1 limit)
    (quiet : ∀ i < k, found Status.rxAvailable bus i = .ok false)
    (fails : found Status.rxAvailable bus k = .error e) :
    (awaitAnswer limit).run bus = (.error e, (poll bus k).2) :=
  run_firstSome_first (fun i => waited^[i] bus) lt (run_awaitRound_of_lt lt quiet)
    (run_awaitRound_failed fails) nofun

/-- So does one that shows a word. -/
theorem run_awaitAnswer_ready (bus : σ) (lt : k < max 1 limit)
    (quiet : ∀ i < k, found Status.rxAvailable bus i = .ok false)
    (ready : found Status.rxAvailable bus k = .ok true) :
    (awaitAnswer limit).run bus = (.ok (some k), (poll bus k).2) :=
  run_firstSome_first (fun i => waited^[i] bus) lt (run_awaitRound_of_lt lt quiet)
    (run_awaitRound_ready ready) nofun

/-- Otherwise the polls run out; after the last one no time is let pass. -/
theorem run_awaitAnswer_unanswered (bus : σ) {last : Nat} (count : max 1 limit = last + 1)
    (quiet : ∀ i < max 1 limit, found Status.rxAvailable bus i = .ok false) :
    (awaitAnswer limit).run bus = (.ok none, (poll bus last).2) := by
  have lt : last < max 1 limit := count ▸ last.lt_succ_self
  have before := run_awaitRound_of_lt lt fun i before => quiet i (Nat.lt_trans before lt)
  have final := run_awaitRound_quiet limit (quiet last lt)
  rw [if_neg (by omega)] at final
  show (firstSome (max 1 limit) 0 (awaitRound limit)).run (waited^[0] bus) = _
  rw [count, run_firstSome_past (fun i => waited^[i] bus) 1 before, firstSome_succ,
    run_bind_ok final]
  rfl

end Waiting

/-! ## The counter -/

section Counting

variable {σ ε : Type} [RegisterBus σ ε]

theorem toNat_of_checkedAdd {a b : UInt32} (h : checkedAdd a 1 = .ok b) :
    b.toNat = a.toNat + 1 := by
  obtain ⟨fits, rfl⟩ := checkedAdd_eq_ok_iff.mp h
  rw [UInt32.toNat_add, Nat.mod_eq_of_lt fits]
  rfl

/-- The wait for an answer with the polls that found none counted in a word. The count is raised
before it is compared. -/
def awaitCounted (limit polls : UInt32) : Act ε σ (Except Trap (Option UInt32)) := do
  if ← answerReady then
    return .ok (some polls)
  else
    match _ : checkedAdd polls 1 with
    | .error t => return .error t
    | .ok polls' =>
      if _ : limit ≤ polls' then
        return .ok none
      else
        Mailbox.pause
        awaitCounted limit polls'
  termination_by limit.toNat - polls.toNat
  decreasing_by
    have reached : ¬ limit ≤ polls' := ‹_›
    have sum := toNat_of_checkedAdd ‹checkedAdd polls 1 = .ok polls'›
    rw [UInt32.le_iff_toNat_le] at reached
    omega

/-- While the count fits in a word, a round of the counted wait is one of the wait. -/
theorem awaitCounted_step {limit polls : UInt32} (fits : polls.toNat + 1 < 0x100000000) :
    (awaitCounted limit polls : Act ε σ _) = do
      if ← answerReady then
        return .ok (some polls)
      else if polls.toNat + 1 < limit.toNat then
        Mailbox.pause
        awaitCounted limit (polls + 1)
      else
        return .ok none := by
  have sum : checkedAdd polls 1 = .ok (polls + 1) := checkedAdd_eq_ok fits
  have compared : limit ≤ polls + 1 ↔ ¬ polls.toNat + 1 < limit.toNat := by
    rw [UInt32.le_iff_toNat_le, toNat_of_checkedAdd sum, Nat.not_lt]
  rw [awaitCounted]
  congr 1
  funext ready
  cases ready with
  | true => rfl
  | false =>
    simp only [Bool.false_eq_true, if_false]
    split
    · next t overflows =>
      rw [sum] at overflows
      cases overflows
    · next polls' counted =>
      rw [sum] at counted
      cases counted
      by_cases later : polls.toNat + 1 < limit.toNat
      · rw [if_pos later, dif_neg (by rw [compared]; exact not_not_intro later)]
      · rw [if_neg later, dif_pos (compared.mpr later)]

/-- With `n + 1` polls left, the counted wait is the rest of the wait. -/
theorem awaitCounted_eq_firstSome {limit polls : UInt32} {n : Nat}
    (count : max 1 limit.toNat = polls.toNat + (n + 1)) :
    (awaitCounted limit polls : Act ε σ _) = do
      return .ok ((← firstSome (n + 1) polls.toNat (awaitRound limit.toNat)).map UInt32.ofNat) := by
  induction n generalizing polls with
  | zero =>
    -- the last poll that the limit allows: neither wait goes on after it
    have top := limit.toNat_lt
    have last : ¬ polls.toNat + 1 < limit.toNat := by omega
    rw [awaitCounted_step (by omega), firstSome_succ, awaitRound]
    simp only [bind_assoc, if_neg last]
    congr 1
    funext ready
    cases ready with
    | true => simp
    | false => simp
  | succ n ih =>
    have top := limit.toNat_lt
    have fits : polls.toNat + 1 < 0x100000000 := by omega
    have sum : (polls + 1).toNat = polls.toNat + 1 := toNat_of_checkedAdd (checkedAdd_eq_ok fits)
    have later : polls.toNat + 1 < limit.toNat := by omega
    rw [awaitCounted_step fits, firstSome_succ, awaitRound]
    simp only [bind_assoc, if_pos later]
    congr 1
    funext ready
    cases ready with
    | true => simp
    | false =>
      have next := ih (show max 1 limit.toNat = (polls + 1).toNat + (n + 1) by omega)
      simp [next, sum]

/-- No count that the wait comes to is too large for a word. -/
theorem awaitCounted_eq (limit : UInt32) :
    (awaitCounted limit 0 : Act ε σ _) = do
      return .ok ((← awaitAnswer limit.toNat).map UInt32.ofNat) := by
  obtain ⟨n, count⟩ := Nat.exists_eq_add_of_le (Nat.le_max_left 1 limit.toNat)
  rw [Nat.add_comm] at count
  have all := awaitCounted_eq_firstSome (σ := σ) (ε := ε)
    (show max 1 limit.toNat = (0 : UInt32).toNat + (n + 1) from count.trans (Nat.zero_add _).symm)
  rw [all, ← count]
  rfl

end Counting

/-! ## Requests -/

section Requesting

open Polling

variable {σ ε : Type} [RegisterBus σ ε] [Raises ε] {limits : ClientLimits} {p : Packet}

theorem run_request_unsent {bus bus' : σ} {e : ε}
    (unsent : (send p).run bus = (.error e, bus')) :
    (request limits p).run bus = (.error e, bus') := by
  rw [request, run_log_bind, run_bind_error unsent]

/-- After a send, a request goes as its wait does. -/
theorem run_request_sent {bus bus' : σ} {n : Nat} (sent : (send p).run bus = (.ok n, bus')) :
    (request limits p).run bus = (awaitAnswer limits.pollLimit.toNat >>= fun answered =>
      match answered with
      | none => do
        Act.log (.requestUnanswered (max 1 limits.pollLimit.toNat))
        Act.fail .timeout
      | some polls => do
        let response ← receiveAnswer (some p.opcode)
        Act.log (.requestCompleted polls)
        return response).run bus' :=
  (run_log_bind ..).trans (run_bind_ok sent _)

theorem run_receiveAnswer {bus bus' : σ} {r : Except ε Packet}
    (received : (Transfer.receiveFresh : Act ε σ Packet).run bus = (r, bus')) (asked : UInt16) :
    (receiveAnswer (some asked)).run bus =
      (r.bind fun response => if Answers asked response.opcode then .ok response else
        .error (Raises.raise .invalidOpcode), bus') := by
  rcases r with e | response
  · rw [receiveAnswer, run_bind_error received]
    rfl
  · rw [receiveAnswer, run_bind_ok received, run_bind, run_acceptAnswer, Except.bind]
    by_cases accepted : Answers asked response.opcode
    · rw [if_pos accepted, if_pos accepted]
      rfl
    · rw [if_neg accepted, if_neg accepted]

/-- How a request ends that was sent and has left `sent`, and what it then has asked of the bus. -/
structure Awaits (limits : ClientLimits) (p : Packet) (sent : Recorded σ ε)
    (ended : Except ε Packet × Recorded σ ε) : Prop where
  /-- Where no poll shows a word, as many are made as the limit says, and no word is taken. -/
  unanswered :
    (∀ i < max 1 limits.pollLimit.toNat, found Status.rxAvailable sent.bus i = .ok false) →
      ended.1 = .error (Raises.raise .timeout) ∧
        ended.2.trace = sent.trace ++ polls sent.bus (max 1 limits.pollLimit.toNat) ∧
        ∀ answer, .read .rdata answer ∉ ended.2.trace
  /-- The first poll that fails is the last one. -/
  failed : ∀ k < max 1 limits.pollLimit.toNat,
    (∀ i < k, found Status.rxAvailable sent.bus i = .ok false) →
      ∀ e, found Status.rxAvailable sent.bus k = .error e →
        ended = (.error e, ⟨(poll sent.bus k).2, sent.trace ++ polls sent.bus (k + 1)⟩)
  /-- The first poll that shows a word is the last one, and a packet is received. -/
  answered : ∀ k < max 1 limits.pollLimit.toNat,
    (∀ i < k, found Status.rxAvailable sent.bus i = .ok false) →
      found Status.rxAvailable sent.bus k = .ok true →
        ∃ r received, (Transfer.receiveFresh : Act ε (Recorded σ ε) Packet).run
            ⟨(poll sent.bus k).2, sent.trace ++ polls sent.bus (k + 1)⟩ = (r, received) ∧
          ended = (r.bind fun response => if Answers p.opcode response.opcode then .ok response else
            .error (Raises.raise .invalidOpcode), received)

/-- What a send asks of a bus does not include a word. -/
theorem rdata_not_mem_of_sent {bus : σ} {r : Except ε Nat} {sent : Recorded σ ε}
    (ran : (send p).run (.fresh bus) = (r, sent)) (answer : Except ε UInt32) :
    .read .rdata answer ∉ sent.trace := by
  obtain ⟨_, _, trace, ran', -, follows⟩ := Transfer.send_recorded (ε := ε) p bus
  obtain ⟨-, rfl⟩ := Prod.mk.inj (ran.symm.trans ran')
  intro mem
  have asked := follows.isPrefix.subset (List.mem_map_of_mem mem)
  simp [sendPlan, signalPlan, wordPlan, Transaction.operation] at asked

/-- From a bus with a record the wait goes as from the bus alone, and records its polls. -/
theorem awaits_of_sent {bus : σ} {n : Nat} {sent : Recorded σ ε}
    (ran : (send p).run (.fresh bus) = (.ok n, sent)) :
    Awaits limits p sent ((request limits p).run (.fresh bus)) where
  unanswered quiet := by
    obtain ⟨last, count⟩ := Nat.exists_eq_add_of_le' (Nat.le_max_left 1 limits.pollLimit.toNat)
    rw [← found_recorded] at quiet
    rw [run_request_sent ran, run_bind_ok (run_awaitAnswer_unanswered sent count quiet),
      run_log_bind, run_fail, poll_recorded, count]
    refine ⟨rfl, rfl, fun answer mem => ?_⟩
    rcases List.mem_append.mp mem with mem | mem
    · exact rdata_not_mem_of_sent ran answer mem
    · obtain ⟨status, same⟩ := mem_polls mem
      cases same
  failed k lt quiet e fails := by
    rw [← found_recorded] at quiet fails
    rw [run_request_sent ran, run_bind_error (run_awaitAnswer_failed sent lt quiet fails),
      poll_recorded]
  answered k lt quiet ready := by
    rw [← found_recorded] at quiet ready
    have waited := run_awaitAnswer_ready sent lt quiet ready
    rw [poll_recorded] at waited
    rcases fetched : (Transfer.receiveFresh : Act ε (Recorded σ ε) Packet).run
      ⟨(poll sent.bus k).2, sent.trace ++ polls sent.bus (k + 1)⟩ with ⟨r, received⟩
    refine ⟨r, received, rfl, ?_⟩
    rw [run_request_sent ran, run_bind_ok waited, run_bind, run_receiveAnswer fetched]
    rcases r.bind _ with e | response
    · rfl
    · rfl

/-- A request goes over a bus with a record as over the bus. -/
theorem relates_request_recorded (limits : ClientLimits) (p : Packet) :
    Relates .equal Recorded.IsOf
      (request limits p : Act ε (Recorded σ ε) Packet) (request limits p) := by
  refine (Relates.log (.requestStarted p.opcode)).bind fun _ => ?_
  refine (Recorded.alike.send p).bind fun _ => ?_
  apply Relates.bind
  · refine Relates.firstSome (fun i => ?_) (max 1 limits.pollLimit.toNat) 0
    apply Recorded.alike.canRead.bind
    intro ready
    cases ready with
    | true => exact Relates.pure (some i)
    | false =>
      simp only [Bool.false_eq_true, if_false]
      split
      · exact Recorded.relates_pause.bind fun _ => Relates.pure none
      · exact Relates.pure none
  · intro answered
    cases answered with
    | none => exact (Relates.log (.requestUnanswered _)).bind fun _ => Relates.fail .timeout
    | some polls =>
      refine (Recorded.alike.receiveFresh.bind fun response =>
        (relates_acceptAnswer response (some p.opcode)).bind fun _ => Relates.pure response).bind
          fun response => ?_
      exact (Relates.log (.requestCompleted polls)).bind fun _ => Relates.pure response

/-- A request polls as it is configured to, whatever the bus: not at all if it is not sent, and
otherwise up to the first poll that fails or shows a word, or up to the limit, of which 0 and 1 are
the same. The count of the polls fits in a word throughout. -/
theorem request_polls (limits : ClientLimits) (p : Packet) (bus : σ) :
    (∀ e sent, (send p : Act ε (Recorded σ ε) Nat).run (.fresh bus) = (.error e, sent) →
      (request limits p : Act ε (Recorded σ ε) Packet).run (.fresh bus) = (.error e, sent)) ∧
    (∀ n sent, (send p : Act ε (Recorded σ ε) Nat).run (.fresh bus) = (.ok n, sent) →
      Awaits limits p sent ((request limits p : Act ε (Recorded σ ε) Packet).run (.fresh bus))) ∧
    (request limits p : Act ε σ Packet).run bus =
      (((request limits p : Act ε (Recorded σ ε) Packet).run (.fresh bus)).1,
        ((request limits p : Act ε (Recorded σ ε) Packet).run (.fresh bus)).2.bus) ∧
    (awaitCounted limits.pollLimit 0 : Act ε σ _) = do
      return .ok ((← awaitAnswer limits.pollLimit.toNat).map UInt32.ofNat) := by
  have same := relates_request_recorded limits p (.fresh bus) bus rfl
  refine ⟨fun e sent unsent => run_request_unsent unsent, fun n sent ran => awaits_of_sent ran,
    ?_, awaitCounted_eq limits.pollLimit⟩
  exact run_eq_iff.mpr ⟨same.result.symm, same.state.symm⟩

end Requesting

end Client

end Coprocessor
