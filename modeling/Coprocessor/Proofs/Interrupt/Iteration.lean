import Coprocessor.Proofs.Interrupt.Servicing
import Coprocessor.Simulation.ScriptedHandlers

/-!
The service loop as bounded iteration. Rounds of servicing go from context to context, one handler
each, until no source is ready or a handler fails; the limit decides only how far along that one
sequence the loop goes. Handlers may clear, leave or raise any source, and a controller may change
when it is asked.
-/
namespace Coprocessor.VectorTable

open Act

variable {ε τ κ : Type} [InterruptController κ] [HasController τ κ]

/-! ## Sequences of rounds -/

/-- The vectors whose handlers have run to their end, one in each round: the round has found its
vector, entered the handler and left what the handler left. -/
inductive Turns (t : VectorTable ε τ) : τ → List (InterruptVector ε τ) → τ → Prop
  | start (s : τ) : Turns t s [] s
  | next {s s₀ s₁ s' : τ} {v : InterruptVector ε τ} {rest : List (InterruptVector ε τ)}
    (found : (findReady t.vectors).run s = (.ok (some v), s₀))
    (ran : v.handler.run (atEntry s₀ v.source) = (.ok (), s₁)) (later : Turns t s₁ rest s') :
    Turns t s (v :: rest) s'

/-- The `n` rounds after which no vector is found, so that one more runs no handler. -/
def RestsAfter (t : VectorTable ε τ) (s : τ) (n : Nat) (s' : τ) : Prop :=
  ∃ vectors s₁, Turns t s vectors s₁ ∧ vectors.length = n ∧
    (findReady t.vectors).run s₁ = (.ok none, s')

variable {t : VectorTable ε τ} {s s' : τ} {vectors : List (InterruptVector ε τ)}

theorem Turns.rounds (turns : Turns t s vectors s') :
    Rounds t s (vectors.map InterruptVector.source) s' := by
  induction turns with
  | start s => exact .start s
  | next found ran _ ih =>
    exact .next ((run_serviceMostUrgent_found found).trans (run_bind_ok ran _)) ih

theorem Turns.split {first rest : List (InterruptVector ε τ)}
    (turns : Turns t s (first ++ rest) s') : ∃ s₁, Turns t s first s₁ ∧ Turns t s₁ rest s' := by
  induction first generalizing s with
  | nil => exact ⟨s, .start s, turns⟩
  | cons v first ih =>
    cases turns with
    | next found ran later =>
      obtain ⟨s₁, before, after⟩ := ih later
      exact ⟨s₁, .next found ran before, after⟩

/-- Of any number of rounds, either all can be made, or no vector is found after some of them, or a
handler fails after some of them. -/
theorem turns_or_rests_or_fails (t : VectorTable ε τ) (s : τ) (n : Nat) :
    (∃ vectors s', Turns t s vectors s' ∧ vectors.length = n) ∨
    (∃ m s', m < n ∧ RestsAfter t s m s') ∨
    ∃ vectors s₁ e s', Turns t s vectors s₁ ∧ vectors.length < n ∧
      t.serviceMostUrgent.run s₁ = (.error e, s') := by
  induction n generalizing s with
  | zero => exact .inl ⟨[], s, .start s, rfl⟩
  | succ n ih =>
    obtain ⟨found, s₀, looked⟩ := exists_run_findReady t.vectors s
    cases found with
    | none => exact .inr (.inl ⟨0, s₀, Nat.succ_pos n, [], s, .start s, rfl, looked⟩)
    | some v =>
      rcases ran : v.handler.run (atEntry s₀ v.source) with ⟨e | ⟨⟩, s₁⟩
      · exact .inr (.inr ⟨[], s, e, s₁, .start s, Nat.succ_pos n,
          (run_serviceMostUrgent_found looked).trans (run_bind_error ran _)⟩)
      · rcases ih s₁ with ⟨vectors, s', turns, rfl⟩ |
          ⟨m, s', less, vectors, s₂, turns, rfl, rests⟩ | ⟨vectors, s₂, e, s', turns, less, fails⟩
        · exact .inl ⟨v :: vectors, s', .next looked ran turns, rfl⟩
        · exact .inr (.inl ⟨_, s', Nat.succ_lt_succ less, v :: vectors, s₂,
            .next looked ran turns, rfl, rests⟩)
        · exact .inr (.inr ⟨v :: vectors, s₂, e, s', .next looked ran turns,
            Nat.succ_lt_succ less, fails⟩)

/-! ## How far the loop goes along them -/

/-- A handler that fails within the limit ends the loop. -/
theorem Turns.run_serviceUpTo_failed (turns : Turns t s vectors s') {s₁ : τ} {e : ε}
    (fails : t.serviceMostUrgent.run s' = (.error e, s₁)) {limit : Nat}
    (within : vectors.length ≤ limit) : (t.serviceUpTo limit).run s = (.error e, s₁) := by
  obtain ⟨n, rfl⟩ := Nat.exists_eq_add_of_le within
  have loop := turns.rounds.run_firstSome n 0
  rw [List.length_map, Nat.zero_add] at loop
  cases n with
  | zero => exact (run_bind_ok (loop.trans (run_pure none s')) _).trans (run_bind_error fails _)
  | succ n =>
    have stops : (t.round vectors.length).run s' = (.error e, s₁) := run_bind_error fails _
    rw [firstSome_succ, run_bind_error stops] at loop
    exact run_bind_error loop _

theorem Turns.run_serviceUpTo_unending (turns : Turns t s vectors s') {limit : Nat}
    (beyond : vectors.length = limit + 1) :
    (t.serviceUpTo limit).run s = (.ok (.error .timeout), s') :=
  turns.rounds.run_serviceUpTo_unending ((List.length_map _).trans beyond)

theorem RestsAfter.run_serviceUpTo {n limit : Nat} (rests : RestsAfter t s n s')
    (within : n ≤ limit) : (t.serviceUpTo limit).run s = (.ok (.ok n), s') := by
  obtain ⟨vectors, s₁, turns, rfl, unfound⟩ := rests
  have length : (vectors.map InterruptVector.source).length = vectors.length := List.length_map _
  have settled :=
    turns.rounds.run_serviceUpTo (run_serviceMostUrgent_unfound unfound) (length ▸ within)
  rwa [length] at settled

/-- A limit below the number of rounds is exceeded. -/
theorem RestsAfter.run_serviceUpTo_less {n less : Nat} (rests : RestsAfter t s n s')
    (short : less < n) : ∃ s₁, (t.serviceUpTo less).run s = (.ok (.error .timeout), s₁) := by
  obtain ⟨vectors, s₁, turns, rfl, -⟩ := rests
  rw [← List.take_append_drop (less + 1) vectors] at turns
  obtain ⟨s₂, before, -⟩ := turns.split
  exact ⟨s₂, before.run_serviceUpTo_unending (List.length_take_of_le short)⟩

/-- The loop gives a number, reports that it is unending, or fails with a handler, according to what
becomes of one round more than its limit. -/
theorem serviceUpTo_cases (t : VectorTable ε τ) (s : τ) (limit : Nat) :
    (∃ n s', n ≤ limit ∧ RestsAfter t s n s' ∧
      (t.serviceUpTo limit).run s = (.ok (.ok n), s')) ∨
    (∃ vectors s', Turns t s vectors s' ∧ vectors.length = limit + 1 ∧
      (t.serviceUpTo limit).run s = (.ok (.error .timeout), s')) ∨
    ∃ vectors s₁ e s', Turns t s vectors s₁ ∧ vectors.length ≤ limit ∧
      t.serviceMostUrgent.run s₁ = (.error e, s') ∧
      (t.serviceUpTo limit).run s = (.error e, s') := by
  rcases turns_or_rests_or_fails t s (limit + 1) with
    ⟨vectors, s', turns, length⟩ | ⟨n, s', less, rests⟩ | ⟨vectors, s₁, e, s', turns, less, fails⟩
  · exact .inr (.inl ⟨vectors, s', turns, length, turns.run_serviceUpTo_unending length⟩)
  · have within := Nat.lt_succ_iff.mp less
    exact .inl ⟨n, s', within, rests, rests.run_serviceUpTo within⟩
  · have within := Nat.lt_succ_iff.mp less
    exact .inr (.inr ⟨vectors, s₁, e, s', turns, within, fails,
      turns.run_serviceUpTo_failed fails within⟩)

/-- Rounds in which every handler runs to its end do not fail. -/
theorem not_fails_of_handlers (handlers : ∀ v ∈ t.vectors, ∀ s, (v.handler.run s).1 = .ok ())
    {e : ε} : t.serviceMostUrgent.run s ≠ (.error e, s') := by
  intro fails
  obtain ⟨found, s₀, looked⟩ := exists_run_findReady t.vectors s
  cases found with
  | none => cases fails.symm.trans (run_serviceMostUrgent_unfound looked)
  | some v =>
    have anywhere : ∀ (_ : τ) (_ : κ), True → True := fun _ _ h => h
    have mem := ((triple_findReady anywhere t.vectors).ok trivial looked).1 v rfl
    have ended := handlers v mem (atEntry s₀ v.source)
    rcases ran : v.handler.run (atEntry s₀ v.source) with ⟨e' | ⟨⟩, s₁⟩
    · rw [ran] at ended
      cases ended
    · cases fails.symm.trans ((run_serviceMostUrgent_found looked).trans (run_bind_ok ran _))

theorem run_serviceUpTo_eq_ok_iff {limit n : Nat} :
    (t.serviceUpTo limit).run s = (.ok (.ok n), s') ↔ n ≤ limit ∧ RestsAfter t s n s' := by
  refine ⟨fun given => ?_, fun ⟨within, rests⟩ => rests.run_serviceUpTo within⟩
  rcases serviceUpTo_cases t s limit with ⟨m, s₁, within, rests, found⟩ |
    ⟨vectors, s₁, -, -, found⟩ | ⟨vectors, s₁, e, s₂, -, -, -, found⟩
  · cases given.symm.trans found
    exact ⟨within, rests⟩
  · cases given.symm.trans found
  · cases given.symm.trans found

theorem run_serviceUpTo_eq_unending_iff {limit : Nat} {e : Error} :
    (t.serviceUpTo limit).run s = (.ok (.error e), s') ↔
      e = .timeout ∧ ∃ vectors, Turns t s vectors s' ∧ vectors.length = limit + 1 := by
  refine ⟨fun given => ?_, fun ⟨timeout, vectors, turns, length⟩ =>
    timeout ▸ turns.run_serviceUpTo_unending length⟩
  rcases serviceUpTo_cases t s limit with ⟨m, s₁, -, -, found⟩ |
    ⟨vectors, s₁, turns, length, found⟩ | ⟨vectors, s₁, e', s₂, -, -, -, found⟩
  · cases given.symm.trans found
  · cases given.symm.trans found
    exact ⟨rfl, vectors, turns, length⟩
  · cases given.symm.trans found

theorem run_serviceUpTo_eq_failed_iff {limit : Nat} {e : ε} :
    (t.serviceUpTo limit).run s = (.error e, s') ↔
      ∃ vectors s₁, Turns t s vectors s₁ ∧ vectors.length ≤ limit ∧
        t.serviceMostUrgent.run s₁ = (.error e, s') := by
  refine ⟨fun given => ?_, fun ⟨vectors, s₁, turns, within, fails⟩ =>
    turns.run_serviceUpTo_failed fails within⟩
  rcases serviceUpTo_cases t s limit with ⟨m, s₁, -, -, found⟩ |
    ⟨vectors, s₁, -, -, found⟩ | ⟨vectors, s₁, e', s₂, turns, within, fails, found⟩
  · cases given.symm.trans found
  · cases given.symm.trans found
  · cases given.symm.trans found
    exact ⟨vectors, s₁, turns, within, fails⟩

/-- Where every handler runs to its end, the loop that finds no rest within its limit makes one
round more than that. -/
theorem exists_unending_of_handlers
    (handlers : ∀ v ∈ t.vectors, ∀ s, (v.handler.run s).1 = .ok ()) {limit : Nat}
    (unresting : ¬ ∃ n s', n ≤ limit ∧ RestsAfter t s n s') :
    ∃ vectors s', (t.serviceUpTo limit).run s = (.ok (.error .timeout), s') ∧
      Turns t s vectors s' ∧ vectors.length = limit + 1 := by
  rcases serviceUpTo_cases t s limit with ⟨n, s', within, rests, -⟩ |
    ⟨vectors, s', turns, length, found⟩ | ⟨vectors, s₁, e, s', -, -, fails, -⟩
  · exact absurd ⟨n, s', within, rests⟩ unresting
  · exact ⟨vectors, s', found, turns, length⟩
  · exact absurd fails (not_fails_of_handlers handlers)

/-! ## Rest where asking changes nothing -/

/-- Where asking changes nothing, rest is where no source is ready, and one more round changes
nothing either. -/
theorem RestsAfter.quiet (observing : Observing τ) {n : Nat} (rests : RestsAfter t s n s') :
    (∀ v ∈ t.vectors, isReady s' v.source = false) ∧
      t.serviceMostUrgent.run s' = (.ok none, s') := by
  obtain ⟨vectors, s₁, -, -, unfound⟩ := rests
  have looks := run_findReady_of_observing observing t.vectors s₁
  obtain ⟨none_ready, rfl⟩ := Prod.mk.inj (looks.symm.trans unfound)
  refine ⟨fun v mem => ?_, run_serviceMostUrgent_unfound unfound⟩
  exact Bool.eq_false_iff.mpr (List.find?_eq_none.mp (Except.ok.inj none_ready) v mem)

/-- Servicing up to a limit is iterating rounds, with any controller and any handlers. It gives `n`
exactly where `n` is within the limit and `n` rounds run a handler each, after which no vector is
found; the context is then the one after those rounds. It gives a timeout exactly where one round
more than the limit can be made, and it fails exactly where a handler does within the limit; where
handlers run to their end, it is always one of the first two. A number that one limit gives, every
limit from that number on gives with the same context, and every limit below it gives a timeout.
Where asking a controller changes nothing, the vector of a round is the first whose source is
enabled and pending, and after the last of them no source is and one more round changes nothing. -/
theorem serviceUpTo_iterates (t : VectorTable ε τ) (s : τ) (limit : Nat) :
    (∀ n s', (t.serviceUpTo limit).run s = (.ok (.ok n), s') ↔ n ≤ limit ∧ RestsAfter t s n s') ∧
    (∀ e s', (t.serviceUpTo limit).run s = (.ok (.error e), s') ↔ e = .timeout ∧
      ∃ vectors, Turns t s vectors s' ∧ vectors.length = limit + 1) ∧
    (∀ e s', (t.serviceUpTo limit).run s = (.error e, s') ↔
      ∃ vectors s₁, Turns t s vectors s₁ ∧ vectors.length ≤ limit ∧
        t.serviceMostUrgent.run s₁ = (.error e, s')) ∧
    ((∀ v ∈ t.vectors, ∀ s, (v.handler.run s).1 = .ok ()) →
      (¬ ∃ n s', n ≤ limit ∧ RestsAfter t s n s') →
      ∃ vectors s', (t.serviceUpTo limit).run s = (.ok (.error .timeout), s') ∧
        Turns t s vectors s' ∧ vectors.length = limit + 1) ∧
    (∀ n s', (t.serviceUpTo limit).run s = (.ok (.ok n), s') →
      (∀ more, n ≤ more → (t.serviceUpTo more).run s = (.ok (.ok n), s')) ∧
      ∀ less, less < n → ∃ s₁, (t.serviceUpTo less).run s = (.ok (.error .timeout), s₁)) ∧
    (Observing τ →
      (∀ s, (findReady t.vectors).run s = (.ok (t.vectors.find? fun v => isReady s v.source), s)) ∧
      ∀ n s', RestsAfter t s n s' → (∀ v ∈ t.vectors, isReady s' v.source = false) ∧
        t.serviceMostUrgent.run s' = (.ok none, s')) := by
  refine ⟨fun n s' => run_serviceUpTo_eq_ok_iff, fun e s' => run_serviceUpTo_eq_unending_iff,
    fun e s' => run_serviceUpTo_eq_failed_iff,
    fun handlers => exists_unending_of_handlers handlers, ?_, ?_⟩
  · intro n s' given
    obtain ⟨-, rests⟩ := run_serviceUpTo_eq_ok_iff.mp given
    exact ⟨fun more within => rests.run_serviceUpTo within,
      fun less short => rests.run_serviceUpTo_less short⟩
  · intro observing
    exact ⟨run_findReady_of_observing observing t.vectors,
      fun n s' rests => rests.quiet observing⟩

/-! ## Handlers that raise each other -/

theorem observing_scripted : Observing ScriptedHandlers :=
  observing_lines fun _ => rfl

/-- A vector for each source. -/
def bothScripted : VectorTable Trap ScriptedHandlers :=
  ⟨[⟨.mailboxAvailable, 1, ScriptedHandlers.handler .mailboxAvailable⟩,
    ⟨.mailboxAbort, 1, ScriptedHandlers.handler .mailboxAbort⟩]⟩

/-- A request is pending; each handler clears its source, and the first to run for a request raises
an abort. -/
def abortRaised : ScriptedHandlers where
  controller := ⟨{ Line.idle with enabled := true, pending := true },
    { Line.idle with enabled := true }⟩
  onAvailable := [[.clear, .triggerOther]]
  onAbort := [[.clear]]
  runs := []

/-- Two handlers run within a limit of three. With room for one, both run and a timeout is given;
and a handler that clears nothing runs four times under a limit of three. -/
theorem serviceUpTo_iterates_abortRaised :
    Observing ScriptedHandlers ∧
    (∃ s', RestsAfter bothScripted abortRaised 2 s' ∧
      (∀ v ∈ bothScripted.vectors, isReady s' v.source = false) ∧
      (bothScripted.serviceUpTo 3).run abortRaised = (.ok (.ok 2), s') ∧
      ∃ s₁, (bothScripted.serviceUpTo 1).run abortRaised = (.ok (.error .timeout), s₁)) ∧
    ∃ s' vectors, (bothScripted.serviceUpTo 3).run { abortRaised with onAvailable := [] } =
        (.ok (.error .timeout), s') ∧
      Turns bothScripted { abortRaised with onAvailable := [] } vectors s' ∧
      vectors.length = 4 := by
  have both : ∃ s', (bothScripted.serviceUpTo 3).run abortRaised = (.ok (.ok 2), s') := ⟨_, rfl⟩
  have unending : ∃ s', (bothScripted.serviceUpTo 3).run { abortRaised with onAvailable := [] } =
      (.ok (.error .timeout), s') := ⟨_, rfl⟩
  obtain ⟨s', ran⟩ := both
  obtain ⟨s₁, stopped⟩ := unending
  obtain ⟨number, -, -, -, limits, observed⟩ := serviceUpTo_iterates bothScripted abortRaised 3
  obtain ⟨-, timeout, -⟩ :=
    serviceUpTo_iterates bothScripted { abortRaised with onAvailable := [] } 3
  obtain ⟨-, vectors, turns, length⟩ := (timeout .timeout s₁).mp stopped
  obtain ⟨-, rests⟩ := (number 2 s').mp ran
  exact ⟨observing_scripted, ⟨s', rests, ((observed observing_scripted).2 2 s' rests).1, ran,
    (limits 2 s' ran).2 1 (by decide)⟩, s₁, vectors, stopped, turns, length⟩

end Coprocessor.VectorTable
