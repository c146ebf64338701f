import Coprocessor.Interrupt.VectorTable
import Coprocessor.Proofs.Act.Triple

/-!
What servicing interrupts preserves: whatever every handler of the table preserves and the
interrupt controller has no part in. Over simulated lines, what it does.
-/
namespace Coprocessor

open Act

/-! ## Tables -/

/-- A table that has room takes a vector for a source that has none. -/
theorem VectorTable.register_eq_ok {ε τ : Type} {t : VectorTable ε τ} {v : InterruptVector ε τ}
    (new : ∀ w ∈ t.vectors, w.source ≠ v.source) (room : t.vectors.length ≠ maxVectors) :
    t.register v = .ok ⟨v.insert t.vectors⟩ := by
  have absent : t.vectors.any (·.source == v.source) = false := by
    simpa using new
  rw [register, absent, if_neg Bool.false_ne_true, if_neg room]

namespace VectorTable

variable {ε τ κ : Type} [InterruptController κ] [HasController τ κ] {P : τ → Prop}

/-- A round of servicing. Once no source is ready it gives the number of rounds before it. -/
def round (t : VectorTable ε τ) (i : Nat) : Act ε τ (Option Nat) := do
  match ← t.serviceMostUrgent with
  | none => return some i
  | some _ => return none

/-! ## What servicing keeps -/

section Keeps

variable (aside : ∀ s (c : κ), P s → P ((HasController.controllerPart s).2 c))
include aside

omit [InterruptController κ] in
theorem keeps_onController {α : Type} (x : Act Empty κ α) :
    Keeps P (onController x : Act ε τ α) :=
  Keeps.beside aside _

/-- A vector that is found ready is one of those looked at. -/
theorem triple_findReady (vectors : List (InterruptVector ε τ)) :
    Triple P (findReady vectors) (fun found s => (∀ v, found = some v → v ∈ vectors) ∧ P s)
      (fun _ => P) := by
  induction vectors with
  | nil => exact fun s hs => ⟨nofun, hs⟩
  | cons v rest ih =>
    have later : Triple P (findReady rest)
        (fun found s => (∀ w, found = some w → w ∈ v :: rest) ∧ P s) (fun _ => P) :=
      ih.mono (fun _ hs => hs)
        (fun found s hs => ⟨fun w hw => List.mem_cons_of_mem v (hs.1 w hw), hs.2⟩)
        (fun _ _ hs => hs)
    rw [findReady]
    refine (keeps_onController aside _).triple.bind fun enabled => ?_
    split
    · refine (keeps_onController aside _).triple.bind fun pending => ?_
      split
      · intro s hs
        refine ⟨fun w hw => ?_, hs⟩
        cases hw
        exact List.mem_cons_self
      · exact later
    · exact later

theorem keeps_serviceMostUrgent {t : VectorTable ε τ}
    (handlers : ∀ v ∈ t.vectors, Keeps P v.handler) : Keeps P t.serviceMostUrgent := by
  refine ((triple_findReady aside t.vectors).bind fun found => Triple.of_fact fun mem => ?_).keeps
  cases found with
  | none => exact (Keeps.pure none).triple
  | some v =>
    have handler := handlers v (mem v rfl)
    exact ((Keeps.log _).bind fun _ => (keeps_onController aside _).bind fun _ =>
      handler.bind fun _ => Keeps.pure _).triple

theorem keeps_serviceUpTo {t : VectorTable ε τ}
    (handlers : ∀ v ∈ t.vectors, Keeps P v.handler) (limit : Nat) :
    Keeps P (t.serviceUpTo limit) := by
  have once := keeps_serviceMostUrgent aside handlers
  -- up to the limit a round at a time, and once more to see whether any is left
  have rounds : ∀ i, Keeps P (t.round i) := by
    intro i
    refine once.bind fun serviced => ?_
    cases serviced with
    | none => exact Keeps.pure _
    | some source => exact Keeps.pure _
  refine (Keeps.firstSome rounds limit 0).bind fun finished => ?_
  cases finished with
  | some n => exact Keeps.pure _
  | none =>
    refine once.bind fun serviced => ?_
    cases serviced with
    | none => exact Keeps.pure _
    | some source => exact (Keeps.log _).bind fun _ => Keeps.pure _

end Keeps

/-! ## Any controller -/

/-- The context once its controller has been told that the handler of a source is entered. -/
def atEntry (s : τ) (source : Source) : τ :=
  (HasController.controllerPart s).2
    ((InterruptController.acknowledge source).run (HasController.controllerPart s).1).2

omit [InterruptController κ] in
/-- A controller answers whatever it is asked. -/
theorem exists_run_onController {α : Type} (x : Act Empty κ α) (s : τ) :
    ∃ a s', (onController x : Act ε τ α).run s = (.ok a, s') := by
  obtain ⟨a, answers⟩ := exists_run_sure (ε := ε) x (HasController.controllerPart s).1
  exact ⟨a, _, run_within_eq answers⟩

/-- Looking for a ready vector comes to an end. -/
theorem exists_run_findReady (vectors : List (InterruptVector ε τ)) (s : τ) :
    ∃ found s', (findReady vectors).run s = (.ok found, s') := by
  induction vectors generalizing s with
  | nil => exact ⟨none, s, rfl⟩
  | cons v rest ih =>
    obtain ⟨enabled, s₁, first⟩ :=
      exists_run_onController (ε := ε) (InterruptController.isEnabled v.source) s
    rw [findReady, run_bind_ok first]
    cases enabled with
    | false => exact ih s₁
    | true =>
      obtain ⟨pending, s₂, second⟩ :=
        exists_run_onController (ε := ε) (InterruptController.isPending v.source) s₁
      rw [if_pos rfl, run_bind_ok second]
      cases pending with
      | false => exact ih s₂
      | true => exact ⟨some v, s₂, rfl⟩

theorem run_acknowledge (s : τ) (source : Source) :
    (onController (InterruptController.acknowledge source) : Act ε τ Unit).run s =
      (.ok (), atEntry s source) := by
  rcases told : (InterruptController.acknowledge source).run (HasController.controllerPart s).1 with
    ⟨e | done, c⟩
  · exact e.elim
  · rw [onController, run_within_eq (run_sure told), atEntry, told]

section Found

variable {t : VectorTable ε τ} {s s₀ : τ} {v : InterruptVector ε τ}

/-- The handler of the vector that is found runs once. -/
theorem run_serviceMostUrgent_found (found : (findReady t.vectors).run s = (.ok (some v), s₀)) :
    t.serviceMostUrgent.run s =
      (do v.handler; return some v.source : Act ε τ (Option Source)).run
        (atEntry s₀ v.source) := by
  rw [serviceMostUrgent, run_bind_ok found, run_log_bind, run_bind_ok (run_acknowledge s₀ v.source)]

theorem run_serviceMostUrgent_unfound (found : (findReady t.vectors).run s = (.ok none, s₀)) :
    t.serviceMostUrgent.run s = (.ok none, s₀) :=
  run_bind_ok found _

end Found

/-! ## Controllers whose answers change nothing -/

/-- What the controller of a context answers to a question. -/
def asks (s : τ) (question : Act Empty κ Bool) : Bool :=
  match (question.run (HasController.controllerPart s).1).1 with
  | .ok answer => answer
  | .error e => e.elim

/-- Whether a source is enabled and pending. -/
def isReady (s : τ) (source : Source) : Bool :=
  asks s (InterruptController.isEnabled source) && asks s (InterruptController.isPending source)

/-- Asking whether a source is enabled or pending leaves the context as it is. -/
structure Observing (τ : Type) {κ : Type} [InterruptController κ] [HasController τ κ] : Prop where
  enabled : ∀ (s : τ) (source : Source), (HasController.controllerPart s).2
    ((InterruptController.isEnabled source).run (HasController.controllerPart s).1).2 = s
  pending : ∀ (s : τ) (source : Source), (HasController.controllerPart s).2
    ((InterruptController.isPending source).run (HasController.controllerPart s).1).2 = s

omit [InterruptController κ] in
theorem run_asks {s : τ} {question : Act Empty κ Bool}
    (unchanged : (HasController.controllerPart s).2
      (question.run (HasController.controllerPart s).1).2 = s) :
    (onController question : Act ε τ Bool).run s = (.ok (asks s question), s) := by
  rcases answered : question.run (HasController.controllerPart s).1 with ⟨e | answer, c⟩
  · exact e.elim
  · rw [answered] at unchanged
    have shown : asks s question = answer := by rw [asks, answered]
    rw [onController, run_within_eq (run_sure answered), unchanged, shown]

section Observing

variable (observing : Observing τ)
include observing

/-- Looking for a ready vector changes nothing and finds the first. -/
theorem run_findReady_of_observing (vectors : List (InterruptVector ε τ)) (s : τ) :
    (findReady vectors).run s = (.ok (vectors.find? fun v => isReady s v.source), s) := by
  induction vectors with
  | nil => rfl
  | cons v rest ih =>
    rw [findReady, run_bind_ok (run_asks (observing.enabled s v.source)), List.find?_cons, isReady]
    cases asks s (InterruptController.isEnabled v.source) with
    | false => exact ih
    | true =>
      rw [if_pos rfl, run_bind_ok (run_asks (observing.pending s v.source)), Bool.true_and]
      cases asks s (InterruptController.isPending v.source) with
      | false => exact ih
      | true => rfl

/-- The first vector that is ready has its handler run once, and where there is none nothing
happens. -/
theorem run_serviceMostUrgent_eq (t : VectorTable ε τ) (s : τ) :
    t.serviceMostUrgent.run s =
      match t.vectors.find? fun v => isReady s v.source with
      | none => (.ok none, s)
      | some v =>
        (do v.handler; return some v.source : Act ε τ (Option Source)).run
          (atEntry s v.source) := by
  have found := run_findReady_of_observing observing t.vectors s
  cases first : t.vectors.find? fun v => isReady s v.source with
  | none =>
    rw [first] at found
    exact run_serviceMostUrgent_unfound found
  | some v =>
    rw [first] at found
    exact run_serviceMostUrgent_found found

end Observing

/-! ## Simulated lines -/

section Lines

variable [HasController τ Lines]

def linesOf (s : τ) : Lines :=
  (HasController.controllerPart s).1

/-- The context at the entry to the handler of a source. -/
def entered (s : τ) (source : Source) : τ :=
  (HasController.controllerPart s).2
    ((linesOf s).mapLine (fun l => { l with acknowledged := l.acknowledged + 1 }) source)

variable (whole : ∀ s : τ, (HasController.controllerPart s).2 (linesOf s) = s)
include whole

theorem observing_lines : Observing τ :=
  ⟨fun s _ => whole s, fun s _ => whole s⟩

theorem run_serviceMostUrgent_none {t : VectorTable ε τ} {s : τ}
    (quiet : ∀ v ∈ t.vectors, (linesOf s).ready v.source = false) :
    t.serviceMostUrgent.run s = (.ok none, s) := by
  have found : t.vectors.find? (fun v => isReady s v.source) = none := by
    rw [List.find?_eq_none]
    intro v mem ready
    exact Bool.false_ne_true ((quiet v mem).symm.trans ready)
  rw [run_serviceMostUrgent_eq (observing_lines whole), found]

theorem run_serviceMostUrgent {t : VectorTable ε τ} {s s' : τ} {v : InterruptVector ε τ}
    (first : t.vectors.find? (fun v => (linesOf s).ready v.source) = some v)
    (handles : v.handler.run (entered s v.source) = (.ok (), s')) :
    t.serviceMostUrgent.run s = (.ok (some v.source), s') := by
  have found : t.vectors.find? (fun v => isReady s v.source) = some v := first
  rw [run_serviceMostUrgent_eq (observing_lines whole), found]
  exact run_bind_ok handles _

end Lines

/-! ## Rounds -/

/-- Rounds of servicing, one for each of the sources that they serviced. -/
inductive Rounds (t : VectorTable ε τ) : τ → List Source → τ → Prop
  | start (s : τ) : Rounds t s [] s
  | next {s s₁ s' : τ} {source : Source} {rest : List Source}
    (serviced : t.serviceMostUrgent.run s = (.ok (some source), s₁)) (later : Rounds t s₁ rest s') :
    Rounds t s (source :: rest) s'

variable {t : VectorTable ε τ} {s s' : τ} {sources : List Source}

theorem Rounds.split {first rest : List Source} (rounds : Rounds t s (first ++ rest) s') :
    ∃ s₁, Rounds t s first s₁ ∧ Rounds t s₁ rest s' := by
  induction first generalizing s with
  | nil => exact ⟨s, .start s, rounds⟩
  | cons source first ih =>
    cases rounds with
    | next serviced later =>
      obtain ⟨s₁, before, after⟩ := ih later
      exact ⟨s₁, .next serviced before, after⟩

/-- A loop that has rounds to do goes on where they end. -/
theorem Rounds.run_firstSome (rounds : Rounds t s sources s') (n i : Nat) :
    (firstSome (sources.length + n) i t.round).run s =
      (firstSome n (i + sources.length) t.round).run s' := by
  induction rounds generalizing i with
  | start s => rw [List.length_nil, Nat.zero_add, Nat.add_zero]
  | @next s s₁ s' source rest serviced later ih =>
    have goesOn : (t.round i).run s = (.ok none, s₁) := run_bind_ok serviced _
    have count : (source :: rest).length + n = rest.length + n + 1 := by
      rw [List.length_cons]
      omega
    rw [count, firstSome_succ, run_bind_ok goesOn]
    dsimp only
    rw [ih, List.length_cons, Nat.add_assoc, Nat.add_comm 1]

/-- Rounds after which no source is ready, within the limit. -/
theorem Rounds.run_serviceUpTo {s₁ : τ} (rounds : Rounds t s sources s')
    (quiet : t.serviceMostUrgent.run s' = (.ok none, s₁)) {limit : Nat}
    (within : sources.length ≤ limit) :
    (t.serviceUpTo limit).run s = (.ok (.ok sources.length), s₁) := by
  obtain ⟨n, rfl⟩ := Nat.exists_eq_add_of_le within
  have loop := rounds.run_firstSome n 0
  rw [Nat.zero_add] at loop
  cases n with
  | zero => exact (run_bind_ok (loop.trans (run_pure none s')) _).trans (run_bind_ok quiet _)
  | succ n =>
    have stops : (t.round sources.length).run s' = (.ok (some sources.length), s₁) :=
      run_bind_ok quiet _
    rw [firstSome_succ, run_bind_ok stops] at loop
    exact run_bind_ok loop _

/-- One round more than the limit is done, and reported. -/
theorem Rounds.run_serviceUpTo_unending (rounds : Rounds t s sources s') {limit : Nat}
    (beyond : sources.length = limit + 1) :
    (t.serviceUpTo limit).run s = (.ok (.error .timeout), s') := by
  rcases List.eq_nil_or_concat sources with rfl | ⟨first, last, rfl⟩
  · cases beyond
  · rw [List.concat_eq_append] at rounds beyond
    obtain ⟨s₁, before, after⟩ := rounds.split
    cases after with
    | next serviced later =>
      cases later
      have count : first.length = limit := by simpa using beyond
      have loop := before.run_firstSome 0 0
      rw [Nat.add_zero, count] at loop
      exact (run_bind_ok (loop.trans (run_pure none s₁)) _).trans (run_bind_ok serviced _)

theorem run_serviceUpTo_none (quiet : t.serviceMostUrgent.run s = (.ok none, s)) (limit : Nat) :
    (t.serviceUpTo limit).run s = (.ok (.ok 0), s) :=
  (Rounds.start s).run_serviceUpTo quiet (Nat.zero_le limit)

/-- One source is serviced and leaves none ready. -/
theorem run_serviceUpTo_once {source : Source}
    (serviced : t.serviceMostUrgent.run s = (.ok (some source), s'))
    (quiet : t.serviceMostUrgent.run s' = (.ok none, s')) (n : Nat) :
    (t.serviceUpTo (n + 2)).run s = (.ok (.ok 1), s') :=
  (Rounds.next serviced (.start s')).run_serviceUpTo quiet (Nat.le_add_left 1 (n + 1))

end VectorTable

end Coprocessor
