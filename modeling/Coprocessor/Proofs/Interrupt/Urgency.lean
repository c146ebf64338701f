import Mathlib.Data.List.Perm.Subperm
import Mathlib.Data.Prod.Lex
import Coprocessor.Proofs.Interrupt.Servicing
import Coprocessor.Simulation.ScriptedHandlers

/-!
Vector tables keep the most urgent source first. Whatever is registered, and in whatever order, the
vectors are strictly sorted by priority and interrupt number, so that the first ready one is the most
urgent ready one.
-/
namespace Coprocessor

open Act

variable {ε τ : Type}

/-! ## Sorted vectors -/

namespace InterruptVector

variable {v w : InterruptVector ε τ} {vectors : List (InterruptVector ε τ)}

/-- Priority, then interrupt number: the lesser is the more urgent. -/
def urgency (v : InterruptVector ε τ) : ℕ ×ₗ ℕ :=
  toLex (v.priority.toNat, v.source.number)

theorem before_iff : v.before w = true ↔ v.urgency < w.urgency := by
  rw [urgency, urgency, Prod.Lex.toLex_lt_toLex]
  simp [before, UInt8.lt_iff_toNat_lt, ← UInt8.toNat_inj]

theorem urgency_ne (other : w.source ≠ v.source) : v.urgency ≠ w.urgency := by
  intro same
  have numbers : v.source.number = w.source.number := congrArg (fun key => (ofLex key).2) same
  exact other (Source.number_injective numbers).symm

theorem perm_insert (v : InterruptVector ε τ) (vectors : List (InterruptVector ε τ)) :
    (v.insert vectors).Perm (v :: vectors) := by
  induction vectors with
  | nil => exact .refl _
  | cons head rest ih =>
    rw [insert]
    split
    · exact .refl _
    · exact (ih.cons head).trans (.swap v head rest)

/-- Vectors from the most urgent to the least, with one at most for each source. -/
structure Ordered (vectors : List (InterruptVector ε τ)) : Prop where
  sorted : vectors.Pairwise fun v w => v.urgency < w.urgency
  distinct : vectors.Pairwise fun v w => v.source ≠ w.source

theorem sorted_insert (sorted : vectors.Pairwise fun v w => v.urgency < w.urgency)
    (new : ∀ w ∈ vectors, w.source ≠ v.source) :
    (v.insert vectors).Pairwise fun v w => v.urgency < w.urgency := by
  induction vectors with
  | nil => exact List.pairwise_singleton _ v
  | cons head rest ih =>
    obtain ⟨head_first, rest_sorted⟩ := List.pairwise_cons.mp sorted
    rw [insert]
    split
    · next earlier =>
      have first : v.urgency < head.urgency := before_iff.mp earlier
      refine List.pairwise_cons.mpr ⟨fun w mem => ?_, sorted⟩
      rcases List.mem_cons.mp mem with rfl | later
      · exact first
      · exact first.trans (head_first w later)
    · next later =>
      rw [before_iff] at later
      have first : head.urgency < v.urgency :=
        lt_of_le_of_ne (not_lt.mp later) (urgency_ne (new head List.mem_cons_self)).symm
      refine List.pairwise_cons.mpr ⟨fun w mem => ?_,
        ih rest_sorted fun w mem => new w (List.mem_cons_of_mem head mem)⟩
      rcases mem_insert.mp mem with rfl | mem
      · exact first
      · exact head_first w mem

theorem distinct_of_perm {others : List (InterruptVector ε τ)} (perm : vectors.Perm others) :
    vectors.Pairwise (fun v w => v.source ≠ w.source) ↔
      others.Pairwise fun v w => v.source ≠ w.source :=
  perm.pairwise_iff Ne.symm

namespace Ordered

theorem nil : Ordered ([] : List (InterruptVector ε τ)) :=
  ⟨.nil, .nil⟩

theorem insert (ordered : Ordered vectors) (new : ∀ w ∈ vectors, w.source ≠ v.source) :
    Ordered (v.insert vectors) where
  sorted := sorted_insert ordered.sorted new
  distinct := (distinct_of_perm (perm_insert v vectors)).mpr
    (List.pairwise_cons.mpr ⟨fun w mem => (new w mem).symm, ordered.distinct⟩)

/-- There are no more vectors than sources. -/
theorem length_le (ordered : Ordered vectors) : vectors.length ≤ 2 := by
  have nodup : (vectors.map source).Nodup := List.pairwise_map.mpr ordered.distinct
  have known : vectors.map source ⊆ [.mailboxAvailable, .mailboxAbort] := by
    intro s _
    cases s with
    | mailboxAvailable => exact List.mem_cons_self
    | mailboxAbort => exact List.mem_cons_of_mem _ List.mem_cons_self
  have bounded := (List.subperm_of_subset nodup known).length_le
  rwa [List.length_map] at bounded

/-- Vectors can be ordered in one way only. -/
theorem eq_of_perm {others : List (InterruptVector ε τ)} (ordered : Ordered vectors)
    (ordered' : Ordered others) (perm : vectors.Perm others) : vectors = others :=
  perm.eq_of_pairwise (fun _ _ _ _ less more => absurd more less.asymm) ordered.sorted
    ordered'.sorted

/-- The first vector with a property is the most urgent one that has it. -/
theorem urgency_le_of_find? (ordered : Ordered vectors) {p : InterruptVector ε τ → Bool}
    (first : vectors.find? p = some v) (mem : w ∈ vectors) (holds : p w = true) :
    v.urgency ≤ w.urgency := by
  obtain ⟨-, before, after, rfl, fails⟩ := List.find?_eq_some_iff_append.mp first
  rcases List.mem_append.mp mem with earlier | later
  · have failed := fails w earlier
    rw [holds] at failed
    cases failed
  · rcases List.mem_cons.mp later with rfl | later
    · exact le_refl _
    · have sorted := (List.pairwise_append.mp ordered.sorted).2.1
      exact le_of_lt ((List.pairwise_cons.mp sorted).1 w later)

end Ordered

end InterruptVector

/-! ## Tables that are filled by registering -/

namespace VectorTable

open InterruptVector

variable {t : VectorTable ε τ} {v : InterruptVector ε τ}

/-- The table after some calls that each register a vector. A call that is refused leaves the table
as it is. -/
def registerAll (t : VectorTable ε τ) : List (InterruptVector ε τ) → VectorTable ε τ
  | [] => t
  | v :: rest =>
    match t.register v with
    | .ok t' => t'.registerAll rest
    | .error _ => t.registerAll rest

/-- The vectors that these calls register. -/
def accepted (t : VectorTable ε τ) : List (InterruptVector ε τ) → List (InterruptVector ε τ)
  | [] => []
  | v :: rest =>
    match t.register v with
    | .ok t' => v :: t'.accepted rest
    | .error _ => t.accepted rest

theorem registerAll_append (t : VectorTable ε τ) (calls later : List (InterruptVector ε τ)) :
    t.registerAll (calls ++ later) = (t.registerAll calls).registerAll later := by
  induction calls generalizing t with
  | nil => rfl
  | cons v rest ih =>
    rw [List.cons_append, registerAll, registerAll]
    cases t.register v with
    | ok t' => exact ih t'
    | error e => exact ih t

theorem register_of_new (ordered : Ordered t.vectors) (new : ∀ w ∈ t.vectors, w.source ≠ v.source) :
    t.register v = .ok ⟨v.insert t.vectors⟩ :=
  register_eq_ok new (Nat.ne_of_lt (Nat.lt_of_le_of_lt ordered.length_le (by decide)))

theorem register_of_old {w : InterruptVector ε τ} (mem : w ∈ t.vectors)
    (same : w.source = v.source) : t.register v = .error .duplicateVector := by
  rw [register, if_pos]
  rw [List.any_eq_true]
  exact ⟨w, mem, beq_iff_eq.mpr same⟩

/-- A call registers a vector for a source that has none, and is refused otherwise. -/
theorem register_cases (ordered : Ordered t.vectors) (v : InterruptVector ε τ) :
    (∀ w ∈ t.vectors, w.source ≠ v.source) ∧ t.register v = .ok ⟨v.insert t.vectors⟩ ∨
    (∃ w ∈ t.vectors, w.source = v.source) ∧ t.register v = .error .duplicateVector := by
  by_cases old : ∃ w ∈ t.vectors, w.source = v.source
  · obtain ⟨w, mem, same⟩ := old
    exact .inr ⟨⟨w, mem, same⟩, register_of_old mem same⟩
  · have new : ∀ w ∈ t.vectors, w.source ≠ v.source := by simpa using old
    exact .inl ⟨new, register_of_new ordered new⟩

theorem ordered_registerAll (ordered : Ordered t.vectors) (calls : List (InterruptVector ε τ)) :
    Ordered (t.registerAll calls).vectors := by
  induction calls generalizing t with
  | nil => exact ordered
  | cons v rest ih =>
    rw [registerAll]
    rcases register_cases ordered v with ⟨new, made⟩ | ⟨-, refused⟩
    · rw [made]
      exact ih (ordered.insert new)
    · rw [refused]
      exact ih ordered

theorem perm_accepted (ordered : Ordered t.vectors) (calls : List (InterruptVector ε τ)) :
    (t.registerAll calls).vectors.Perm (t.accepted calls ++ t.vectors) := by
  induction calls generalizing t with
  | nil => exact .refl _
  | cons v rest ih =>
    rw [registerAll, accepted]
    rcases register_cases ordered v with ⟨new, made⟩ | ⟨-, refused⟩
    · rw [made]
      refine (ih (ordered.insert new)).trans ?_
      exact ((perm_insert v t.vectors).append_left _).trans List.perm_middle
    · rw [refused]
      exact ih ordered

/-- A source has the vector of the first call that registers one for it. -/
theorem mem_registerAll (ordered : Ordered t.vectors) (calls : List (InterruptVector ε τ)) :
    v ∈ (t.registerAll calls).vectors ↔ v ∈ t.vectors ∨
      (∀ w ∈ t.vectors, w.source ≠ v.source) ∧
        calls.find? (fun w => w.source == v.source) = some v := by
  induction calls generalizing t with
  | nil => simp [registerAll]
  | cons u rest ih =>
    rw [registerAll, List.find?_cons]
    rcases register_cases ordered u with ⟨new, made⟩ | ⟨⟨w, mem, same⟩, refused⟩
    · rw [made]
      refine (ih (ordered.insert new)).trans ?_
      by_cases own : u.source = v.source
      · rw [beq_iff_eq.mpr own]
        constructor
        · rintro (inserted | ⟨others, -⟩)
          · rcases mem_insert.mp inserted with rfl | mem
            · exact .inr ⟨new, rfl⟩
            · exact .inl mem
          · exact absurd own (others u (mem_insert.mpr (.inl rfl)))
        · rintro (mem | ⟨-, found⟩)
          · exact .inl (mem_insert.mpr (.inr mem))
          · exact .inl (mem_insert.mpr (.inl (Option.some.inj found).symm))
      · rw [beq_eq_false_iff_ne.mpr own]
        have inserted : v ∈ u.insert t.vectors ↔ v ∈ t.vectors := by
          rw [mem_insert, or_iff_right]
          rintro rfl
          exact own rfl
        have others : (∀ w ∈ u.insert t.vectors, w.source ≠ v.source) ↔
            ∀ w ∈ t.vectors, w.source ≠ v.source := by
          simp [mem_insert, own]
        rw [inserted, others]
    · rw [refused]
      refine (ih ordered).trans ?_
      by_cases own : u.source = v.source
      · -- the source has a vector already, so a later call for it makes no difference
        have taken : ¬ ∀ w ∈ t.vectors, w.source ≠ v.source :=
          fun others => others w mem (same.trans own)
        simp only [taken, false_and]
      · rw [beq_eq_false_iff_ne.mpr own]

/-- Vectors for different sources are all registered. -/
theorem accepted_eq_self (ordered : Ordered t.vectors) {calls : List (InterruptVector ε τ)}
    (distinct : calls.Pairwise fun v w => v.source ≠ w.source)
    (new : ∀ v ∈ calls, ∀ w ∈ t.vectors, w.source ≠ v.source) : t.accepted calls = calls := by
  induction calls generalizing t with
  | nil => rfl
  | cons v rest ih =>
    obtain ⟨apart, distinct'⟩ := List.pairwise_cons.mp distinct
    have fresh := new v List.mem_cons_self
    rw [accepted, register_of_new ordered fresh]
    refine congrArg (v :: ·) (ih (ordered.insert fresh) distinct' fun u mem w inserted => ?_)
    rcases mem_insert.mp inserted with rfl | old
    · exact apart u mem
    · exact new u (List.mem_cons_of_mem v mem) w old

/-- In whatever order vectors are registered that calls have registered, all of them are, and the
table is the same. -/
theorem registerAll_of_perm {calls order : List (InterruptVector ε τ)}
    (perm : order.Perm (empty.accepted calls)) :
    empty.accepted order = order ∧ empty.registerAll order = empty.registerAll calls := by
  have start : Ordered (empty : VectorTable ε τ).vectors := .nil
  have filled := ordered_registerAll start calls
  have registered := perm_accepted start calls
  rw [show (empty : VectorTable ε τ).vectors = [] from rfl, List.append_nil] at registered
  have distinct := (distinct_of_perm (registered.trans perm.symm)).mp filled.distinct
  have all : empty.accepted order = order :=
    accepted_eq_self start distinct fun v _ w mem => absurd mem List.not_mem_nil
  have again := perm_accepted start order
  rw [all, show (empty : VectorTable ε τ).vectors = [] from rfl, List.append_nil] at again
  have same := (ordered_registerAll start order).eq_of_perm filled
    (again.trans (perm.trans registered.symm))
  exact ⟨all, congrArg mk same⟩

/-! ## Installing and servicing -/

/-- A line once a vector with this priority is installed on it. -/
def installedLine (priority : UInt8) (l : Line) : Line :=
  { l with enabled := true, priority }

theorem run_installAll_cons (v : InterruptVector ε τ) (rest : List (InterruptVector ε τ))
    (c : Lines) : (installAll (v :: rest) : Act ε Lines Unit).run c =
      (installAll rest).run (c.mapLine (installedLine v.priority) v.source) := by
  have changes : (c.mapLine (fun l => { l with priority := v.priority }) v.source).mapLine
      (fun l => { l with enabled := true }) v.source =
        c.mapLine (installedLine v.priority) v.source := by
    cases v.source <;> rfl
  rw [← changes]
  rfl

/-- Installing touches the lines of the vectors, and no other. -/
theorem exists_installed {vectors : List (InterruptVector ε τ)}
    (distinct : vectors.Pairwise fun v w => v.source ≠ w.source) (c : Lines) :
    ∃ c', (installAll vectors : Act ε Lines Unit).run c = (.ok (), c') ∧
      (∀ v ∈ vectors, c'.line v.source = installedLine v.priority (c.line v.source)) ∧
      ∀ s, (∀ v ∈ vectors, v.source ≠ s) → c'.line s = c.line s := by
  induction vectors generalizing c with
  | nil => exact ⟨c, rfl, nofun, fun s _ => rfl⟩
  | cons v rest ih =>
    obtain ⟨apart, distinct'⟩ := List.pairwise_cons.mp distinct
    obtain ⟨c', ran, installed, others⟩ :=
      ih distinct' (c.mapLine (installedLine v.priority) v.source)
    refine ⟨c', (run_installAll_cons v rest c).trans ran, fun w mem => ?_, fun s apart' => ?_⟩
    · rcases List.mem_cons.mp mem with rfl | later
      · rw [others _ fun u mem => (apart u mem).symm, Lines.line_mapLine_self]
      · rw [installed w later, Lines.line_mapLine_of_ne _ _ (apart w later).symm]
    · rw [others s fun u mem => apart' u (List.mem_cons_of_mem v mem),
        Lines.line_mapLine_of_ne _ _ (apart' v List.mem_cons_self).symm]

section Lines

variable [HasController τ Lines]
  (whole : ∀ s : τ, (HasController.controllerPart s).2 (linesOf s) = s)
include whole

/-- Where a source is ready, the vector of the most urgent one is entered and its handler runs. -/
theorem exists_most_urgent (ordered : Ordered t.vectors) {s : τ}
    (some_ready : ∃ v ∈ t.vectors, (linesOf s).ready v.source = true) :
    ∃ v ∈ t.vectors, (linesOf s).ready v.source = true ∧
      (∀ w ∈ t.vectors, (linesOf s).ready w.source = true → v.urgency ≤ w.urgency) ∧
      t.serviceMostUrgent.run s =
        (do v.handler; return some v.source : Act ε τ (Option Source)).run
          (entered s v.source) := by
  have services := run_serviceMostUrgent_eq (observing_lines whole) t s
  cases first : t.vectors.find? fun v => (linesOf s).ready v.source with
  | none =>
    obtain ⟨v, mem, ready⟩ := some_ready
    exact absurd ready (List.find?_eq_none.mp first v mem)
  | some v =>
    have found : t.vectors.find? (fun v => isReady s v.source) = some v := first
    rw [found] at services
    have ready := List.find?_some found
    exact ⟨v, List.mem_of_find?_eq_some first, ready,
      fun w mem ready => ordered.urgency_le_of_find? first mem ready, services⟩

/-- The most urgent source is served first. Whatever vectors are registered: the table is strictly
sorted by priority and interrupt number, with the vector of its first registration for each source;
a call that is refused changes nothing, and the registered vectors make the same table in any order.
Over simulated lines, one round of servicing runs the handler of the most urgent vector whose source
is enabled and pending, once, with that source acknowledged once; where there is none it changes
nothing. Installing enables each source of the table with its priority and touches no other line. -/
theorem most_urgent_served_first (calls : List (InterruptVector ε τ)) (t : VectorTable ε τ)
    (filled : empty.registerAll calls = t) :
    (t.vectors.Pairwise (fun v w => v.urgency < w.urgency) ∧
      t.vectors.Pairwise fun v w => v.source ≠ w.source) ∧
    (∀ v, v ∈ t.vectors ↔ calls.find? (fun w => w.source == v.source) = some v) ∧
    (∀ v e, t.register v = .error e → empty.registerAll (calls ++ [v]) = t) ∧
    (∀ order, order.Perm (empty.accepted calls) →
      empty.accepted order = order ∧ empty.registerAll order = t) ∧
    (∀ s, (∃ v ∈ t.vectors, (linesOf s).ready v.source = true) →
      ∃ v ∈ t.vectors, (linesOf s).ready v.source = true ∧
        (∀ w ∈ t.vectors, (linesOf s).ready w.source = true → v.urgency ≤ w.urgency) ∧
        t.serviceMostUrgent.run s =
          (do v.handler; return some v.source : Act ε τ (Option Source)).run
            (entered s v.source)) ∧
    (∀ s, (∀ v ∈ t.vectors, (linesOf s).ready v.source = false) →
      t.serviceMostUrgent.run s = (.ok none, s)) ∧
    ∀ c : Lines, ∃ c', (t.install : Act ε Lines Unit).run c = (.ok (), c') ∧
      (∀ v ∈ t.vectors, c'.line v.source =
        { c.line v.source with enabled := true, priority := v.priority }) ∧
      ∀ s, (∀ v ∈ t.vectors, v.source ≠ s) → c'.line s = c.line s := by
  have start : Ordered (empty : VectorTable ε τ).vectors := .nil
  have ordered := ordered_registerAll start calls
  rw [filled] at ordered
  refine ⟨⟨ordered.sorted, ordered.distinct⟩, fun v => ?_, fun v e refused => ?_,
    fun order perm => ?_, fun s => exists_most_urgent whole ordered,
    fun s => run_serviceMostUrgent_none whole, exists_installed ordered.distinct⟩
  · have registered := mem_registerAll (v := v) start calls
    rw [filled] at registered
    refine registered.trans ⟨?_, fun found => .inr ⟨nofun, found⟩⟩
    rintro (none | ⟨-, found⟩)
    · cases none
    · exact found
  · rw [registerAll_append, filled, registerAll, refused]
    rfl
  · obtain ⟨all, same⟩ := registerAll_of_perm perm
    exact ⟨all, same.trans filled⟩

end Lines

/-- A vector whose handler clears its source. -/
def scripted (source : Source) (priority : UInt8) : InterruptVector Trap ScriptedHandlers :=
  ⟨source, priority, ScriptedHandlers.handler source⟩

/-- Both sources are enabled and pending. -/
def bothPending : ScriptedHandlers where
  controller := ⟨⟨true, true, 1, 0, 0⟩, ⟨true, true, 1, 0, 0⟩⟩
  onAvailable := [[.clear]]
  onAbort := [[.clear]]
  runs := []

/-- An abort is registered before a request of the same priority, and once more, which is refused.
With both pending, the request is served first. -/
theorem most_urgent_served_first_of_both :
    (∀ s : ScriptedHandlers, (HasController.controllerPart s).2 (linesOf s) = s) ∧
    empty.registerAll [scripted .mailboxAbort 1, scripted .mailboxAvailable 1,
        scripted .mailboxAbort 0] =
      ⟨[scripted .mailboxAvailable 1, scripted .mailboxAbort 1]⟩ ∧
    (VectorTable.mk [scripted .mailboxAvailable 1, scripted .mailboxAbort 1]).serviceMostUrgent.run
        bothPending =
      (do (scripted .mailboxAvailable 1).handler; return some .mailboxAvailable : Act Trap
        ScriptedHandlers (Option Source)).run (entered bothPending .mailboxAvailable) := by
  have whole : ∀ s : ScriptedHandlers, (HasController.controllerPart s).2 (linesOf s) = s :=
    fun _ => rfl
  have filled : empty.registerAll [scripted .mailboxAbort 1, scripted .mailboxAvailable 1,
      scripted .mailboxAbort 0] =
        ⟨[scripted .mailboxAvailable 1, scripted .mailboxAbort 1]⟩ := rfl
  obtain ⟨-, -, -, -, serves, -⟩ := most_urgent_served_first whole _ _ filled
  obtain ⟨v, mem, -, least, ran⟩ :=
    serves bothPending ⟨_, List.mem_cons_self, (rfl : bothPending.controller.ready _ = true)⟩
  refine ⟨whole, filled, ?_⟩
  rcases List.mem_cons.mp mem with rfl | later
  · exact ran
  · obtain rfl := List.mem_singleton.mp later
    have wrong := least (scripted .mailboxAvailable 1) List.mem_cons_self rfl
    exact absurd wrong (by decide)

end VectorTable

end Coprocessor
