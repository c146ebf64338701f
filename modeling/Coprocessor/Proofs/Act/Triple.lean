import Coprocessor.Proofs.Act.Run

/-!
What an action guarantees. `Triple P x Q E` says that from a state with `P` the action `x` ends in
a result and a state with `Q`, or in a failure and a state with `E`. `Keeps P x` is the case of an
invariant: `P` outlives `x` whatever the result.
-/
namespace Coprocessor.Act

variable {ε ε' σ τ α β : Type}

/-- From `P`, the action ends with `Q` or fails with `E`. -/
def Triple (P : σ → Prop) (x : Act ε σ α) (Q : α → σ → Prop) (E : ε → σ → Prop) : Prop :=
  ∀ s, P s → match x.run s with
    | (.ok a, s') => Q a s'
    | (.error e, s') => E e s'

/-- A property of states that outlives the action. -/
def Keeps (P : σ → Prop) (x : Act ε σ α) : Prop :=
  ∀ s, P s → P (x.run s).2

section Rules

variable {P : σ → Prop} {Q : α → σ → Prop} {E : ε → σ → Prop}

theorem Triple.ok {x : Act ε σ α} (h : Triple P x Q E) {s s' : σ} {a : α} (hs : P s)
    (hr : x.run s = (.ok a, s')) : Q a s' := by
  have := h s hs
  rwa [hr] at this

theorem Triple.error {x : Act ε σ α} (h : Triple P x Q E) {s s' : σ} {e : ε} (hs : P s)
    (hr : x.run s = (.error e, s')) : E e s' := by
  have := h s hs
  rwa [hr] at this

/-- An action that cannot fail has a result. -/
theorem Triple.exists_ok {x : Act ε σ α} (h : Triple P x Q fun _ _ => False) {s : σ}
    (hs : P s) : ∃ a s', x.run s = (.ok a, s') ∧ Q a s' := by
  rcases hr : x.run s with ⟨e | a, s'⟩
  · exact absurd (h.error hs hr) not_false
  · exact ⟨a, s', rfl, h.ok hs hr⟩

theorem Triple.mono {P' : σ → Prop} {Q' : α → σ → Prop} {E' : ε → σ → Prop} {x : Act ε σ α}
    (h : Triple P x Q E) (hP : ∀ s, P' s → P s) (hQ : ∀ a s, Q a s → Q' a s)
    (hE : ∀ e s, E e s → E' e s) : Triple P' x Q' E' := by
  intro s hs
  have post := h s (hP s hs)
  rcases hr : x.run s with ⟨e | a, s'⟩
  · rw [hr] at post
    exact hE e s' post
  · rw [hr] at post
    exact hQ a s' post

/-- More may be known before the action. -/
theorem Triple.pre {P' : σ → Prop} {x : Act ε σ α} (h : Triple P x Q E) (hP : ∀ s, P' s → P s) :
    Triple P' x Q E :=
  h.mono hP (fun _ _ hq => hq) fun _ _ he => he

/-- Less may be used of the result. -/
theorem Triple.post {Q' : α → σ → Prop} {x : Act ε σ α} (h : Triple P x Q E)
    (hQ : ∀ a s, Q a s → Q' a s) : Triple P x Q' E :=
  h.mono (fun _ hs => hs) hQ fun _ _ he => he

theorem Triple.ite {c : Prop} [Decidable c] {x y : Act ε σ α} (yes : Triple P x Q E)
    (no : Triple P y Q E) : Triple P (if c then x else y) Q E := by
  split
  · exact yes
  · exact no

theorem Triple.bind {R : α → σ → Prop} {Q : β → σ → Prop} {x : Act ε σ α} {f : α → Act ε σ β}
    (hx : Triple P x R E) (hf : ∀ a, Triple (R a) (f a) Q E) : Triple P (x >>= f) Q E := by
  intro s hs
  rcases hr : x.run s with ⟨e | a, s'⟩
  · rw [run_bind_error hr]
    exact hx.error hs hr
  · rw [run_bind_ok hr]
    exact hf a s' (hx.ok hs hr)

theorem Triple.pure {a : α} (h : ∀ s, P s → Q a s) : Triple P (Pure.pure a : Act ε σ α) Q E :=
  h

theorem Triple.log (m : Message) : Triple P (Act.log m : Act ε σ Unit) (fun _ => P) E :=
  fun _ hs => hs

/-- An action on a part of the state. -/
theorem Triple.within {P : τ → Prop} {Q : α → τ → Prop} {E : ε → τ → Prop} {R : σ → Prop}
    {S : α → σ → Prop} {F : ε → σ → Prop} {focus : τ → σ × (σ → τ)} {x : Act ε σ α}
    (hx : Triple R x S F) (split : ∀ t, P t → R (focus t).1)
    (join : ∀ t a s, P t → S a s → Q a ((focus t).2 s))
    (fails : ∀ t e s, P t → F e s → E e ((focus t).2 s)) : Triple P (x.within focus) Q E := by
  intro t ht
  have post := hx _ (split t ht)
  rw [run_within]
  rcases hr : x.run (focus t).1 with ⟨e | a, s⟩
  · rw [hr] at post
    exact fails t e s ht post
  · rw [hr] at post
    exact join t a s ht post

/-- An action beside a value of its own. -/
theorem Triple.withLocal {ρ : Type} {Q : α → ρ → σ → Prop} {x : Act ε (σ × ρ) α} {init : ρ}
    (hx : Triple (fun s => P s.1 ∧ s.2 = init) x (fun a s => Q a s.2 s.1) fun e s => E e s.1) :
    Triple P (Act.withLocal init x) (fun made s => Q made.1 made.2 s) E := by
  intro s hs
  rcases hr : x.run (s, init) with ⟨e | a, s', own⟩
  · rw [run_withLocal_error hr]
    exact hx.error ⟨hs, rfl⟩ hr
  · rw [run_withLocal_ok hr]
    exact hx.ok ⟨hs, rfl⟩ hr

/-- A loop whose rounds keep `P` until one of them gives a value. -/
theorem Triple.firstSome {body : Nat → Act ε σ (Option α)}
    (h : ∀ i, Triple P (body i) (fun found s => match found with
      | none => P s
      | some a => Q a s) E) (n i : Nat) :
    Triple P (Act.firstSome n i body) (fun found s => match found with
      | none => P s
      | some a => Q a s) E := by
  induction n generalizing i with
  | zero => exact fun _ hs => hs
  | succ n ih =>
    rw [firstSome_succ]
    refine Triple.bind (h i) fun found => ?_
    cases found with
    | none => exact ih (i + 1)
    | some a => exact fun _ hs => hs

theorem Triple.keeps {x : Act ε σ α} (h : Triple P x (fun _ => P) fun _ => P) : Keeps P x := by
  intro s hs
  have post := h s hs
  rcases hr : x.run s with ⟨e | a, s'⟩
  · rwa [hr] at post
  · rwa [hr] at post

theorem Keeps.triple {x : Act ε σ α} (h : Keeps P x) : Triple P x (fun _ => P) fun _ => P := by
  intro s hs
  have kept := h s hs
  rcases hr : x.run s with ⟨e | a, s'⟩
  · rwa [hr] at kept
  · rwa [hr] at kept

/-- A fact that does not depend on the state can be used outside the triple. -/
theorem Triple.of_fact {φ : Prop} {x : Act ε σ α} (h : φ → Triple P x Q E) :
    Triple (fun s => φ ∧ P s) x Q E :=
  fun s hs => h hs.1 s hs.2

theorem Triple.gets (f : σ → α) : Triple P (Act.gets f : Act ε σ α) (fun a s => a = f s ∧ P s) E :=
  fun _ hs => ⟨rfl, hs⟩

theorem Triple.settle_ofExcept [Raises ε] (f : ε' → ε) (x : Except ε' α) :
    Triple P (Act.ofExcept f x).settle (fun r s => (∀ a, r = .ok a → x = .ok a) ∧ P s)
      (fun _ => P) := by
  intro s hs
  cases x with
  | ok a =>
    rw [run_settle_ok (run_ofExcept f (.ok a) s)]
    exact ⟨fun b h => congrArg Except.ok (Except.ok.inj h), hs⟩
  | error e =>
    have fails := run_ofExcept f (.error e : Except ε' α) s
    cases cause : Raises.toFailure (f e) with
    | error e' =>
      rw [run_settle_error fails cause]
      exact ⟨nofun, hs⟩
    | trap t =>
      rw [run_settle_trap fails cause]
      exact hs

theorem Triple.mapFailure {x : Act ε σ α} (f : ε → ε') {E : ε' → σ → Prop}
    (h : Triple P x Q fun e => E (f e)) : Triple P (x.mapFailure f) Q E := by
  intro s hs
  rw [run_mapFailure]
  rcases hr : x.run s with ⟨e | a, s'⟩
  · exact h.error hs hr
  · exact h.ok hs hr

/-- An action whose errors become values. -/
theorem Triple.settle [Raises ε] {x : Act ε σ α} {E : Failure → σ → Prop}
    (hx : Triple P x Q fun e => E (Raises.toFailure e)) :
    Triple P x.settle (fun r s => match r with
      | .ok a => Q a s
      | .error e => E (.error e) s) fun t => E (.trap t) := by
  intro s hs
  rcases hr : x.run s with ⟨e | a, s'⟩
  · have fails := hx.error hs hr
    cases cause : Raises.toFailure e with
    | error e' =>
      rw [run_settle_error hr cause]
      rwa [cause] at fails
    | trap t =>
      rw [run_settle_trap hr cause]
      rwa [cause] at fails
  · rw [run_settle_ok hr]
    exact hx.ok hs hr

theorem Keeps.pure (a : α) : Keeps P (Pure.pure a : Act ε σ α) :=
  fun _ hs => hs

theorem Keeps.fail [Raises ε] (e : Error) : Keeps P (Act.fail e : Act ε σ α) :=
  fun _ hs => hs

theorem Keeps.gets (f : σ → α) : Keeps P (Act.gets f : Act ε σ α) :=
  fun _ hs => hs

theorem Keeps.log (m : Message) : Keeps P (Act.log m : Act ε σ Unit) :=
  fun _ hs => hs

theorem Keeps.modify {f : σ → σ} (h : ∀ s, P s → P (f s)) :
    Keeps P (Act.modify f : Act ε σ Unit) :=
  h

theorem Keeps.ofExcept (f : ε' → ε) (x : Except ε' α) : Keeps P (Act.ofExcept f x) := by
  intro s hs
  rwa [run_ofExcept]

theorem Keeps.bind {x : Act ε σ α} {f : α → Act ε σ β} (hx : Keeps P x)
    (hf : ∀ a, Keeps P (f a)) : Keeps P (x >>= f) :=
  (hx.triple.bind fun a => (hf a).triple).keeps

theorem Keeps.ite {c : Prop} [Decidable c] {x y : Act ε σ α} (yes : Keeps P x) (no : Keeps P y) :
    Keeps P (if c then x else y) :=
  (Triple.ite yes.triple no.triple).keeps

theorem Keeps.mapFailure {x : Act ε σ α} (hx : Keeps P x) (f : ε → ε') :
    Keeps P (x.mapFailure f) := by
  intro s hs
  rw [run_mapFailure]
  exact hx s hs

theorem Keeps.attempt {x : Act ε σ α} (hx : Keeps P x) :
    Keeps P (x.attempt : Act ε' σ (Except ε α)) :=
  hx

theorem state_settle [Raises ε] (x : Act ε σ α) (s : σ) : (x.settle s).state = (x s).state := by
  simp only [Act.settle]
  rcases x s with ⟨e | a, s', events⟩
  · simp only
    cases Raises.toFailure e <;> rfl
  · rfl

theorem Keeps.settle [Raises ε] {x : Act ε σ α} (hx : Keeps P x) : Keeps P x.settle := by
  intro s hs
  have kept := hx s hs
  simp only [run, state_settle] at kept ⊢
  exact kept

/-- An action on a part of the state: what the part satisfies before and after has to be enough
for the whole. -/
theorem Keeps.within {P : τ → Prop} {R : σ → Prop} {focus : τ → σ × (σ → τ)} {x : Act ε σ α}
    (hx : Keeps R x) (split : ∀ t, P t → R (focus t).1)
    (join : ∀ t s, P t → R s → P ((focus t).2 s)) : Keeps P (x.within focus) := by
  intro t ht
  exact join t _ ht (hx _ (split t ht))

/-- An action on a part of the state that the property does not look at. -/
theorem Keeps.beside {P : τ → Prop} {focus : τ → σ × (σ → τ)}
    (aside : ∀ t s, P t → P ((focus t).2 s)) (x : Act ε σ α) : Keeps P (x.within focus) :=
  fun t ht => aside t _ ht

/-- An action beside a value of its own. -/
theorem Keeps.withLocal {ρ : Type} {x : Act ε (σ × ρ) α} (hx : Keeps (fun s => P s.1) x)
    (init : ρ) : Keeps P (Act.withLocal init x) := by
  intro s hs
  have kept := hx (s, init) hs
  simp only [run, Act.withLocal] at kept ⊢
  generalize x (s, init) = o at kept ⊢
  obtain ⟨e | a, ⟨s', own⟩, events⟩ := o
  · exact kept
  · exact kept

theorem Keeps.firstSome {body : Nat → Act ε σ (Option α)} (h : ∀ i, Keeps P (body i)) (n : Nat) :
    ∀ i, Keeps P (Act.firstSome n i body) := by
  induction n with
  | zero => exact fun i => Keeps.pure none
  | succ n ih =>
    intro i
    rw [firstSome_succ]
    refine (h i).bind fun found => ?_
    cases found with
    | none => exact ih (i + 1)
    | some a => exact Keeps.pure (some a)

end Rules

end Coprocessor.Act
