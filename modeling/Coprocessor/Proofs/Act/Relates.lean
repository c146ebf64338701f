import Mathlib.Data.List.Forall2
import Coprocessor.Mailbox.Transfer

/-!
Two actions side by side. `Relates E R x y` says that from states with `R` the actions `x` and `y`
give the same result, leave states with `R` again, and show events that compare under `E`. There is
a rule for each operation of `Act`, so that two runs of one program are related step by step.
-/
namespace Coprocessor

/-- A way to compare what two actions show. Equal events compare, and so do events that compare
piece by piece. -/
structure Comparison where
  Holds : List Event → List Event → Prop
  refl : ∀ events, Holds events events
  append : ∀ {a b c d}, Holds a b → Holds c d → Holds (a ++ c) (b ++ d)

namespace Comparison

/-- The same events in the same order. -/
def equal : Comparison where
  Holds a b := a = b
  refl _ := rfl
  append hab hcd := by rw [hab, hcd]

/-- The same events in the same order, those that are set aside apart. -/
def apartFrom (aside : Event → Bool) : Comparison where
  Holds a b := a.filter (!aside ·) = b.filter (!aside ·)
  refl _ := rfl
  append hab hcd := by rw [List.filter_append, List.filter_append, hab, hcd]

/-- One event for one event, related by `e`. -/
def eventwise (e : Event → Event → Prop) (refl : ∀ x, e x x) : Comparison where
  Holds := List.Forall₂ e
  refl _ := List.forall₂_same.mpr fun x _ => refl x
  append hab hcd := List.rel_append hab hcd

end Comparison

variable {ε ε' σ τ ρ α β : Type}

/-- The same result, in states with `R`, after events that compare. -/
structure Outcome.Matches (E : Comparison) (R : σ → τ → Prop) (o : Outcome ε σ α)
    (p : Outcome ε τ α) : Prop where
  result : o.result = p.result
  state : R o.state p.state
  shown : E.Holds o.events p.events

namespace Act

/-- What `x` does to one state, `y` does to the other. -/
def Relates (E : Comparison) (R : σ → τ → Prop) (x : Act ε σ α) (y : Act ε τ α) : Prop :=
  ∀ s t, R s t → (x s).Matches E R (y t)

/-- The relation of two parts of a state, beside a part that is the same. -/
def Beside (R : σ → τ → Prop) (s : σ × ρ) (t : τ × ρ) : Prop :=
  R s.1 t.1 ∧ s.2 = t.2

namespace Relates

variable {E : Comparison} {R : σ → τ → Prop}

theorem pure (a : α) : Relates E R (Pure.pure a : Act ε σ α) (Pure.pure a) := by
  intro s t hst
  exact ⟨rfl, hst, E.refl []⟩

theorem fail [Raises ε] (e : Error) : Relates E R (Act.fail e : Act ε σ α) (Act.fail e) := by
  intro s t hst
  exact ⟨rfl, hst, E.refl []⟩

theorem log (m : Message) : Relates E R (Act.log m : Act ε σ Unit) (Act.log m) := by
  intro s t hst
  exact ⟨rfl, hst, E.refl _⟩

theorem modify {f : σ → σ} {g : τ → τ} (h : ∀ s t, R s t → R (f s) (g t)) :
    Relates E R (Act.modify f : Act ε σ Unit) (Act.modify g) := by
  intro s t hst
  exact ⟨rfl, h s t hst, E.refl []⟩

theorem gets {f : σ → α} {g : τ → α} (h : ∀ s t, R s t → f s = g t) :
    Relates E R (Act.gets f : Act ε σ α) (Act.gets g) := by
  intro s t hst
  exact ⟨congrArg Except.ok (h s t hst), hst, E.refl []⟩

/-- The same action on the same state. -/
theorem same (x : Act ε σ α) : Relates E Eq x x := by
  intro s t hst
  subst hst
  exact ⟨rfl, rfl, E.refl _⟩

theorem bind {x : Act ε σ α} {y : Act ε τ α} {f : α → Act ε σ β} {g : α → Act ε τ β}
    (hx : Relates E R x y) (hf : ∀ a, Relates E R (f a) (g a)) :
    Relates E R (x >>= f) (y >>= g) := by
  intro s t hst
  have first := hx s t hst
  rw [bind_apply, bind_apply]
  generalize x s = o at first ⊢
  generalize y t = p at first ⊢
  obtain ⟨result, state, events⟩ := o
  obtain ⟨result', state', events'⟩ := p
  obtain ⟨rfl, states, shown⟩ := first
  cases result with
  | error e => exact ⟨rfl, states, shown⟩
  | ok a =>
    have rest := hf a state state' states
    exact ⟨rest.result, rest.state, E.append shown rest.shown⟩

theorem attempt {x : Act ε σ α} {y : Act ε τ α} (h : Relates E R x y) :
    Relates E R (x.attempt : Act ε' σ _) y.attempt := by
  intro s t hst
  have runs := h s t hst
  exact ⟨congrArg Except.ok runs.result, runs.state, runs.shown⟩

theorem mapFailure {x : Act ε σ α} {y : Act ε τ α} (h : Relates E R x y) (f : ε → ε') :
    Relates E R (x.mapFailure f) (y.mapFailure f) := by
  intro s t hst
  have runs := h s t hst
  rw [mapFailure_apply, mapFailure_apply]
  exact ⟨congrArg (Except.mapError f) runs.result, runs.state, runs.shown⟩

/-- An action that does nothing beside another one's state is skipped there. -/
theorem skip {x : Act ε σ Unit} {y : Act ε σ α} {z : Act ε τ α}
    (hx : Relates E R x (Pure.pure ())) (h : Relates E R y z) :
    Relates E R (x >>= fun _ => y) z := by
  have both := hx.bind fun _ => h
  rwa [pure_bind] at both

/-- Actions on parts of two states, where the relation of the wholes says how the parts relate and
is there again once they are put back. -/
theorem within {σ' τ' : Type} {S : σ' → τ' → Prop} {focus : σ' → σ × (σ → σ')}
    {focus' : τ' → τ × (τ → τ')} {x : Act ε σ α} {y : Act ε τ α} (h : Relates E R x y)
    (split : ∀ s t, S s t → R (focus s).1 (focus' t).1)
    (join : ∀ s t a b, S s t → R a b → S ((focus s).2 a) ((focus' t).2 b)) :
    Relates E S (x.within focus) (y.within focus') := by
  intro s t hst
  have runs := h _ _ (split s t hst)
  exact ⟨runs.result, join s t _ _ hst runs.state, runs.shown⟩

/-- Actions on two buses, beside what is the same. -/
theorem onBus {x : Act ε σ α} {y : Act ε τ α} (h : Relates E R x y) :
    Relates E (Beside (ρ := ρ) R) (x.within Transfer.busPart) (y.within Transfer.busPart) := by
  apply h.within
  · intro s t hst
    exact hst.1
  · intro s t a b hst hab
    exact ⟨hab, hst.2⟩

/-- A change of what is the same beside the buses. -/
theorem filling {f : σ × ρ → σ × ρ} {g : τ × ρ → τ × ρ}
    (h : ∀ s t p, R s t → Beside R (f (s, p)) (g (t, p))) :
    Relates E (Beside R) (Act.modify f : Act ε (σ × ρ) Unit) (Act.modify g) := by
  apply modify
  rintro ⟨s, p⟩ ⟨t, q⟩ ⟨hst, same⟩
  obtain rfl : p = q := same
  exact h s t p hst

/-- Two actions that work on equal values of their own. -/
theorem withLocal {x : Act ε (σ × ρ) α} {y : Act ε (τ × ρ) α} (h : Relates E (Beside R) x y)
    (init : ρ) : Relates E R (Act.withLocal init x) (Act.withLocal init y) := by
  intro s t hst
  have runs := h (s, init) (t, init) ⟨hst, rfl⟩
  simp only [Act.withLocal]
  generalize x (s, init) = o at runs ⊢
  generalize y (t, init) = p at runs ⊢
  obtain ⟨result, ⟨state, own⟩, events⟩ := o
  obtain ⟨result', ⟨state', own'⟩, events'⟩ := p
  obtain ⟨rfl, ⟨states, rfl⟩, shown⟩ := runs
  cases result with
  | error e => exact ⟨rfl, states, shown⟩
  | ok a => exact ⟨rfl, states, shown⟩

theorem firstSome {body : Nat → Act ε σ (Option α)} {body' : Nat → Act ε τ (Option α)}
    (h : ∀ i, Relates E R (body i) (body' i)) (n i : Nat) :
    Relates E R (Act.firstSome n i body) (Act.firstSome n i body') := by
  induction n generalizing i with
  | zero => exact pure none
  | succ n ih =>
    rw [firstSome_succ, firstSome_succ]
    apply (h i).bind
    intro found
    cases found with
    | none => exact ih (i + 1)
    | some a => exact pure (some a)

end Relates

end Act

end Coprocessor
