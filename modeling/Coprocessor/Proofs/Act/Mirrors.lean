import Coprocessor.Proofs.Act.Run

/-!
An action on a state beside one on a view of the state. `Mirrors view x y` says that `y` gives what
`x` gives and does to the view what `x` does to the state: whatever the view leaves out, such as a
record of what was done, makes no difference.
-/
namespace Coprocessor.Act

variable {ε ε' σ τ α β : Type}

/-- `y` is `x`, seen through `view`. -/
def Mirrors (view : σ → τ) (x : Act ε σ α) (y : Act ε τ α) : Prop :=
  ∀ s, y.run (view s) = ((x.run s).1, view (x.run s).2)

namespace Mirrors

variable {view : σ → τ}

theorem pure (a : α) : Mirrors view (Pure.pure a : Act ε σ α) (Pure.pure a) :=
  fun _ => rfl

theorem fail [Raises ε] (e : Error) : Mirrors view (Act.fail e : Act ε σ α) (Act.fail e) :=
  fun _ => rfl

theorem log (m : Message) : Mirrors view (Act.log m : Act ε σ Unit) (Act.log m) :=
  fun _ => rfl

/-- What is read has to be seen in the view. -/
theorem gets {f : σ → α} {g : τ → α} (seen : ∀ s, g (view s) = f s) :
    Mirrors view (Act.gets f : Act ε σ α) (Act.gets g) := by
  intro s
  rw [run_gets, run_gets, seen]

theorem ofExcept (f : ε' → ε) (r : Except ε' α) :
    Mirrors view (Act.ofExcept f r : Act ε σ α) (Act.ofExcept f r) := by
  intro s
  rw [run_ofExcept, run_ofExcept]

theorem bind {x : Act ε σ α} {y : Act ε τ α} {f : α → Act ε σ β} {g : α → Act ε τ β}
    (hx : Mirrors view x y) (hf : ∀ a, Mirrors view (f a) (g a)) :
    Mirrors view (x >>= f) (y >>= g) := by
  intro s
  have first := hx s
  rcases hr : x.run s with ⟨e | a, s'⟩
  · rw [hr] at first
    rw [run_bind_error hr, run_bind_error first]
  · rw [hr] at first
    rw [run_bind_ok hr, run_bind_ok first, hf a s']

theorem mapFailure {x : Act ε σ α} {y : Act ε τ α} (h : Mirrors view x y) (f : ε → ε') :
    Mirrors view (x.mapFailure f) (y.mapFailure f) := by
  intro s
  rw [run_mapFailure, run_mapFailure, h s]

theorem settle [Raises ε] {x : Act ε σ α} {y : Act ε τ α} (h : Mirrors view x y) :
    Mirrors view x.settle y.settle := by
  intro s
  have same := h s
  rcases hr : x.run s with ⟨e | a, s'⟩
  · rw [hr] at same
    cases cause : Raises.toFailure e with
    | error e' => rw [run_settle_error hr cause, run_settle_error same cause]
    | trap t => rw [run_settle_trap hr cause, run_settle_trap same cause]
  · rw [hr] at same
    rw [run_settle_ok hr, run_settle_ok same]

/-- Actions on parts of the two states, where the view of the whole shows the view of the part. -/
theorem within {σ' τ' : Type} {whole : σ' → τ'} {focus : σ' → σ × (σ → σ')}
    {focus' : τ' → τ × (τ → τ')} {x : Act ε σ α} {y : Act ε τ α} (h : Mirrors view x y)
    (split : ∀ t, (focus' (whole t)).1 = view (focus t).1)
    (join : ∀ t s, (focus' (whole t)).2 (view s) = whole ((focus t).2 s)) :
    Mirrors whole (x.within focus) (y.within focus') := by
  intro t
  rw [run_within, run_within, split, h, join]

end Mirrors

end Coprocessor.Act
