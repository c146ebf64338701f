import Coprocessor.Act

/-!
Actions without their events. `run` keeps the result of an action and the state it leaves, and
each operation of `Act` has one law for it, so that an action is evaluated by rewriting.
-/
namespace Coprocessor.Act

variable {ε ε' σ τ α β : Type}

/-- The result of an action and the state that it leaves. -/
def run (x : Act ε σ α) (s : σ) : Except ε α × σ :=
  ((x s).result, (x s).state)

theorem run_eq_iff {x : Act ε σ α} {s s' : σ} {r : Except ε α} :
    x.run s = (r, s') ↔ (x s).result = r ∧ (x s).state = s' := by
  rw [run, Prod.mk.injEq]

@[simp] theorem run_pure (a : α) (s : σ) : (pure a : Act ε σ α).run s = (.ok a, s) :=
  rfl

@[simp] theorem run_fail [Raises ε] (e : Error) (s : σ) :
    (fail e : Act ε σ α).run s = (.error (Raises.raise e), s) :=
  rfl

@[simp] theorem run_get (s : σ) : (get : Act ε σ σ).run s = (.ok s, s) :=
  rfl

@[simp] theorem run_gets (f : σ → α) (s : σ) : (gets f : Act ε σ α).run s = (.ok (f s), s) :=
  rfl

@[simp] theorem run_modify (f : σ → σ) (s : σ) :
    (modify f : Act ε σ Unit).run s = (.ok (), f s) :=
  rfl

@[simp] theorem run_emit (e : Event) (s : σ) : (emit e : Act ε σ Unit).run s = (.ok (), s) :=
  rfl

@[simp] theorem run_log (m : Message) (s : σ) : (log m : Act ε σ Unit).run s = (.ok (), s) :=
  rfl

/-! ## One after the other -/

theorem run_bind (x : Act ε σ α) (f : α → Act ε σ β) (s : σ) :
    (x >>= f).run s =
      match x.run s with
      | (.ok a, s') => (f a).run s'
      | (.error e, s') => (.error e, s') := by
  simp only [run, bind_apply]
  rcases x s with ⟨_ | a, s', events⟩ <;> rfl

/-- After a result, the rest runs from the state that was left. -/
theorem run_bind_ok {x : Act ε σ α} {s s' : σ} {a : α} (h : x.run s = (.ok a, s'))
    (f : α → Act ε σ β) : (x >>= f).run s = (f a).run s' := by
  rw [run_bind, h]

/-- After a failure, nothing else runs. -/
theorem run_bind_error {x : Act ε σ α} {s s' : σ} {e : ε} (h : x.run s = (.error e, s'))
    (f : α → Act ε σ β) : (x >>= f).run s = (.error e, s') := by
  rw [run_bind, h]

/-- A result of two actions is a result of each. -/
theorem run_bind_eq_ok {x : Act ε σ α} {f : α → Act ε σ β} {s s' : σ} {b : β}
    (h : (x >>= f).run s = (.ok b, s')) :
    ∃ a s₁, x.run s = (.ok a, s₁) ∧ (f a).run s₁ = (.ok b, s') := by
  rcases hx : x.run s with ⟨e | a, s₁⟩
  · rw [run_bind_error hx] at h
    cases h
  · rw [run_bind_ok hx] at h
    exact ⟨a, s₁, rfl, h⟩

@[simp] theorem run_pure_bind (a : α) (f : α → Act ε σ β) (s : σ) :
    (pure a >>= f).run s = (f a).run s :=
  run_bind_ok (run_pure a s) f

@[simp] theorem run_get_bind (f : σ → Act ε σ β) (s : σ) :
    ((get : Act ε σ σ) >>= f).run s = (f s).run s :=
  run_bind_ok (run_get s) f

@[simp] theorem run_gets_bind (g : σ → α) (f : α → Act ε σ β) (s : σ) :
    ((gets g : Act ε σ α) >>= f).run s = (f (g s)).run s :=
  run_bind_ok (run_gets g s) f

@[simp] theorem run_modify_bind (g : σ → σ) (f : Unit → Act ε σ β) (s : σ) :
    ((modify g : Act ε σ Unit) >>= f).run s = (f ()).run (g s) :=
  run_bind_ok (run_modify g s) f

@[simp] theorem run_emit_bind (e : Event) (f : Unit → Act ε σ β) (s : σ) :
    ((emit e : Act ε σ Unit) >>= f).run s = (f ()).run s :=
  run_bind_ok (run_emit e s) f

@[simp] theorem run_log_bind (m : Message) (f : Unit → Act ε σ β) (s : σ) :
    ((log m : Act ε σ Unit) >>= f).run s = (f ()).run s :=
  run_bind_ok (run_log m s) f

/-! ## Failures renamed or turned into values -/

theorem run_mapFailure (f : ε → ε') (x : Act ε σ α) (s : σ) :
    (x.mapFailure f).run s = ((x.run s).1.mapError f, (x.run s).2) := by
  simp only [run, mapFailure_apply]

theorem run_sure {x : Act Empty σ α} {s s' : σ} {a : α} (h : x.run s = (.ok a, s')) :
    (x.sure : Act ε σ α).run s = (.ok a, s') := by
  rw [sure, run_mapFailure, h]
  rfl

/-- An action that cannot fail has a result wherever it runs. -/
theorem exists_run_sure (x : Act Empty σ α) (s : σ) :
    ∃ a, (x.sure : Act ε σ α).run s = (.ok a, (x.run s).2) := by
  rcases hr : x.run s with ⟨e | a, s'⟩
  · exact e.elim
  · exact ⟨a, run_sure hr⟩

@[simp] theorem run_attempt (x : Act ε σ α) (s : σ) :
    (x.attempt : Act ε' σ (Except ε α)).run s = (.ok (x.run s).1, (x.run s).2) :=
  rfl

theorem run_settle_ok [Raises ε] {x : Act ε σ α} {s s' : σ} {a : α}
    (h : x.run s = (.ok a, s')) : x.settle.run s = (.ok (.ok a), s') := by
  rw [run_eq_iff] at h ⊢
  simp only [settle]
  generalize x s = o at h ⊢
  obtain ⟨result, state, events⟩ := o
  obtain ⟨rfl, rfl⟩ := h
  exact ⟨rfl, rfl⟩

theorem run_settle_error [Raises ε] {x : Act ε σ α} {s s' : σ} {f : ε} {e : Error}
    (h : x.run s = (.error f, s')) (he : Raises.toFailure f = .error e) :
    x.settle.run s = (.ok (.error e), s') := by
  rw [run_eq_iff] at h ⊢
  simp only [settle]
  generalize x s = o at h ⊢
  obtain ⟨result, state, events⟩ := o
  obtain ⟨rfl, rfl⟩ := h
  simp only [he, and_self]

theorem run_settle_trap [Raises ε] {x : Act ε σ α} {s s' : σ} {f : ε} {t : Trap}
    (h : x.run s = (.error f, s')) (he : Raises.toFailure f = .trap t) :
    x.settle.run s = (.error t, s') := by
  rw [run_eq_iff] at h ⊢
  simp only [settle]
  generalize x s = o at h ⊢
  obtain ⟨result, state, events⟩ := o
  obtain ⟨rfl, rfl⟩ := h
  simp only [he, and_self]

@[simp] theorem run_ofExcept (f : ε' → ε) (x : Except ε' α) (s : σ) :
    (ofExcept f x : Act ε σ α).run s = (x.mapError f, s) := by
  cases x <;> rfl

/-! ## Parts of a state -/

theorem run_within (focus : τ → σ × (σ → τ)) (x : Act ε σ α) (t : τ) :
    (x.within focus).run t = ((x.run (focus t).1).1, (focus t).2 (x.run (focus t).1).2) :=
  rfl

theorem run_within_eq {focus : τ → σ × (σ → τ)} {x : Act ε σ α} {t : τ} {s' : σ}
    {r : Except ε α} (h : x.run (focus t).1 = (r, s')) :
    (x.within focus).run t = (r, (focus t).2 s') := by
  rw [run_within, h]

theorem run_withLocal_ok {ρ : Type} {init own : ρ} {x : Act ε (σ × ρ) α} {s s' : σ} {a : α}
    (h : x.run (s, init) = (.ok a, s', own)) :
    (withLocal init x).run s = (.ok (a, own), s') := by
  rw [run_eq_iff] at h ⊢
  simp only [withLocal]
  generalize x (s, init) = o at h ⊢
  obtain ⟨result, state, events⟩ := o
  obtain ⟨rfl, rfl⟩ := h
  exact ⟨rfl, rfl⟩

theorem run_withLocal_error {ρ : Type} {init own : ρ} {x : Act ε (σ × ρ) α} {s s' : σ} {e : ε}
    (h : x.run (s, init) = (.error e, s', own)) :
    (withLocal init x).run s = (.error e, s') := by
  rw [run_eq_iff] at h ⊢
  simp only [withLocal]
  generalize x (s, init) = o at h ⊢
  obtain ⟨result, state, events⟩ := o
  obtain ⟨rfl, rfl⟩ := h
  exact ⟨rfl, rfl⟩

end Coprocessor.Act
