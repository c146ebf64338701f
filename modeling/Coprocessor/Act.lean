import Coprocessor.Event

/-!
Actions: computations that change a state, may fail and can be observed. A failure keeps the
state reached so far, because a mailbox or a storage device does not roll back. Events only
flow out, so the result and the state of an action never depend on them.

* `Act.within` runs an action on a part of a larger state.
* `Act.attempt` turns a failure into a value.
* `Act.firstSome` is the bounded loop behind every polling and draining loop.
-/
namespace Coprocessor

/-- What became of an action: its result, the state it left and the events it showed. -/
structure Outcome (ε σ α : Type) where
  result : Except ε α
  state : σ
  events : List Event

/-- An action on states `σ` that gives an `α` or fails with an `ε`. -/
def Act (ε σ α : Type) : Type :=
  σ → Outcome ε σ α

namespace Act

variable {ε ε' σ τ α β : Type}

@[inline] protected def pure (a : α) : Act ε σ α := fun s =>
  ⟨.ok a, s, []⟩

@[inline] protected def bind (x : Act ε σ α) (f : α → Act ε σ β) : Act ε σ β := fun s =>
  match x s with
  | ⟨.ok a, s, events⟩ =>
    match f a s with
    | ⟨result, s, more⟩ => ⟨result, s, events ++ more⟩
  | ⟨.error e, s, events⟩ => ⟨.error e, s, events⟩

instance : Monad (Act ε σ) where
  pure := Act.pure
  bind := Act.bind

/-- Fails, leaving the state as it is. -/
@[inline] protected def throw (e : ε) : Act ε σ α := fun s =>
  ⟨.error e, s, []⟩

/-- Fails with an error. -/
@[inline] def fail [Raises ε] (e : Error) : Act ε σ α :=
  Act.throw (Raises.raise e)

/-- The state. -/
@[inline] def get : Act ε σ σ := fun s =>
  ⟨.ok s, s, []⟩

/-- A value computed from the state. -/
@[inline] def gets (f : σ → α) : Act ε σ α := fun s =>
  ⟨.ok (f s), s, []⟩

/-- Changes the state. -/
@[inline] def modify (f : σ → σ) : Act ε σ Unit := fun s =>
  ⟨.ok (), f s, []⟩

/-- Shows an event. -/
@[inline] def emit (e : Event) : Act ε σ Unit := fun s =>
  ⟨.ok (), s, [e]⟩

/-- Reports a message. -/
@[inline] def log (m : Message) : Act ε σ Unit :=
  emit (.message m)

/-- An action with its failures renamed. -/
@[inline] def mapFailure (f : ε → ε') (x : Act ε σ α) : Act ε' σ α := fun s =>
  match x s with
  | ⟨.ok a, s, events⟩ => ⟨.ok a, s, events⟩
  | ⟨.error e, s, events⟩ => ⟨.error (f e), s, events⟩

/-- An action that cannot fail, used where failures are possible. -/
@[inline] def sure (x : Act Empty σ α) : Act ε σ α :=
  x.mapFailure nofun

/-- The result of an action as a value: a failure is handed on to the caller to decide. -/
@[inline] def attempt (x : Act ε σ α) : Act ε' σ (Except ε α) := fun s =>
  match x s with
  | ⟨result, s, events⟩ => ⟨.ok result, s, events⟩

/-- Turns errors into values and lets traps through. -/
def settle [Raises ε] (x : Act ε σ α) : Act Trap σ (Except Error α) := fun s =>
  match x s with
  | ⟨.ok a, s, events⟩ => ⟨.ok (.ok a), s, events⟩
  | ⟨.error e, s, events⟩ =>
    match Raises.toFailure e with
    | .error e => ⟨.ok (.error e), s, events⟩
    | .trap t => ⟨.error t, s, events⟩

/-- A computation that does not use the state. -/
@[inline] def ofExcept (f : ε' → ε) (x : Except ε' α) : Act ε σ α := fun s =>
  match x with
  | .ok a => ⟨.ok a, s, []⟩
  | .error e => ⟨.error (f e), s, []⟩

/-- Runs an action on the part of a state that `focus` names; `focus` also says how the whole is
put together again. -/
@[inline] def within (focus : τ → σ × (σ → τ)) (x : Act ε σ α) : Act ε τ α := fun t =>
  match focus t with
  | (s, back) =>
    match x s with
    | ⟨result, s, events⟩ => ⟨result, back s, events⟩

/-- Runs an action that also works on a value of its own, and gives what became of the value. -/
@[inline] def withLocal {ρ : Type} (init : ρ) (x : Act ε (σ × ρ) α) : Act ε σ (α × ρ) := fun s =>
  match x (s, init) with
  | ⟨.ok a, (s, own), events⟩ => ⟨.ok (a, own), s, events⟩
  | ⟨.error e, (s, _), events⟩ => ⟨.error e, s, events⟩

/-! ## Bounded loops -/

/-- The loop of `firstSome`, with the events so far in reverse. -/
@[specialize] def firstSomeFrom (body : Nat → Act ε σ (Option α)) :
    Nat → Nat → List Event → Act ε σ (Option α)
  | 0, _, seen => fun s => ⟨.ok none, s, seen.reverse⟩
  | n + 1, i, seen => fun s =>
    match body i s with
    | ⟨.ok none, s, events⟩ => firstSomeFrom body n (i + 1) (events.reverse ++ seen) s
    | ⟨.ok (some a), s, events⟩ => ⟨.ok (some a), s, seen.reverse ++ events⟩
    | ⟨.error e, s, events⟩ => ⟨.error e, s, seen.reverse ++ events⟩

/-- Runs `body i`, `body (i + 1)`, … `n` times at most, and stops at the first that gives a
value. -/
@[inline] def firstSome (n : Nat) (i : Nat) (body : Nat → Act ε σ (Option α)) :
    Act ε σ (Option α) :=
  firstSomeFrom body n i []

/-! ## Laws -/

@[ext] theorem ext {x y : Act ε σ α} (h : ∀ s, x s = y s) : x = y :=
  funext h

@[simp] theorem pure_apply (a : α) (s : σ) : (pure a : Act ε σ α) s = ⟨.ok a, s, []⟩ :=
  rfl

theorem bind_apply (x : Act ε σ α) (f : α → Act ε σ β) (s : σ) :
    (x >>= f) s =
      match x s with
      | ⟨.ok a, s, events⟩ => ⟨(f a s).result, (f a s).state, events ++ (f a s).events⟩
      | ⟨.error e, s, events⟩ => ⟨.error e, s, events⟩ :=
  rfl

/-- After a result, the rest runs from the state that was left. -/
theorem bind_ok {x : Act ε σ α} {s s' : σ} {a : α} {events : List Event}
    (h : x s = ⟨.ok a, s', events⟩) (f : α → Act ε σ β) :
    (x >>= f) s = ⟨(f a s').result, (f a s').state, events ++ (f a s').events⟩ := by
  rw [bind_apply, h]

/-- After a failure, nothing else runs. -/
theorem bind_error {x : Act ε σ α} {s s' : σ} {e : ε} {events : List Event}
    (h : x s = ⟨.error e, s', events⟩) (f : α → Act ε σ β) :
    (x >>= f) s = ⟨.error e, s', events⟩ := by
  rw [bind_apply, h]

@[simp] theorem throw_apply (e : ε) (s : σ) : (Act.throw e : Act ε σ α) s = ⟨.error e, s, []⟩ :=
  rfl

@[simp] theorem fail_apply [Raises ε] (e : Error) (s : σ) :
    (fail e : Act ε σ α) s = ⟨.error (Raises.raise e), s, []⟩ :=
  rfl

@[simp] theorem get_apply (s : σ) : (get : Act ε σ σ) s = ⟨.ok s, s, []⟩ :=
  rfl

@[simp] theorem gets_apply (f : σ → α) (s : σ) : (gets f : Act ε σ α) s = ⟨.ok (f s), s, []⟩ :=
  rfl

@[simp] theorem modify_apply (f : σ → σ) (s : σ) :
    (modify f : Act ε σ Unit) s = ⟨.ok (), f s, []⟩ :=
  rfl

@[simp] theorem emit_apply (e : Event) (s : σ) : (emit e : Act ε σ Unit) s = ⟨.ok (), s, [e]⟩ :=
  rfl

@[simp] theorem log_apply (m : Message) (s : σ) :
    (log m : Act ε σ Unit) s = ⟨.ok (), s, [.message m]⟩ :=
  rfl

theorem mapFailure_apply (f : ε → ε') (x : Act ε σ α) (s : σ) :
    x.mapFailure f s = ⟨(x s).result.mapError f, (x s).state, (x s).events⟩ := by
  simp only [mapFailure]
  rcases x s with ⟨_ | a, s, events⟩ <;> rfl

theorem attempt_apply (x : Act ε σ α) (s : σ) :
    (x.attempt : Act ε' σ _) s = ⟨.ok (x s).result, (x s).state, (x s).events⟩ :=
  rfl

theorem within_apply (focus : τ → σ × (σ → τ)) (x : Act ε σ α) (t : τ) :
    x.within focus t =
      ⟨(x (focus t).1).result, (focus t).2 (x (focus t).1).state, (x (focus t).1).events⟩ :=
  rfl

/-- Steps on one part of a state are one action on that part, if what is put in is what is found
there, and can be replaced. -/
theorem within_bind {focus : τ → σ × (σ → τ)}
    (lawful : ∀ t s, focus ((focus t).2 s) = (s, (focus t).2)) (x : Act ε σ α)
    (f : α → Act ε σ β) :
    (x >>= f).within focus = x.within focus >>= fun a => (f a).within focus := by
  ext t
  simp only [bind_apply, within_apply]
  rcases x (focus t).1 with ⟨_ | a, s, events⟩
  · rfl
  · simp [lawful]

theorem id_map_act (x : Act ε σ α) : (x >>= fun a => pure (id a)) = x := by
  ext s
  rw [bind_apply]
  rcases x s with ⟨_ | a, s, events⟩ <;> simp

theorem pure_bind_act (a : α) (f : α → Act ε σ β) : (pure a >>= f) = f a := by
  ext s
  rw [bind_apply]
  simp

theorem bind_assoc_act {γ : Type} (x : Act ε σ α) (f : α → Act ε σ β) (g : β → Act ε σ γ) :
    (x >>= f) >>= g = x >>= fun a => f a >>= g := by
  ext s
  rw [bind_apply, bind_apply, bind_apply]
  rcases x s with ⟨_ | a, s, events⟩
  · rfl
  · simp only [bind_apply]
    rcases f a s with ⟨_ | b, s, more⟩
    · rfl
    · simp [List.append_assoc]

instance : LawfulMonad (Act ε σ) :=
  LawfulMonad.mk' _ id_map_act pure_bind_act bind_assoc_act

theorem firstSomeFrom_seen (body : Nat → Act ε σ (Option α)) (n i : Nat) (seen : List Event)
    (s : σ) :
    firstSomeFrom body n i seen s =
      ⟨(firstSome n i body s).result, (firstSome n i body s).state,
        seen.reverse ++ (firstSome n i body s).events⟩ := by
  induction n generalizing i seen s with
  | zero => simp [firstSome, firstSomeFrom]
  | succ n ih =>
    simp only [firstSome, firstSomeFrom]
    rcases body i s with ⟨_ | _ | a, s, events⟩
    · simp
    · simp only
      rw [ih, ih _ (events.reverse ++ [])]
      simp [List.append_assoc]
    · simp

@[simp] theorem firstSome_zero (i : Nat) (body : Nat → Act ε σ (Option α)) :
    firstSome 0 i body = pure none :=
  rfl

/-- The loop runs its body once and goes on only if that gave nothing. -/
theorem firstSome_succ (n i : Nat) (body : Nat → Act ε σ (Option α)) :
    firstSome (n + 1) i body =
      body i >>= fun found =>
        match found with
        | some a => pure (some a)
        | none => firstSome n (i + 1) body := by
  ext s
  rw [bind_apply]
  simp only [firstSome, firstSomeFrom]
  rcases body i s with ⟨_ | _ | a, s, events⟩
  · simp
  · simp only
    rw [firstSomeFrom_seen]
    simp [firstSome]
  · simp

end Act

end Coprocessor
