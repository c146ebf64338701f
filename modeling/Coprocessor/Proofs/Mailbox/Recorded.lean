import Coprocessor.Mailbox.Transfer
import Coprocessor.Proofs.Act.Run

/-!
Buses with a record of what passed over them. The bus under the record may answer as it likes, so
that what is shown of a trace holds with every device and under every failure. Recording changes
nothing: `Shows` relates an action to the same action on a recorded bus, and says what it records.
-/
namespace Coprocessor

open Act

/-- What can be asked of a register bus. -/
inductive Operation where
  | read (r : Register)
  | write (r : Register) (value : UInt32)
  | barrier
  deriving DecidableEq

/-- An operation and what came of it. -/
inductive Transaction (ε : Type) where
  | read (r : Register) (answer : Except ε UInt32)
  | write (r : Register) (value : UInt32) (answer : Except ε Unit)
  | barrier

def Transaction.operation {ε : Type} : Transaction ε → Operation
  | read r _ => .read r
  | write r value _ => .write r value
  | barrier => .barrier

/-- A bus and the transactions that passed over it, the oldest first. -/
structure Recorded (σ ε : Type) where
  bus : σ
  trace : List (Transaction ε)

namespace Recorded

variable {σ ε ε' α : Type}

/-- A bus with an empty record. -/
def fresh (bus : σ) : Recorded σ ε :=
  ⟨bus, []⟩

def record (note : Except ε' α → Transaction ε) (x : Act ε' σ α) : Act ε' (Recorded σ ε) α
  | ⟨bus, trace⟩ =>
    match x bus with
    | ⟨result, bus, events⟩ => ⟨result, ⟨bus, trace ++ [note result]⟩, events⟩

def busPart : Recorded σ ε → σ × (σ → Recorded σ ε)
  | ⟨bus, trace⟩ => (bus, fun bus => ⟨bus, trace⟩)

instance [RegisterBus σ ε] : RegisterBus (Recorded σ ε) ε where
  read r := record (.read r) (RegisterBus.read r)
  write r value := record (.write r value) (RegisterBus.write r value)
  barrier := record (fun _ => .barrier) RegisterBus.barrier
  pause := RegisterBus.pause.within busPart

theorem run_record (note : Except ε' α → Transaction ε) (x : Act ε' σ α) (s : Recorded σ ε) :
    (record note x).run s =
      ((x.run s.bus).1, ⟨(x.run s.bus).2, s.trace ++ [note (x.run s.bus).1]⟩) :=
  rfl

end Recorded

/-- How a state `τ'` holds a state `τ` and a record. -/
structure Recording (τ' τ ε : Type) where
  bare : τ' → τ
  trace : τ' → List (Transaction ε)

namespace Recording

variable {τ' τ σ ρ ε : Type}

def ofBus : Recording (Recorded σ ε) σ ε where
  bare := Recorded.bus
  trace := Recorded.trace

/-- The record of a part of the state. -/
def beside (k : Recording τ' τ ε) : Recording (τ' × ρ) (τ × ρ) ε where
  bare := fun (s, own) => (k.bare s, own)
  trace := fun (s, _) => k.trace s

end Recording

/-- The action `y` is `x` on states with a record: it ends as `x` does, and what it adds to the
record satisfies `T` together with the result. -/
def Shows {τ' τ ε α : Type} (k : Recording τ' τ ε) (x : Act ε τ α) (y : Act ε τ' α)
    (T : List (Transaction ε) → Except ε α → Prop) : Prop :=
  ∀ s, ∃ added, x.run (k.bare s) = ((y.run s).1, k.bare (y.run s).2) ∧
    k.trace (y.run s).2 = k.trace s ++ added ∧ T added (y.run s).1

namespace Shows

section Rules

variable {τ' τ ε α β : Type} {k : Recording τ' τ ε}
  {T : List (Transaction ε) → Except ε α → Prop}

theorem mono {x : Act ε τ α} {y : Act ε τ' α} {U : List (Transaction ε) → Except ε α → Prop}
    (h : Shows k x y T) (weaker : ∀ added r, T added r → U added r) : Shows k x y U := by
  intro s
  obtain ⟨added, same, grown, holds⟩ := h s
  exact ⟨added, same, grown, weaker _ _ holds⟩

theorem pure {a : α} (h : T [] (.ok a)) :
    Shows k (Pure.pure a : Act ε τ α) (Pure.pure a : Act ε τ' α) T := by
  intro s
  exact ⟨[], rfl, (List.append_nil _).symm, h⟩

theorem fail [Raises ε] {e : Error} (h : T [] (.error (Raises.raise e))) :
    Shows k (Act.fail e : Act ε τ α) (Act.fail e : Act ε τ' α) T := by
  intro s
  exact ⟨[], rfl, (List.append_nil _).symm, h⟩

theorem log {T : List (Transaction ε) → Except ε Unit → Prop} (m : Message) (h : T [] (.ok ())) :
    Shows k (Act.log m : Act ε τ Unit) (Act.log m : Act ε τ' Unit) T := by
  intro s
  exact ⟨[], rfl, (List.append_nil _).symm, h⟩

theorem bind {x : Act ε τ α} {y : Act ε τ' α} {f : α → Act ε τ β} {g : α → Act ε τ' β}
    {U : α → List (Transaction ε) → Except ε β → Prop}
    {V : List (Transaction ε) → Except ε β → Prop} (hx : Shows k x y T)
    (hf : ∀ a, Shows k (f a) (g a) (U a))
    (fails : ∀ added e, T added (.error e) → V added (.error e))
    (goes : ∀ first a rest r, T first (.ok a) → U a rest r → V (first ++ rest) r) :
    Shows k (x >>= f) (y >>= g) V := by
  intro s
  obtain ⟨first, same, grown, holds⟩ := hx s
  rcases hr : y.run s with ⟨e | a, s'⟩
  · rw [hr] at same grown holds
    rw [run_bind_error hr, run_bind_error same]
    exact ⟨first, rfl, grown, fails _ _ holds⟩
  · rw [hr] at same grown holds
    obtain ⟨rest, same', grown', holds'⟩ := hf a s'
    rw [run_bind_ok hr, run_bind_ok same, same']
    refine ⟨first ++ rest, rfl, ?_, goes _ _ _ _ holds holds'⟩
    rw [grown', grown, List.append_assoc]

theorem log_bind {f : Unit → Act ε τ α} {g : Unit → Act ε τ' α} (m : Message)
    (h : Shows k (f ()) (g ()) T) : Shows k (Act.log m >>= f) (Act.log m >>= g) T := by
  intro s
  rw [run_log_bind, run_log_bind]
  exact h s

/-- A change that leaves the record alone. -/
theorem modify_bind {f : τ → τ} {g : τ' → τ'} {x : Unit → Act ε τ α} {y : Unit → Act ε τ' α}
    (same : ∀ s, k.bare (g s) = f (k.bare s)) (unrecorded : ∀ s, k.trace (g s) = k.trace s)
    (h : Shows k (x ()) (y ()) T) :
    Shows k (Act.modify f >>= x) (Act.modify g >>= y) T := by
  intro s
  obtain ⟨added, same', grown, holds⟩ := h (g s)
  rw [run_modify_bind, run_modify_bind, ← same, ← unrecorded s]
  exact ⟨added, same', grown, holds⟩

theorem map {x : Act ε τ α} {y : Act ε τ' α} (h : Shows k x y T) (f : α → β) :
    Shows k (x >>= fun a => Pure.pure (f a)) (y >>= fun a => Pure.pure (f a))
      fun added r => ∃ r', T added r' ∧ r = r'.map f := by
  refine h.bind (fun a => pure (T := fun added r => added = [] ∧ r = .ok (f a)) ⟨rfl, rfl⟩) ?_ ?_
  · intro added e holds
    exact ⟨_, holds, rfl⟩
  · rintro first a rest r holds ⟨rfl, rfl⟩
    rw [List.append_nil]
    exact ⟨_, holds, rfl⟩

theorem beside {ρ : Type} {x : Act ε τ α} {y : Act ε τ' α} (h : Shows k x y T) :
    Shows (k.beside (ρ := ρ)) (x.within Transfer.busPart) (y.within Transfer.busPart) T := by
  rintro ⟨s, own⟩
  obtain ⟨added, same, grown, holds⟩ := h s
  exact ⟨added, run_within_eq same, grown, holds⟩

end Rules

/-! ## Single transactions -/

section Accesses

variable {σ ε : Type} [RegisterBus σ ε]

theorem read (r : Register) :
    Shows Recording.ofBus (RegisterBus.read r : Act ε σ UInt32) (RegisterBus.read r)
      fun added answer => added = [.read r answer] := by
  intro s
  exact ⟨_, rfl, rfl, rfl⟩

theorem write (r : Register) (value : UInt32) :
    Shows Recording.ofBus (RegisterBus.write r value : Act ε σ Unit) (RegisterBus.write r value)
      fun added answer => added = [.write r value answer] := by
  intro s
  exact ⟨_, rfl, rfl, rfl⟩

theorem barrier :
    Shows Recording.ofBus (Mailbox.barrier : Act ε σ Unit) Mailbox.barrier
      fun added r => added = [.barrier] ∧ r = .ok () := by
  intro s
  rcases passed : (RegisterBus.barrier : Act Empty σ Unit).run s.bus with ⟨e | ⟨⟨⟩⟩, bus⟩
  · exact e.elim
  · have recorded : (RegisterBus.barrier : Act Empty (Recorded σ ε) Unit).run s =
        (.ok (), ⟨bus, s.trace ++ [.barrier]⟩) :=
      (Recorded.run_record _ _ s).trans (by rw [passed])
    refine ⟨[.barrier], ?_⟩
    rw [Mailbox.barrier, Mailbox.barrier, run_sure recorded]
    exact ⟨run_sure passed, rfl, rfl, rfl⟩

/-! ## Mailbox operations of one transaction -/

/-- A check of one bit is one read of the status register. -/
theorem check (bit : Status → Bool) :
    Shows Recording.ofBus (Mailbox.status >>= fun s => Pure.pure (bit s) : Act ε σ Bool)
      (Mailbox.status >>= fun s => Pure.pure (bit s)) fun added r =>
        ∃ answer, added = [.read .status answer] ∧ r = answer.map fun bits => bit ⟨bits⟩ := by
  refine (((read .status).map Status.mk).map bit).mono ?_
  rintro added r ⟨r', ⟨answer, rfl, rfl⟩, rfl⟩
  refine ⟨answer, rfl, ?_⟩
  cases answer with
  | ok bits => rfl
  | error e => rfl

theorem canRead :
    Shows Recording.ofBus (Mailbox.canRead : Act ε σ Bool) Mailbox.canRead fun added r =>
      ∃ answer, added = [.read .status answer] ∧
        r = answer.map fun bits => (Status.mk bits).rxAvailable :=
  check Status.rxAvailable

theorem canWrite :
    Shows Recording.ofBus (Mailbox.canWrite : Act ε σ Bool) Mailbox.canWrite fun added r =>
      ∃ answer, added = [.read .status answer] ∧
        r = answer.map fun bits => (Status.mk bits).txAvailable :=
  check Status.txAvailable

theorem takeWord :
    Shows Recording.ofBus (Mailbox.takeWord : Act ε σ UInt32) Mailbox.takeWord
      fun added r => added = [.read .rdata r] := by
  refine (read .rdata).bind (fun word => log_bind _ (pure (T := fun added r =>
    added = [] ∧ r = .ok word) ⟨rfl, rfl⟩)) ?_ ?_
  · intro added e holds
    exact holds
  · rintro first word rest r rfl ⟨rfl, rfl⟩
    rfl

end Accesses

end Shows

end Coprocessor
