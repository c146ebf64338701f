import Mathlib.Tactic.Choose
import Coprocessor.Proofs.Mailbox.Recorded

/-!
What code asks of a bus, as a tree: an access is a node that branches on what comes of it. Code that
is written for any bus and does no more with it than to access registers is `Portable`: it performs
one and the same tree on every bus. What holds of all trees, by induction, then holds of the code
without following it again.
-/
namespace Coprocessor

open Act

variable {α β : Type}

/-- Failures that give an error back as it was raised. -/
class LawfulRaises (ε : Type) [Raises ε] : Prop where
  toFailure_raise : ∀ e : Error, Raises.toFailure (Raises.raise e : ε) = .error e

instance : LawfulRaises Error := ⟨fun _ => rfl⟩

instance : LawfulRaises Failure := ⟨fun _ => rfl⟩

/-! ## Errors as values -/

namespace Act

variable {ε σ : Type} [Raises ε]

theorem settle_pure (a : α) : (Pure.pure a : Act ε σ α).settle = Pure.pure (.ok a) :=
  rfl

theorem settle_fail [LawfulRaises ε] (e : Error) :
    (Act.fail e : Act ε σ α).settle = Pure.pure (.error e) := by
  ext s
  simp only [settle, fail_apply, LawfulRaises.toFailure_raise, pure_apply]

theorem settle_emit (event : Event) :
    (Act.emit event : Act ε σ Unit).settle = Act.emit event >>= fun _ => Pure.pure (.ok ()) :=
  rfl

/-- What follows an action that is tried: the rest of it after a result, and nothing after an
error. -/
theorem settle_bind (x : Act ε σ α) (f : α → Act ε σ β) :
    (x >>= f).settle = x.settle >>= fun tried =>
      match tried with
      | .ok a => (f a).settle
      | .error e => Pure.pure (.error e) := by
  ext s
  simp only [settle, bind_apply]
  rcases x s with ⟨failure | a, s', events⟩
  · dsimp only
    cases Raises.toFailure failure with
    | error e => simp
    | trap t => rfl
  · simp only [settle]
    rcases f a s' with ⟨failure | b, s'', more⟩
    · dsimp only
      cases Raises.toFailure failure with
      | error e => rfl
      | trap t => rfl
    · rfl

/-- What an answer comes to where errors are values: only a trap ends what was asked for. -/
def settled : Except ε α → Except Trap (Except Error α)
  | .ok a => .ok (.ok a)
  | .error failure =>
    match Raises.toFailure failure with
    | .error e => .ok (.error e)
    | .trap t => .error t

theorem run_settle (x : Act ε σ α) (s : σ) :
    x.settle.run s = (settled (x.run s).1, (x.run s).2) := by
  simp only [run, settle]
  rcases x s with ⟨failure | a, s', events⟩
  · simp only [settled]
    cases Raises.toFailure failure with
    | error e => rfl
    | trap t => rfl
  · rfl

end Act

/-! ## Trees of accesses -/

/-- An access to a register, by what it answers. -/
inductive RegisterCall : Type → Type where
  | read (r : Register) : RegisterCall UInt32
  | write (r : Register) (value : UInt32) : RegisterCall Unit

namespace RegisterCall

variable {ε σ : Type}

def register : RegisterCall β → Register
  | read r => r
  | write r _ => r

def run [RegisterBus σ ε] : RegisterCall β → Act ε σ β
  | read r => RegisterBus.read r
  | write r value => RegisterBus.write r value

/-- The access as it stands in a record. -/
def note : RegisterCall β → Except ε β → Transaction ε
  | read r => .read r
  | write r value => .write r value

theorem run_recorded [RegisterBus σ ε] (call : RegisterCall β) (s : Recorded σ ε) :
    (call.run : Act ε (Recorded σ ε) β).run s =
      (((call.run : Act ε σ β).run s.bus).1,
        ⟨((call.run : Act ε σ β).run s.bus).2,
          s.trace ++ [call.note ((call.run : Act ε σ β).run s.bus).1]⟩) := by
  cases call with
  | read r => rfl
  | write r value => rfl

end RegisterCall

/-- Register accesses one after the other, each chosen by what came of those before. -/
inductive Program (α : Type) : Type 1 where
  | done (a : α)
  | tell (event : Event) (next : Program α)
  | ask {β : Type} (call : RegisterCall β) (next : Except Error β → Program α)

namespace Program

/-- The tree that goes on with `f` where `t` is done. -/
def bind (t : Program α) (f : α → Program β) : Program β :=
  match t with
  | done a => f a
  | tell event next => tell event (next.bind f)
  | ask call next => ask call fun answer => (next answer).bind f

variable {ε σ : Type} [RegisterBus σ ε] [Raises ε]

/-- Performs the accesses of a tree on a bus. -/
def perform : Program α → Act Trap σ α
  | done a => pure a
  | tell event next => do
    Act.emit event
    next.perform
  | ask call next => do
    (next (← call.run.settle)).perform

theorem perform_bind (t : Program α) (f : α → Program β) :
    (t.bind f).perform = (t.perform >>= fun a => (f a).perform : Act Trap σ β) := by
  induction t with
  | done a => simp only [bind, perform, pure_bind]
  | tell event next ih => simp only [bind, perform, ih, bind_assoc]
  | ask call next ih => simp only [bind, perform, ih, bind_assoc]

/-! ## Runs of a tree -/

theorem run_ask {call : RegisterCall β} {next : Except Error β → Program α} {s s' : σ}
    {answer : Except ε β} (h : (call.run : Act ε σ β).run s = (answer, s')) :
    ((ask call next).perform : Act Trap σ α).run s =
      match settled answer with
      | .ok tried => (next tried).perform.run s'
      | .error t => (.error t, s') := by
  have settles : (call.run : Act ε σ β).settle.run s = (settled answer, s') := by
    rw [run_settle, h]
  rw [perform, run_bind, settles]
  cases settled answer with
  | ok tried => rfl
  | error t => rfl

/-- From `s` the tree comes to `r` and leaves `s'`, with these accesses on the way. -/
inductive Goes : Program α → σ → Except Trap α → σ → List (Transaction ε) → Prop where
  | done {a : α} {s : σ} : Goes (done a) s (.ok a) s []
  | tell {event : Event} {next : Program α} {s s' : σ} {r : Except Trap α}
      {trace : List (Transaction ε)} (rest : Goes next s r s' trace) :
      Goes (tell event next) s r s' trace
  | ask {β : Type} {call : RegisterCall β} {next : Except Error β → Program α} {s s₁ s' : σ}
      {answer : Except ε β} {tried : Except Error β} {r : Except Trap α}
      {trace : List (Transaction ε)} (answers : (call.run : Act ε σ β).run s = (answer, s₁))
      (goes : settled answer = .ok tried) (rest : Goes (next tried) s₁ r s' trace) :
      Goes (ask call next) s r s' (call.note answer :: trace)
  | trap {β : Type} {call : RegisterCall β} {next : Except Error β → Program α} {s s₁ : σ}
      {answer : Except ε β} {t : Trap} (answers : (call.run : Act ε σ β).run s = (answer, s₁))
      (traps : settled answer = .error t) :
      Goes (ask call next) s (.error t) s₁ [call.note answer]

variable {t : Program α} {s s' : σ} {r : Except Trap α} {trace : List (Transaction ε)}

theorem Goes.run (h : Goes t s r s' trace) : t.perform.run s = (r, s') := by
  induction h with
  | done => rfl
  | tell rest ih => rwa [perform, run_emit_bind]
  | ask answers goes rest ih =>
    rw [run_ask answers, goes]
    exact ih
  | trap answers traps => rw [run_ask answers, traps]

theorem Goes.run_recorded (h : Goes t s r s' trace) (past : List (Transaction ε)) :
    t.perform.run (⟨s, past⟩ : Recorded σ ε) = (r, ⟨s', past ++ trace⟩) := by
  induction h generalizing past with
  | done =>
    rw [List.append_nil]
    rfl
  | tell rest ih =>
    rw [perform, run_emit_bind]
    exact ih past
  | @ask _ call _ s _ _ answer _ _ _ answers goes rest ih =>
    have noted := call.run_recorded (⟨s, past⟩ : Recorded σ ε)
    rw [answers] at noted
    rw [run_ask noted, goes]
    exact (ih _).trans (by rw [List.append_assoc, List.singleton_append])
  | @trap _ call _ s _ answer _ answers traps =>
    have noted := call.run_recorded (⟨s, past⟩ : Recorded σ ε)
    rw [answers] at noted
    rw [run_ask noted, traps]

theorem exists_goes (t : Program α) (s : σ) :
    ∃ r s' trace, Goes (ε := ε) t s r s' trace := by
  induction t generalizing s with
  | done a => exact ⟨_, _, _, .done⟩
  | tell event next ih =>
    obtain ⟨r, s', trace, rest⟩ := ih s
    exact ⟨r, s', trace, .tell rest⟩
  | ask call next ih =>
    rcases answers : (call.run : Act ε σ _).run s with ⟨answer, s₁⟩
    cases goes : settled answer with
    | error t => exact ⟨_, _, _, .trap answers goes⟩
    | ok tried =>
      obtain ⟨r, s', trace, rest⟩ := ih tried s₁
      exact ⟨r, s', _, .ask answers goes rest⟩

end Program

/-! ## Code for any bus -/

/-- An action on each bus. -/
abbrev OnBuses (α : Type) : Type 1 :=
  ∀ (σ ε : Type) [RegisterBus σ ε] [Raises ε], Act ε σ α

/-- The actions perform one tree, whatever the bus. -/
def Portable (x : OnBuses α) : Prop :=
  ∃ t : Program (Except Error α), ∀ (σ ε : Type) [RegisterBus σ ε] [Raises ε] [LawfulRaises ε],
    (x σ ε).settle = t.perform

namespace Portable

theorem pure (a : α) : Portable fun σ ε _ _ => (Pure.pure a : Act ε σ α) :=
  ⟨.done (.ok a), fun _ _ _ _ _ => settle_pure a⟩

theorem fail (e : Error) : Portable fun σ ε _ _ => (Act.fail e : Act ε σ α) :=
  ⟨.done (.error e), fun _ _ _ _ _ => settle_fail e⟩

theorem emit (event : Event) : Portable fun σ ε _ _ => (Act.emit event : Act ε σ Unit) :=
  ⟨.tell event (.done (.ok ())), fun _ _ _ _ _ => settle_emit event⟩

theorem log (m : Message) : Portable fun σ ε _ _ => (Act.log m : Act ε σ Unit) :=
  emit (.message m)

theorem read (r : Register) : Portable fun σ ε _ _ => (RegisterBus.read r : Act ε σ UInt32) :=
  ⟨.ask (.read r) .done, fun _ _ _ _ _ => (bind_pure _).symm⟩

theorem write (r : Register) (value : UInt32) :
    Portable fun σ ε _ _ => (RegisterBus.write r value : Act ε σ Unit) :=
  ⟨.ask (.write r value) .done, fun _ _ _ _ _ => (bind_pure _).symm⟩

theorem bind {x : OnBuses α} {f : α → OnBuses β} (hx : Portable x) (hf : ∀ a, Portable (f a)) :
    Portable fun σ ε _ _ => x σ ε >>= fun a => f a σ ε := by
  obtain ⟨t, first⟩ := hx
  choose u rest using hf
  refine ⟨t.bind fun tried => tried.casesOn (fun e => .done (.error e)) u, fun σ ε _ _ _ => ?_⟩
  rw [settle_bind, Program.perform_bind, first σ ε]
  congr 1
  funext tried
  cases tried with
  | error e => rfl
  | ok a => exact rest a σ ε

/-- A branch on what does not depend on the bus. -/
theorem ite {c : Prop} [Decidable c] {x y : OnBuses α} (yes : Portable x) (no : Portable y) :
    Portable fun σ ε _ _ => if c then x σ ε else y σ ε := by
  by_cases holds : c
  · simpa only [if_pos holds] using yes
  · simpa only [if_neg holds] using no

theorem firstSome {body : Nat → OnBuses (Option α)} (h : ∀ i, Portable (body i)) (n i : Nat) :
    Portable fun σ ε _ _ => Act.firstSome n i fun k => body k σ ε := by
  induction n generalizing i with
  | zero => exact pure none
  | succ n ih =>
    simp only [firstSome_succ]
    refine (h i).bind fun found => ?_
    cases found with
    | none => exact ih (i + 1)
    | some a => exact pure (some a)

end Portable

/-! ## A value beside the bus -/

section Local

variable {ε σ ρ : Type}

theorem Act.withLocal_bind (init : ρ) (x : Act ε (σ × ρ) α) (f : α → Act ε (σ × ρ) β) :
    withLocal init (x >>= f) = withLocal init x >>= fun (a, own) => withLocal own (f a) := by
  ext s
  simp only [withLocal, bind_apply]
  rcases x (s, init) with ⟨e | a, ⟨s', own⟩, events⟩
  · rfl
  · dsimp only
    rcases f a (s', own) with ⟨e | b, ⟨s'', own'⟩, more⟩
    · rfl
    · rfl

theorem Act.withLocal_onBus (init : ρ) (x : Act ε σ α) :
    withLocal init (x.within Transfer.busPart) = x >>= fun a => Pure.pure (a, init) := by
  ext s
  simp only [withLocal, bind_apply, within_apply, Transfer.busPart]
  rcases x s with ⟨e | a, s', events⟩
  · rfl
  · simp

end Local

/-- An action on each bus, beside a value of its own. -/
abbrev BesideBuses (ρ α : Type) : Type 1 :=
  ∀ (σ ε : Type) [RegisterBus σ ε] [Raises ε], Act ε (σ × ρ) α

/-- With any value to start from, the actions perform one tree, whatever the bus. -/
def PortableBeside {ρ : Type} (x : BesideBuses ρ α) : Prop :=
  ∀ init, Portable fun σ ε _ _ => Act.withLocal init (x σ ε)

namespace PortableBeside

variable {ρ : Type}

theorem pure (a : α) : PortableBeside fun σ ε _ _ => (Pure.pure a : Act ε (σ × ρ) α) :=
  fun init => Portable.pure (a, init)

theorem fail (e : Error) : PortableBeside fun σ ε _ _ => (Act.fail e : Act ε (σ × ρ) α) :=
  fun _ => Portable.fail e

theorem log (m : Message) : PortableBeside fun σ ε _ _ => (Act.log m : Act ε (σ × ρ) Unit) :=
  fun init => (Portable.log m).bind fun _ => Portable.pure ((), init)

/-- A change of the value. -/
theorem fill (f : ρ → ρ) :
    PortableBeside fun σ ε _ _ => (Act.modify fun (bus, own) => (bus, f own) : Act ε (σ × ρ) Unit) :=
  fun init => Portable.pure ((), f init)

theorem onBus {x : OnBuses α} (h : Portable x) :
    PortableBeside fun σ ε _ _ => ((x σ ε).within Transfer.busPart : Act ε (σ × ρ) α) := by
  intro init
  simp only [withLocal_onBus]
  exact h.bind fun a => Portable.pure (a, init)

theorem bind {x : BesideBuses ρ α} {f : α → BesideBuses ρ β} (hx : PortableBeside x)
    (hf : ∀ a, PortableBeside (f a)) :
    PortableBeside fun σ ε _ _ => x σ ε >>= fun a => f a σ ε := by
  intro init
  simp only [withLocal_bind]
  exact (hx init).bind fun made => hf made.1 made.2

end PortableBeside

end Coprocessor
