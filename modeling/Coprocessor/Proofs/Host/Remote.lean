import Coprocessor.Kernel.CosineTransform
import Coprocessor.Simulation.Link
import Coprocessor.Proofs.Host.Session

/-!
A host that reaches a mailbox through remote memory. `Reaches` says what the memory is assumed to
do: an access at the address of a register becomes an access to that register, and it may get lost
or stay unheard on the way. Then a session over the memory is the session on the mailbox itself,
with the same accesses lost, up to the first register that lies past the last address.
-/
namespace Coprocessor

open Act

variable {ρ σ ε α β : Type}

/-! ## Addresses -/

namespace Register

/-- In a block at `base`, the register lies on an address. -/
def Fits (base : UInt32) (r : Register) : Prop :=
  base.toNat + r.offset.toNat < 0x100000000

theorem fits_iff {base : UInt32} {r : Register} :
    r.Fits base ↔ r.address base = .ok (base + r.offset) := by
  rw [address, checkedAdd_eq_ok_iff]
  exact ⟨fun fits => ⟨fits, rfl⟩, And.left⟩

theorem address_of_not_fits {base : UInt32} {r : Register} (h : ¬ r.Fits base) :
    r.address base = .error .overflow :=
  checkedAdd_eq_error (Nat.not_lt.mp h)

/-- Where the register with the highest offset lies on an address, all of them do. -/
theorem fits_of_last {base : UInt32} (h : base.toNat + 0x1C < 0x100000000) (r : Register) :
    r.Fits base := by
  have within : r.offset.toNat ≤ 0x1C := by cases r <;> decide
  exact Nat.lt_of_le_of_lt (Nat.add_le_add_left within _) h

/-- Two registers of a block never share an address. -/
theorem eq_of_address_eq {base addr : UInt32} {r r' : Register} (h : r.address base = .ok addr)
    (h' : r'.address base = .ok addr) : r = r' := by
  obtain ⟨_, sum⟩ := checkedAdd_eq_ok_iff.mp h
  obtain ⟨_, sum'⟩ := checkedAdd_eq_ok_iff.mp h'
  exact offset_injective ((UInt32.add_right_inj base).mp (sum.trans sum'.symm))

theorem at?_address {base addr : UInt32} {r : Register} (h : r.address base = .ok addr) :
    Register.at? base addr = some r := by
  obtain ⟨fits, sum⟩ := checkedAdd_eq_ok_iff.mp h
  have whole (s : Register) :
      (base.toNat + s.offset.toNat == addr.toNat) = decide (s = r) := by
    rw [← sum, UInt32.toNat_add, Nat.mod_eq_of_lt fits, beq_eq_decide, decide_eq_decide,
      Nat.add_left_cancel_iff, UInt32.toNat_inj]
    exact ⟨offset_injective, congrArg offset⟩
  simp only [at?, whole]
  cases r <;> rfl

end Register

/-! ## Accesses on their way -/

/-- What becomes of an access on its way to a mailbox. -/
inductive Passage where
  /-- It is performed, and its answer comes back. -/
  | through
  /-- It is performed, and an error comes back in place of its answer. -/
  | unheard
  /-- It is not performed, and an error comes back. -/
  | lost

/-- An access as it is seen from afar. Every error is an access that did not work. -/
def Passage.apply [Raises ε] : Passage → Act ε σ α → Act Failure σ α
  | through, x => x.mapFailure fun failure => (Raises.toFailure failure).asAccess
  | unheard, x => do
    let _ ← x.mapFailure fun failure => (Raises.toFailure failure).asAccess
    Act.fail .io
  | lost, _ => Act.fail .io

private theorem settled_of_answered [Raises ε] {failure : ε}
    (answered : ∀ e, (.error (Raises.toFailure failure).asAccess : Except Failure β) ≠
      .error (.error e)) :
    settled (.error failure : Except ε α) =
      settled (.error (Raises.toFailure failure).asAccess) := by
  simp only [settled]
  cases cause : Raises.toFailure failure with
  | trap t => rfl
  | error e =>
    rw [cause] at answered
    exact absurd rfl (answered .io)

/-- An access from which no error came back was performed, with that answer. -/
theorem Passage.run_of_answered [Raises ε] {p : Passage} {x : Act ε σ α} {s s' : σ}
    {answer : Except Failure α} (passes : (p.apply x).run s = (answer, s'))
    (answered : ∀ e, answer ≠ .error (.error e)) :
    ∃ own, x.run s = (own, s') ∧ settled own = settled answer := by
  have seen := run_mapFailure (fun failure => (Raises.toFailure failure).asAccess) x s
  rcases performs : x.run s with ⟨own, s₁⟩
  rw [performs] at seen
  cases p with
  | through =>
    obtain ⟨rfl, rfl⟩ := Prod.mk.inj (seen.symm.trans passes)
    refine ⟨own, rfl, ?_⟩
    cases own with
    | ok a => rfl
    | error failure =>
      exact settled_of_answered answered
  | unheard =>
    cases own with
    | ok a =>
      obtain ⟨rfl, -⟩ := Prod.mk.inj ((run_bind_ok seen _).symm.trans passes)
      exact absurd rfl (answered .io)
    | error failure =>
      obtain ⟨rfl, rfl⟩ := Prod.mk.inj ((run_bind_error seen _).symm.trans passes)
      exact ⟨_, rfl, settled_of_answered answered⟩
  | lost =>
    obtain ⟨rfl, -⟩ := Prod.mk.inj passes
    exact absurd rfl (answered .io)

/-- An access that came back with an answer was performed, with that answer. -/
theorem Passage.run_of_ok [Raises ε] {p : Passage} {x : Act ε σ α} {s s' : σ} {a : α}
    (passes : (p.apply x).run s = (.ok a, s')) : x.run s = (.ok a, s') := by
  obtain ⟨own, performs, same⟩ := run_of_answered passes nofun
  cases own with
  | ok b =>
    cases same
    exact performs
  | error failure =>
    simp only [settled] at same
    cases cause : Raises.toFailure failure <;> rw [cause] at same <;> cases same

/-- An access that passes in one way and then in another has passed in one of the ways. -/
theorem Passage.exists_apply [Raises ε] (p : Passage) {q : Passage} {x : Act ε σ α}
    {y : Act Failure ρ β} {f : α → β} {answer : Except Failure α} {m m' : ρ} {s s' : σ}
    (passes : (q.apply x).run s = (answer, s'))
    (performs : (y.mapFailure Failure.asAccess).run m = (answer.map f, m'))
    {Behind : ρ → σ → Prop} (behind : Behind m s) (behind' : Behind m' s') :
    ∃ (p' : Passage) (answer : Except Failure α) (m' : ρ) (s' : σ),
      (p'.apply x).run s = (answer, s') ∧ Behind m' s' ∧
        (p.apply y).run m = (answer.map f, m') := by
  -- an error that came back the one way comes back the other way too, so only an answer can
  -- still go unheard
  cases p with
  | through => exact ⟨q, answer, m', s', passes, behind', performs⟩
  | lost => exact ⟨.lost, .error (.error .io), m, s, rfl, behind, rfl⟩
  | unheard =>
    cases answer with
    | error failure => exact ⟨q, _, m', s', passes, behind', run_bind_error performs _⟩
    | ok a =>
      refine ⟨.unheard, .error (.error .io), m', s', ?_, behind', run_bind_ok performs _⟩
      have near := run_mapFailure (fun failure => (Raises.toFailure failure).asAccess) x s
      rw [run_of_ok passes] at near
      exact run_bind_ok near _

/-- What passes has no errors but those of a remote device. -/
theorem Passage.mapError_apply (p : Passage) (y : Act Failure ρ β) (m : ρ) :
    ((p.apply y).run m).1.mapError Failure.asAccess = ((p.apply y).run m).1 := by
  have again (failure : Failure) : failure.asAccess.asAccess = failure.asAccess := by
    cases failure <;> rfl
  have seen := run_mapFailure Failure.asAccess y m
  cases p with
  | lost => rfl
  | through =>
    rw [show (through.apply y).run m = _ from seen]
    cases (y.run m).1 with
    | ok b => rfl
    | error failure => exact congrArg Except.error (again failure)
  | unheard =>
    rcases performs : y.run m with ⟨failure | b, m'⟩
    · rw [performs] at seen
      rw [show (unheard.apply y).run m = _ from run_bind_error seen _]
      exact congrArg Except.error (again failure)
    · rw [performs] at seen
      rw [show (unheard.apply y).run m = _ from run_bind_ok seen _]
      rfl

/-- A mailbox with what becomes of the next accesses to it. Those that follow get through. -/
structure Distant (σ : Type) where
  bus : σ
  passages : List Passage

namespace Distant

/-- An access that passes as the next one does. -/
def access [Raises ε] (x : Act ε σ α) : Act Failure (Distant σ) α
  | ⟨bus, passages⟩ =>
    match (passages.headD .through).apply x bus with
    | ⟨result, bus, events⟩ => ⟨result, ⟨bus, passages.tail⟩, events⟩

theorem run_access [Raises ε] (x : Act ε σ α) (s : Distant σ) :
    (access x).run s =
      ((((s.passages.headD .through).apply x).run s.bus).1,
        ⟨(((s.passages.headD .through).apply x).run s.bus).2, s.passages.tail⟩) :=
  rfl

theorem run_mapFailure_access {x : Act Failure σ α} {s : Distant σ} {answer : Except Failure α}
    {bus : σ} (h : ((s.passages.headD .through).apply x).run s.bus = (answer, bus)) :
    ((access x).mapFailure Failure.asAccess).run s = (answer, ⟨bus, s.passages.tail⟩) := by
  have again := Passage.mapError_apply (s.passages.headD .through) x s.bus
  rw [h] at again
  rw [run_mapFailure, run_access, h]
  exact Prod.ext again rfl

instance [RegisterBus σ ε] [Raises ε] : RegisterBus (Distant σ) Failure where
  read r := access (RegisterBus.read r)
  write r value := access (RegisterBus.write r value)
  barrier := pure ()
  pause := Act.emit .pause

/-- A memory on the way to which accesses may get lost. -/
instance [RemoteMemory ρ] : RemoteMemory (Distant ρ) where
  read addr := access (RemoteMemory.read addr)
  write addr bytes := access (RemoteMemory.write addr bytes)

theorem run_call_of_answered [RegisterBus σ ε] [Raises ε] {call : RegisterCall β} {s s' : Distant σ}
    {answer : Except Failure β}
    (passes : (call.run : Act Failure (Distant σ) β).run s = (answer, s'))
    (answered : ∀ e, answer ≠ .error (.error e)) :
    ∃ own, (call.run : Act ε σ β).run s.bus = (own, s'.bus) ∧ settled own = settled answer := by
  have accesses : (call.run : Act Failure (Distant σ) β).run s = (access call.run).run s := by
    cases call <;> rfl
  obtain ⟨rfl, rfl⟩ := Prod.mk.inj (((run_access _ s).symm.trans accesses.symm).trans passes)
  exact Passage.run_of_answered rfl answered

end Distant

/-- The memory performs, at the address of each register of a block at `base`, that access on the
mailbox behind it: four little-endian bytes are the register's word. `Behind` says which mailbox
state is behind a state of the memory. -/
structure Reaches [RemoteMemory ρ] [RegisterBus σ ε] [Raises ε] (base : UInt32)
    (Behind : ρ → σ → Prop) : Prop where
  read : ∀ {m s} (r : Register) {addr}, Behind m s → r.address base = .ok addr →
    ∃ (p : Passage) (answer : Except Failure UInt32) (m' : ρ) (s' : σ),
      (p.apply (RegisterBus.read r)).run s = (answer, s') ∧ Behind m' s' ∧
        ((RemoteMemory.read addr).mapFailure Failure.asAccess).run m =
          (answer.map Word.toBytes, m')
  write : ∀ {m s} (r : Register) (value : UInt32) {addr}, Behind m s → r.address base = .ok addr →
    ∃ (p : Passage) (answer : Except Failure Unit) (m' : ρ) (s' : σ),
      (p.apply (RegisterBus.write r value)).run s = (answer, s') ∧ Behind m' s' ∧
        ((RemoteMemory.write addr (Word.toBytes value)).mapFailure Failure.asAccess).run m =
          (answer, m')

/-- A memory that performs the accesses does so also where some of them get lost on the way to
it. -/
theorem Reaches.distant [RemoteMemory ρ] [RegisterBus σ ε] [Raises ε] {base : UInt32}
    {Behind : ρ → σ → Prop} (reaches : Reaches base Behind) :
    Reaches base fun (m : Distant ρ) (s : σ) => Behind m.bus s where
  read := by
    rintro ⟨m, passages⟩ s r addr behind h
    obtain ⟨q, answer, m', s', passes, behind', performs⟩ := reaches.read r behind h
    obtain ⟨p, answer, m', s', passes, behind', performs⟩ :=
      (passages.headD .through).exists_apply passes performs behind behind'
    refine ⟨p, answer, ⟨m', passages.tail⟩, s', passes, behind', ?_⟩
    exact Distant.run_mapFailure_access performs
  write := by
    rintro ⟨m, passages⟩ s r value addr behind h
    obtain ⟨q, answer, m', s', passes, behind', performs⟩ := reaches.write r value behind h
    obtain ⟨p, answer, m', s', passes, behind', performs⟩ :=
      (passages.headD .through).exists_apply passes (f := id)
        (performs.trans (by cases answer <;> rfl)) behind behind'
    refine ⟨p, answer, ⟨m', passages.tail⟩, s', passes, behind', ?_⟩
    rw [show answer.map id = answer by cases answer <;> rfl] at performs
    exact Distant.run_mapFailure_access performs

/-! ## One access -/

namespace Remote

theorem run_within_memory {x : Act ε ρ α} {m m' : ρ} {r : Except ε α} (h : x.run m = (r, m'))
    (base : UInt32) : (x.within memoryPart).run ⟨m, base⟩ = (r, ⟨m', base⟩) := by
  rw [run_within]
  simp only [memoryPart, h]

theorem run_addressOf (r : Register) (m : ρ) (base : UInt32) :
    (addressOf r : Act Failure (Remote ρ) UInt32).run ⟨m, base⟩ =
      ((r.address base).mapError .trap, ⟨m, base⟩) := by
  rw [addressOf, run_gets_bind, run_ofExcept]

variable [RemoteMemory ρ] {base : UInt32}

/-- Past the last address nothing is accessed. -/
theorem run_call_of_not_fits {call : RegisterCall β} (h : ¬ call.register.Fits base) (m : ρ) :
    (call.run : Act Failure (Remote ρ) β).run ⟨m, base⟩ =
      (.error (.trap .overflow), ⟨m, base⟩) := by
  have stops := run_addressOf call.register m base
  rw [Register.address_of_not_fits h] at stops
  cases call with
  | read r => exact run_bind_error stops _
  | write r value => exact run_bind_error stops _

variable [RegisterBus σ ε] [Raises ε] {Behind : ρ → σ → Prop}

/-- On an address, an access through the memory is the access on the mailbox, passed in some
way. -/
theorem run_call_of_fits (reaches : Reaches base Behind) {call : RegisterCall β}
    (h : call.register.Fits base) {m : ρ} {s : σ} (behind : Behind m s) :
    ∃ (p : Passage) (answer : Except Failure β) (m' : ρ) (s' : σ), Behind m' s' ∧
      (∀ later, (call.run : Act Failure (Distant σ) β).run ⟨s, p :: later⟩ =
        (answer, ⟨s', later⟩)) ∧
      (call.run : Act Failure (Remote ρ) β).run ⟨m, base⟩ = (answer, ⟨m', base⟩) := by
  have found := run_addressOf call.register m base
  rw [Register.fits_iff.mp h] at found
  cases call with
  | read r =>
    obtain ⟨p, answer, m', s', passes, behind', performs⟩ :=
      reaches.read r behind (Register.fits_iff.mp h)
    refine ⟨p, answer, m', s', behind', fun later => ?_, ?_⟩
    · refine (Distant.run_access _ _).trans ?_
      simp only [List.headD_cons, List.tail_cons, passes]
    · refine (run_bind_ok found _).trans ?_
      have landed := run_within_memory performs base
      cases answer with
      | error e => exact run_bind_error landed _
      | ok value =>
        refine (run_bind_ok landed _).trans ?_
        rw [run_pure, Word.ofBytes_toBytes]
  | write r value =>
    obtain ⟨p, answer, m', s', passes, behind', performs⟩ :=
      reaches.write r value behind (Register.fits_iff.mp h)
    refine ⟨p, answer, m', s', behind', fun later => ?_, ?_⟩
    · refine (Distant.run_access _ _).trans ?_
      simp only [List.headD_cons, List.tail_cons, passes]
    · refine (run_bind_ok found _).trans ?_
      exact run_within_memory performs base

end Remote

/-! ## Accesses in a record -/

namespace Transaction

/-- The register of the transaction lies on an address. -/
def Fits (base : UInt32) : Transaction ε → Prop
  | read r _ => r.Fits base
  | write r _ _ => r.Fits base
  | barrier => True

theorem fits_of_last {base : UInt32} (h : base.toNat + 0x1C < 0x100000000) (x : Transaction ε) :
    x.Fits base := by
  cases x with
  | read r answer => exact Register.fits_of_last h r
  | write r value answer => exact Register.fits_of_last h r
  | barrier => trivial

/-- Among transactions that are not all on addresses there is a first that is not. -/
theorem exists_first_past {base : UInt32} {trace : List (Transaction ε)}
    (h : ¬ ∀ x ∈ trace, x.Fits base) :
    ∃ before x after, trace = before ++ x :: after ∧ (∀ y ∈ before, y.Fits base) ∧
      ¬ x.Fits base := by
  induction trace with
  | nil => exact absurd nofun h
  | cons y rest ih =>
    by_cases fits : y.Fits base
    · obtain ⟨before, x, after, rfl, first, past⟩ :=
        ih fun all => h (List.forall_mem_cons.mpr ⟨fits, all⟩)
      exact ⟨y :: before, x, after, rfl, List.forall_mem_cons.mpr ⟨fits, first⟩, past⟩
    · exact ⟨[], y, rest, rfl, nofun, fits⟩

theorem Fits.of_write {base : UInt32} {x : Transaction ε} (h : x.Fits base) {r : Register}
    {value : UInt32} (op : x.operation = .write r value) : r.Fits base := by
  cases x with
  | write r' value' answer =>
    obtain ⟨rfl, -⟩ := Operation.write.inj op
    exact h
  | read r' answer => cases op
  | barrier => cases op

/-- The transaction as it ends where its register lies past the last address. -/
def overflowing : Transaction Failure → Transaction Failure
  | read r _ => .read r (.error (.trap .overflow))
  | write r value _ => .write r value (.error (.trap .overflow))
  | barrier => .barrier

theorem operation_overflowing (x : Transaction Failure) :
    x.overflowing.operation = x.operation := by
  cases x <;> rfl

/-- No error came back. -/
def Answered : Transaction Failure → Prop
  | read _ answer => ∀ e, answer ≠ .error (.error e)
  | write _ _ answer => ∀ e, answer ≠ .error (.error e)
  | barrier => True

/-- The state that an access leaves. -/
def redo [RegisterBus σ ε] (s : σ) : Transaction ε → σ
  | read r _ => ((RegisterBus.read r : Act ε σ UInt32).run s).2
  | write r value _ => ((RegisterBus.write r value : Act ε σ Unit).run s).2
  | barrier => ((RegisterBus.barrier : Act Empty σ Unit).run s).2

/-- The state that accesses leave, one after the other. -/
def replay [RegisterBus σ ε] (s : σ) (trace : List (Transaction ε)) : σ :=
  trace.foldl redo s

end Transaction

namespace RegisterCall

theorem fits_note {base : UInt32} {call : RegisterCall β} {answer : Except ε β} :
    (call.note answer).Fits base ↔ call.register.Fits base := by
  cases call <;> exact Iff.rfl

theorem overflowing_note (call : RegisterCall β) (answer : Except Failure β) :
    (call.note answer).overflowing = call.note (.error (.trap .overflow)) := by
  cases call <;> rfl

theorem answered_note {call : RegisterCall β} {answer : Except Failure β} :
    (call.note answer).Answered ↔ ∀ e, answer ≠ .error (.error e) := by
  cases call <;> exact Iff.rfl

theorem redo_note [RegisterBus σ ε] (call : RegisterCall β) (answer : Except ε β) (s : σ) :
    (call.note answer).redo s = ((call.run : Act ε σ β).run s).2 := by
  cases call <;> rfl

end RegisterCall

/-! ## Programs -/

namespace Program

variable [RegisterBus σ ε] [Raises ε]

/-- Where no error came back, the run is the one on the mailbox itself. -/
theorem Goes.run_near {t : Program α} {s s' : Distant σ} {r : Except Trap α}
    {trace : List (Transaction Failure)} (h : Goes t s r s' trace)
    (answered : ∀ x ∈ trace, x.Answered) : (t.perform : Act Trap σ α).run s.bus = (r, s'.bus) := by
  induction h with
  | done => rfl
  | tell rest ih =>
    rw [perform, run_emit_bind]
    exact ih answered
  | @ask _ call _ _ _ _ answer _ _ _ answers goes rest ih =>
    obtain ⟨own, near, same⟩ := Distant.run_call_of_answered answers
      (RegisterCall.answered_note.mp (answered _ (.head _)))
    rw [run_ask near, same, goes]
    exact ih fun x hx => answered x (.tail _ hx)
  | @trap _ call _ _ _ answer _ answers traps =>
    obtain ⟨own, near, same⟩ := Distant.run_call_of_answered answers
      (RegisterCall.answered_note.mp (answered _ (.head _)))
    rw [run_ask near, same, traps]

/-- A run that asks for an access begins with it. -/
theorem Goes.of_ask {call : RegisterCall β} {next : Except Error β → Program α} {s s' : σ}
    {r : Except Trap α} {trace : List (Transaction ε)} (h : Goes (.ask call next) s r s' trace) :
    ∃ answer rest, trace = call.note answer :: rest := by
  cases h with
  | ask answers goes rest => exact ⟨_, _, rfl⟩
  | trap answers traps => exact ⟨_, _, rfl⟩

/-- What is shown of a whole run, and of one that is cut short before its first access past the
last address. -/
theorem exists_goes_remote [RemoteMemory ρ] {base : UInt32} {Behind : ρ → σ → Prop}
    (reaches : Reaches base Behind) (t : Program α) {m : ρ} {s : σ} (behind : Behind m s) :
    ∃ passages r s' trace, Goes t (⟨s, passages⟩ : Distant σ) r s' trace ∧
      ((∀ x ∈ trace, x.Fits base) →
        ∃ m', Behind m' s'.bus ∧ Goes t (⟨m, base⟩ : Remote ρ) r ⟨m', base⟩ trace) ∧
      ∀ before x after, trace = before ++ x :: after → (∀ y ∈ before, y.Fits base) →
        ¬ x.Fits base →
          ∃ m', Behind m' (Transaction.replay (⟨s, passages⟩ : Distant σ) before).bus ∧
            Goes t (⟨m, base⟩ : Remote ρ) (.error .overflow) ⟨m', base⟩
              (before ++ [x.overflowing]) := by
  induction t generalizing m s with
  | done a =>
    refine ⟨[], .ok a, ⟨s, []⟩, [], .done, fun _ => ⟨m, behind, .done⟩, ?_⟩
    intro before x after split
    exact absurd split.symm (List.append_ne_nil_of_right_ne_nil _ (List.cons_ne_nil _ _))
  | tell event next ih =>
    obtain ⟨passages, r, s', trace, goes, whole, cut⟩ := ih behind
    refine ⟨passages, r, s', trace, .tell goes, fun fits => ?_, ?_⟩
    · obtain ⟨m', behind', far⟩ := whole fits
      exact ⟨m', behind', .tell far⟩
    · intro before x after split fits past
      obtain ⟨m', behind', far⟩ := cut before x after split fits past
      exact ⟨m', behind', .tell far⟩
  | ask call next ih =>
    by_cases fits : call.register.Fits base
    · obtain ⟨p, answer, m₁, s₁, behind₁, near, far⟩ := Remote.run_call_of_fits reaches fits behind
      -- the first access is on an address, so a cut lies after it
      have first {x : Transaction Failure} {after rest : List (Transaction Failure)}
          (split : call.note answer :: rest = x :: after) : x.Fits base := by
        obtain ⟨rfl, -⟩ := List.cons.inj split
        exact RegisterCall.fits_note.mpr fits
      cases tries : settled answer with
      | error trap =>
        refine ⟨[p], .error trap, ⟨s₁, []⟩, [call.note answer], .trap (near []) tries,
          fun _ => ⟨m₁, behind₁, .trap far tries⟩, ?_⟩
        intro before x after split fit past
        cases before with
        | nil => exact absurd (first split) past
        | cons y before => simp at split
      | ok tried =>
        obtain ⟨passages, r, s', trace, goes, whole, cut⟩ := ih tried behind₁
        refine ⟨p :: passages, r, s', call.note answer :: trace, .ask (near passages) tries goes,
          fun fit => ?_, ?_⟩
        · obtain ⟨m', behind', later⟩ := whole fun x hx => fit x (.tail _ hx)
          exact ⟨m', behind', .ask far tries later⟩
        · intro before x after split fit past
          cases before with
          | nil => exact absurd (first split) past
          | cons y before =>
            obtain ⟨rfl, later⟩ := List.cons.inj split
            obtain ⟨m', behind', stops⟩ :=
              cut before x after later (fun z hz => fit z (.tail _ hz)) past
            refine ⟨m', ?_, .ask far tries stops⟩
            rw [Transaction.replay, List.foldl_cons, RegisterCall.redo_note, near passages]
            exact behind'
    · obtain ⟨r, s', trace, goes⟩ := exists_goes (.ask call next) (⟨s, []⟩ : Distant σ)
      obtain ⟨answer, rest, rfl⟩ := goes.of_ask
      have overflows := Remote.run_call_of_not_fits fits m
      refine ⟨[], r, s', _, goes, fun fit => ?_, ?_⟩
      · exact absurd (RegisterCall.fits_note.mp (fit _ (.head _))) fits
      · intro before x after split fit past
        cases before with
        | nil =>
          obtain ⟨rfl, -⟩ := List.cons.inj split
          refine ⟨m, behind, ?_⟩
          rw [List.nil_append, RegisterCall.overflowing_note]
          exact .trap overflows rfl
        | cons y before =>
          obtain ⟨rfl, -⟩ := List.cons.inj split
          exact absurd (RegisterCall.fits_note.mp (fit _ (.head _))) fits

end Program

/-! ## Probes -/

namespace Probe

variable {base addr : UInt32} {r : Register}

theorem run_registerAt (h : r.address base = .ok addr) (l : Link) :
    (registerAt addr).run ⟨l, base⟩ = (.ok r, ⟨l, base⟩) := by
  rw [registerAt, run_gets_bind, Register.at?_address h, run_pure]

theorem run_read (h : r.address base = .ok addr) (l : Link) :
    (RemoteMemory.read addr : Act Failure Probe _).run ⟨l, base⟩ =
      (((RegisterBus.read r : Act Failure Link _).run l).1.map Word.toBytes,
        ⟨((RegisterBus.read r : Act Failure Link _).run l).2, base⟩) := by
  refine (run_emit_bind _ _ _).trans ((run_bind_ok (run_registerAt h l) _).trans ?_)
  rw [run_bind, run_within]
  dsimp only [linkPart]
  cases ((RegisterBus.read r : Act Failure Link _).run l).1 with
  | error e => rfl
  | ok value => rfl

theorem run_write (h : r.address base = .ok addr) (value : UInt32) (l : Link) :
    (RemoteMemory.write addr (Word.toBytes value) : Act Failure Probe Unit).run ⟨l, base⟩ =
      (((RegisterBus.write r value : Act Failure Link Unit).run l).1,
        ⟨((RegisterBus.write r value : Act Failure Link Unit).run l).2, base⟩) := by
  refine (run_emit_bind _ _ _).trans ((run_bind_ok (run_registerAt h l) _).trans ?_)
  rw [Word.ofBytes_toBytes]
  rfl

/-- A probe on a link performs every access to a register of the link. -/
theorem reaches (base : UInt32) : Reaches base fun (p : Probe) (l : Link) => p = ⟨l, base⟩ where
  read := by
    rintro _ l r addr rfl h
    refine ⟨.through, _, ⟨_, base⟩, _, run_mapFailure _ _ _, rfl, ?_⟩
    rw [run_mapFailure, run_read h]
    cases ((RegisterBus.read r : Act Failure Link _).run l).1 with
    | error e => rfl
    | ok value => rfl
  write := by
    rintro _ l r value addr rfl h
    refine ⟨.through, _, ⟨_, base⟩, _, run_mapFailure _ _ _, rfl, ?_⟩
    rw [run_mapFailure, run_write h]
    rfl

end Probe

/-- A link to a core with a page of storage. The core answers, and completes an abort, at the first
poll. -/
def Link.onePage : Link where
  near := .clear (.new Endpoint.defaultDepth)
  far := .new (.new Endpoint.defaultDepth) .idle
    { storage := .new 0x60000000 32 0
      window := .default
      transform := CosineTransform.transform
      generator := Attractor.generate Attractor.defaultIterations
      arena := ⟨Arena.defaultBase, #[]⟩ }
  replies := none
  replyAfter := some 0
  abortAfter := some 0
  awaiting := none
  aborting := none

/-! ## Sessions over remote memory -/

namespace ClientCall

/-- From `s` the session comes to `r` and leaves `s'`, with these accesses on the way. -/
def Ends [RegisterBus σ ε] [Raises ε] (calls : List ClientCall) (s : σ)
    (r : Except Trap (List (Except Error Reply))) (s' : σ) (trace : List (Transaction ε)) : Prop :=
  (session calls : Act Trap σ _).run s = (r, s') ∧
    (session calls : Act Trap (Recorded σ ε) _).run (.fresh s) = (r, ⟨s', trace⟩)

/-- A session over remote memory is the session on the mailbox behind it, where some accesses may
be lost or unheard. If no error comes back from any access, none of this shows. The first access to
a register past the last address stops the session, and those before it have happened. -/
theorem ends_remote [RemoteMemory ρ] [RegisterBus σ ε] [Raises ε] [LawfulRaises ε] {base : UInt32}
    {Behind : ρ → σ → Prop} (reaches : Reaches base Behind) (calls : List ClientCall) {m : ρ}
    {s : σ} (behind : Behind m s) :
    (∀ (r r' : Register) (addr : UInt32), r.address base = .ok addr → r'.address base = .ok addr →
      r = r') ∧
    ∃ passages r s' trace, Ends calls (⟨s, passages⟩ : Distant σ) r s' trace ∧
      ((∀ x ∈ trace, x.Answered) → (session calls : Act Trap σ _).run s = (r, s'.bus)) ∧
      ((base.toNat + 0x1C < 0x100000000 ∨ ∀ x ∈ trace, x.Fits base) →
        ∃ m', Behind m' s'.bus ∧ Ends calls (⟨m, base⟩ : Remote ρ) r ⟨m', base⟩ trace) ∧
      ∀ before x after, trace = before ++ x :: after → (∀ y ∈ before, y.Fits base) →
        ¬ x.Fits base →
          ∃ m', Behind m' (Transaction.replay (⟨s, passages⟩ : Distant σ) before).bus ∧
            Ends calls (⟨m, base⟩ : Remote ρ) (.error .overflow) ⟨m', base⟩
              (before ++ [x.overflowing]) := by
  obtain ⟨t, performs⟩ := exists_program_session calls
  -- a run of the tree is a session with its record
  have ends {τ ε' : Type} [RegisterBus τ ε'] [Raises ε'] [LawfulRaises ε'] {s s' : τ}
      {r : Except Trap (List (Except Error Reply))} {trace : List (Transaction ε')}
      (goes : t.Goes s r s' trace) : Ends calls s r s' trace := by
    refine ⟨?_, ?_⟩
    · rw [performs τ ε']
      exact goes.run
    · rw [performs (Recorded τ ε') ε']
      exact goes.run_recorded []
  obtain ⟨passages, r, s', trace, goes, whole, cut⟩ := Program.exists_goes_remote reaches t behind
  refine ⟨fun r r' addr h h' => Register.eq_of_address_eq h h', passages, r, s', trace, ends goes,
    fun answered => ?_, fun fits => ?_, fun before x after split fits past => ?_⟩
  · rw [performs σ ε]
    exact goes.run_near answered
  · obtain ⟨m', behind', far⟩ :=
      whole (fits.elim (fun last x _ => Transaction.fits_of_last last x) id)
    exact ⟨m', behind', ends far⟩
  · obtain ⟨m', behind', far⟩ := cut before x after split fits past
    exact ⟨m', behind', ends far⟩

/-- A knock with two arguments, then an abort. -/
def knockThenAbort : List ClientCall :=
  [.request .default { Packet.ofRequest .knock with data := Packet.buffer [5, 6], argLen := 2 },
    .abort .default]

/-- A probe whose block of registers is at `base`, as is its target's. -/
def probeAt (base : UInt32) : Remote Probe :=
  ⟨⟨Link.onePage, base⟩, base⟩

/-- A probe on the way to which the second access gets lost. -/
def losingProbe : Remote (Distant Probe) :=
  ⟨⟨(probeAt 0x40013000).memory, [.through, .lost]⟩, 0x40013000⟩

/-- By way of a probe a knock is answered and an abort completed. Where the first word gets lost,
the knock fails and leaves nothing behind. Where the last address lies between the registers of the
block, the words of the knock are written, and its completion is what overflows. -/
theorem ends_remote_knock_abort :
    (∃ passages s' trace,
      Ends knockThenAbort (⟨Link.onePage, passages⟩ : Distant Link)
        (.ok [.ok (.answer (Commands.respond .knock [3])), .ok .aborted]) s' trace ∧
      Ends knockThenAbort (probeAt 0x40013000)
        (.ok [.ok (.answer (Commands.respond .knock [3])), .ok .aborted])
        ⟨⟨s'.bus, 0x40013000⟩, 0x40013000⟩ trace) ∧
    (∃ passages s' trace rest,
      Ends knockThenAbort (⟨Link.onePage, passages⟩ : Distant Link)
        (.ok [.error .io, .ok .aborted]) s' trace ∧
      Ends knockThenAbort losingProbe (.ok [.error .io, .ok .aborted])
        ⟨⟨⟨s'.bus, 0x40013000⟩, rest⟩, 0x40013000⟩ trace ∧
      s'.bus.near.bus.outbound = []) ∧
    ∃ passages before, ∃ x : Transaction Failure, ¬ x.Fits 0xFFFFFFF0 ∧
      x.operation = .write .done 1 ∧
      (Transaction.replay (⟨Link.onePage, passages⟩ : Distant Link) before).bus.near.bus.outbound =
        [0, 0x20001, 5, 6] ∧
      Ends knockThenAbort (probeAt 0xFFFFFFF0) (.error .overflow)
        ⟨⟨(Transaction.replay (⟨Link.onePage, passages⟩ : Distant Link) before).bus, 0xFFFFFFF0⟩,
          0xFFFFFFF0⟩
        (before ++ [x.overflowing]) := by
  refine ⟨?answered, ?lost, ?past⟩
  case answered =>
    obtain ⟨-, passages, r, s', trace, near, -, whole, -⟩ :=
      ends_remote (Probe.reaches 0x40013000) knockThenAbort
        (rfl : (⟨Link.onePage, 0x40013000⟩ : Probe) = ⟨Link.onePage, 0x40013000⟩)
    obtain ⟨_, rfl, far⟩ := whole (.inl (by decide))
    have answers : ((session knockThenAbort : Act Trap (Remote Probe) _).run
        (probeAt 0x40013000)).1 =
          .ok [.ok (.answer (Commands.respond .knock [3])), .ok .aborted] := by
      decide +kernel
    rw [probeAt, far.1] at answers
    dsimp only at answers
    subst answers
    exact ⟨passages, s', trace, near, far⟩
  case lost =>
    obtain ⟨-, passages, r, s', trace, near, -, whole, -⟩ :=
      ends_remote (Probe.reaches 0x40013000).distant knockThenAbort
        (rfl : losingProbe.memory.bus = ⟨Link.onePage, 0x40013000⟩)
    obtain ⟨⟨_, rest⟩, rfl, far⟩ := whole (.inl (by decide))
    have answers : ((session knockThenAbort : Act Trap (Remote (Distant Probe)) _).run
        losingProbe).1 = .ok [.error .io, .ok .aborted] := by
      decide +kernel
    have nothing : ((session knockThenAbort : Act Trap (Remote (Distant Probe)) _).run
        losingProbe).2.memory.bus.link.near.bus.outbound = [] := by
      decide +kernel
    rw [show losingProbe = ⟨losingProbe.memory, 0x40013000⟩ from rfl, far.1] at answers nothing
    dsimp only at answers
    subst answers
    exact ⟨passages, s', trace, rest, near, far, nothing⟩
  case past =>
    obtain ⟨-, passages, r, s', trace, near, -, whole, cut⟩ :=
      ends_remote (Probe.reaches 0xFFFFFFF0) knockThenAbort
        (rfl : (⟨Link.onePage, 0xFFFFFFF0⟩ : Probe) = ⟨Link.onePage, 0xFFFFFFF0⟩)
    have asks : ((session knockThenAbort : Act Trap (Recorded (Remote Probe) Failure) _).run
        (.fresh (probeAt 0xFFFFFFF0))).2.trace.map Transaction.operation =
          [.read .status, .write .wdata 0, .read .status, .write .wdata 0x20001, .read .status,
            .write .wdata 5, .read .status, .write .wdata 6, .write .done 1] := by
      decide +kernel
    have written : ((session knockThenAbort : Act Trap (Remote Probe) _).run
        (probeAt 0xFFFFFFF0)).2.memory.link.near.bus.outbound = [0, 0x20001, 5, 6] := by
      decide +kernel
    -- the completion is among the accesses and does not fit, so they are cut short
    have past : ¬ ∀ x ∈ trace, x.Fits 0xFFFFFFF0 := by
      intro fits
      obtain ⟨_, rfl, far⟩ := whole (.inr fits)
      rw [probeAt, far.2] at asks
      have completes : Operation.write .done 1 ∈ trace.map Transaction.operation := by
        rw [asks]
        decide
      obtain ⟨x, mem, op⟩ := List.mem_map.mp completes
      exact absurd ((fits x mem).of_write op) (by unfold Register.Fits; decide)
    obtain ⟨before, x, after, split, fits, stops⟩ := Transaction.exists_first_past past
    obtain ⟨_, rfl, far⟩ := cut before x after split fits stops
    rw [probeAt, far.2] at asks
    rw [probeAt, far.1] at written
    refine ⟨passages, before, x, stops, ?_, written, far⟩
    have last := congrArg List.getLast? asks
    rw [List.map_append, List.map_singleton, List.getLast?_concat,
      Transaction.operation_overflowing] at last
    exact Option.some.inj last

end ClientCall

end Coprocessor
