import Coprocessor.Proofs.Mailbox.Recorded
import Coprocessor.Proofs.Mailbox.Transfer

/-!
What sending asks of a bus. Before every word it asks for room, after every word it waits until the
word has landed, and after the last one it signals the packet. What the bus answers decides how far
this goes, and never what is asked next.
-/
namespace Coprocessor

open Act

variable {ε : Type} [Raises ε]

/-! ## Plans -/

/-- The failure after which a sender asks for nothing more. -/
def Transaction.stop? : Transaction ε → Option ε
  | .read .status (.ok bits) =>
    if (Status.mk bits).txAvailable then none else some (Raises.raise .channelNotReady)
  | .read _ (.error e) | .write _ _ (.error e) => some e
  | .read _ (.ok _) | .write _ _ (.ok _) | .barrier => none

/-- A trace that follows a plan up to the first transaction that stops it, or to its end. -/
inductive Follows : List Operation → List (Transaction ε) → Option ε → Prop
  | done : Follows [] [] none
  | stop {t : Transaction ε} {e : ε} {later : List Operation} (stops : t.stop? = some e) :
      Follows (t.operation :: later) [t] (some e)
  | next {t : Transaction ε} {plan : List Operation} {trace : List (Transaction ε)}
      {stopped : Option ε} (goes : t.stop? = none) (rest : Follows plan trace stopped) :
      Follows (t.operation :: plan) (t :: trace) stopped

namespace Follows

theorem append {plan plan' : List Operation} {trace trace' : List (Transaction ε)}
    {outcome stopped : Option ε} (first : Follows plan trace outcome) (whole : outcome = none)
    (rest : Follows plan' trace' stopped) : Follows (plan ++ plan') (trace ++ trace') stopped := by
  induction first with
  | done => exact rest
  | stop stops => cases whole
  | next goes _ ih => exact next goes (ih whole)

/-- What comes after a stop is not reached. -/
theorem append_later {plan : List Operation} {trace : List (Transaction ε)} {stopped : Option ε}
    (h : Follows plan trace stopped) (broken : stopped ≠ none) (later : List Operation) :
    Follows (plan ++ later) trace stopped := by
  induction h with
  | done => exact absurd rfl broken
  | stop stops => exact stop stops
  | next goes _ ih => exact next goes (ih broken)

theorem operations_isPrefix {plan : List Operation} {trace : List (Transaction ε)}
    {stopped : Option ε} (h : Follows plan trace stopped) :
    trace.map Transaction.operation <+: plan := by
  induction h with
  | done => exact List.prefix_rfl
  | stop stops => exact ⟨_, rfl⟩
  | next goes _ ih => exact (List.cons_prefix_cons).mpr ⟨rfl, ih⟩

/-- A plan is carried out where nothing stops it. -/
theorem whole {plan : List Operation} {trace : List (Transaction ε)} {stopped : Option ε}
    (h : Follows plan trace stopped) (unstopped : stopped = none) :
    trace.map Transaction.operation = plan ∧ ∀ t ∈ trace, t.stop? = none := by
  induction h with
  | done => exact ⟨rfl, nofun⟩
  | stop stops => cases unstopped
  | @next first _ _ _ goes _ ih =>
    obtain ⟨operations, go⟩ := ih unstopped
    refine ⟨congrArg (first.operation :: ·) operations, ?_⟩
    intro t ht
    rcases List.mem_cons.mp ht with rfl | later
    · exact goes
    · exact go t later

/-- A plan is left at the first transaction that stops it, and with the failure of that one. -/
theorem broken {plan : List Operation} {trace : List (Transaction ε)} {stopped : Option ε} {e : ε}
    (h : Follows plan trace stopped) (failed : stopped = some e) :
    ∃ before last, trace = before ++ [last] ∧ last.stop? = some e ∧
      ∀ t ∈ before, t.stop? = none := by
  induction h with
  | done => cases failed
  | stop stops =>
    cases failed
    exact ⟨[], _, rfl, stops, nofun⟩
  | @next first _ _ _ goes _ ih =>
    obtain ⟨before, last, rfl, stops, go⟩ := ih failed
    refine ⟨first :: before, last, rfl, stops, ?_⟩
    intro t ht
    rcases List.mem_cons.mp ht with rfl | later
    · exact goes
    · exact go t later

/-- A barrier stops nothing, so a plan that ends in one is left before its end or not at all. -/
theorem whole_iff {plan : List Operation} {trace : List (Transaction ε)} {stopped : Option ε}
    (h : Follows (plan ++ [.barrier]) trace stopped) :
    trace.map Transaction.operation = plan ++ [.barrier] ↔ stopped = none := by
  refine ⟨fun all => ?_, fun unstopped => (h.whole unstopped).1⟩
  cases failed : stopped with
  | none => rfl
  | some e =>
    obtain ⟨before, last, rfl, stops, -⟩ := h.broken failed
    rw [List.map_append] at all
    obtain ⟨-, fenced⟩ := List.append_inj' all rfl
    cases last with
    | barrier => cases stops
    | read r answer => cases fenced
    | write r value answer => cases fenced

end Follows

/-- The failure of a result. -/
def failure? {α : Type} : Except ε α → Option ε
  | .ok _ => none
  | .error e => some e

section Performing

variable {σ : Type}

/-- On every bus the action follows the plan, and ends where that ends. -/
def Performs {α : Type} (plan : List Operation) (x : Act ε σ α) (y : Act ε (Recorded σ ε) α) :
    Prop :=
  Shows Recording.ofBus x y fun trace r => Follows plan trace (failure? r)

namespace Performs

theorem pure {α : Type} (a : α) :
    Performs [] (Pure.pure a : Act ε σ α) (Pure.pure a : Act ε (Recorded σ ε) α) :=
  Shows.pure .done

theorem bind {α β : Type} {plan plan' : List Operation} {x : Act ε σ α}
    {y : Act ε (Recorded σ ε) α} {f : α → Act ε σ β} {g : α → Act ε (Recorded σ ε) β}
    (hx : Performs plan x y) (hf : ∀ a, Performs plan' (f a) (g a)) :
    Performs (plan ++ plan') (x >>= f) (y >>= g) := by
  refine Shows.bind hx hf ?_ ?_
  · intro added e failed
    exact Follows.append_later failed nofun plan'
  · intro first a rest r passed follows
    exact Follows.append passed rfl follows

theorem write [RegisterBus σ ε] (r : Register) (value : UInt32) :
    Performs [.write r value] (RegisterBus.write r value : Act ε σ Unit)
      (RegisterBus.write r value) := by
  refine (Shows.write r value).mono ?_
  rintro added answer rfl
  cases answer with
  | ok u => exact .next (t := .write r value (.ok u)) rfl .done
  | error e => exact .stop (t := .write r value (.error e)) rfl

theorem barrier [RegisterBus σ ε] :
    Performs [.barrier] (Mailbox.barrier : Act ε σ Unit) Mailbox.barrier := by
  refine Shows.barrier.mono ?_
  rintro added r ⟨rfl, rfl⟩
  exact .next (t := .barrier) rfl .done

end Performs

end Performing

/-! ## Sending -/

section Sending

variable {σ : Type} [RegisterBus σ ε]

/-- What sending a word asks of the bus. -/
def wordPlan (word : UInt32) : List Operation :=
  [.read .status, .write .wdata word, .barrier]

/-- What signalling a packet asks of the bus. -/
def signalPlan : List Operation :=
  [.barrier, .write .done 1, .barrier]

/-- What sending a packet asks of the bus. -/
def sendPlan (p : Packet) : List Operation :=
  p.wire.flatMap wordPlan ++ signalPlan

/-- The last thing that is asked is a barrier, which cannot fail. -/
theorem sendPlan_fenced (p : Packet) :
    sendPlan p = (p.wire.flatMap wordPlan ++ [.barrier, .write .done 1]) ++ [.barrier] := by
  simp [sendPlan, signalPlan]

theorem Mailbox.performs_writeWord (word : UInt32) :
    Performs (wordPlan word) (writeWord word : Act ε σ Unit) (writeWord word) := by
  have lands : Performs [.write .wdata word, .barrier]
      (do RegisterBus.write .wdata word; barrier; Act.log (.wordWritten word) : Act ε σ Unit)
      (do RegisterBus.write .wdata word; barrier; Act.log (.wordWritten word)) :=
    (Performs.write _ _).bind fun _ => Performs.barrier.bind fun _ => Shows.log _ .done
  refine Shows.canWrite.bind (U := fun ready trace r =>
    (ready = true → Follows [.write .wdata word, .barrier] trace (failure? r)) ∧
    (ready = false → trace = [] ∧ r = .error (Raises.raise .channelNotReady))) ?_ ?_ ?_
  · intro ready
    cases ready with
    | true => exact lands.mono fun trace r follows => ⟨fun _ => follows, nofun⟩
    | false => exact Shows.fail ⟨nofun, fun _ => ⟨rfl, rfl⟩⟩
  · rintro trace e ⟨answer, rfl, failed⟩
    cases answer with
    | ok bits => cases failed
    | error e' =>
      cases failed
      exact .stop (t := .read .status (.error e)) rfl
  · rintro first ready rest r ⟨answer, rfl, shown⟩ ⟨go, refused⟩
    cases answer with
    | error e => cases shown
    | ok bits =>
      obtain rfl : ready = (Status.mk bits).txAvailable := Except.ok.inj shown
      cases room : (Status.mk bits).txAvailable with
      | true => exact .next (t := .read .status (.ok bits)) (if_pos room) (go room)
      | false =>
        obtain ⟨rfl, rfl⟩ := refused room
        have busy : ¬ (Status.mk bits).txAvailable = true := by simp [room]
        exact .stop (t := .read .status (.ok bits)) (if_neg busy)

theorem Mailbox.performs_completePacket :
    Performs signalPlan (completePacket : Act ε σ Unit) completePacket :=
  Performs.barrier.bind fun _ => (Performs.write _ _).bind fun _ => Performs.barrier

namespace Transfer

theorem performs_writeWords (words : List UInt32) :
    Performs (words.flatMap wordPlan) (writeWords words : Act ε σ Unit) (writeWords words) := by
  induction words with
  | nil => exact Performs.pure ()
  | cons word rest ih => exact (Mailbox.performs_writeWord word).bind fun _ => ih

theorem performs_send {p : Packet} (fits : p.argLen.toNat ≤ maxArgs) :
    Performs (sendPlan p) (send p : Act ε σ Nat) (send p) := by
  rw [send, send, argCount_eq_ok_iff.mpr ⟨fits, rfl⟩]
  exact (performs_writeWords p.wire).bind fun _ =>
    Mailbox.performs_completePacket.bind fun _ => Shows.log_bind _ (Performs.pure _)

/-- The number that a send gives is that of the arguments. -/
theorem count_of_send {p : Packet} {s s' : σ} {n : Nat}
    (sent : (send p : Act ε σ Nat).run s = (.ok n, s')) : n = p.argLen.toNat := by
  rw [send] at sent
  cases count : argCount p.argLen with
  | error e =>
    rw [count] at sent
    cases sent
  | ok len =>
    rw [count] at sent
    obtain ⟨_, s₁, -, signals⟩ := run_bind_eq_ok sent
    obtain ⟨_, s₂, -, reports⟩ := run_bind_eq_ok signals
    rw [run_log_bind] at reports
    cases reports
    exact (argCount_eq_ok_iff.mp count).2.symm

/-- What passes over a bus while a packet is sent, and how it shows in the result. -/
structure SendTrace (p : Packet) (r : Except ε Nat) (trace : List (Transaction ε)) : Prop where
  isPrefix : trace.map Transaction.operation <+: sendPlan p
  ok_iff : r = .ok p.argLen.toNat ↔ trace.map Transaction.operation = sendPlan p
  /-- Nothing was asked that did not go well. -/
  ok : ∀ n, r = .ok n → n = p.argLen.toNat ∧ ∀ t ∈ trace, t.stop? = none
  /-- The failure is that of the last transaction, and of none before it. -/
  error : p.argLen.toNat ≤ maxArgs → ∀ e, r = .error e →
    ∃ before last, trace = before ++ [last] ∧ last.stop? = some e ∧ ∀ t ∈ before, t.stop? = none
  /-- A packet that declares too many arguments is not begun. -/
  tooLong : maxArgs < p.argLen.toNat → r = .error (Raises.raise .invalidLength) ∧ trace = []

theorem SendTrace.of_follows {p : Packet} (fits : p.argLen.toNat ≤ maxArgs) {r : Except ε Nat}
    {trace : List (Transaction ε)} (follows : Follows (sendPlan p) trace (failure? r))
    (count : ∀ n, r = .ok n → n = p.argLen.toNat) : SendTrace p r trace where
  isPrefix := follows.operations_isPrefix
  ok_iff := by
    rw [sendPlan_fenced] at follows ⊢
    rw [follows.whole_iff]
    cases r with
    | ok n => simp [failure?, count n rfl]
    | error e => simp [failure?]
  ok n sent := ⟨count n sent, (follows.whole (congrArg failure? sent)).2⟩
  error _ e failed := follows.broken (congrArg failure? failed)
  tooLong long := absurd fits (Nat.not_le.mpr long)

theorem SendTrace.of_tooLong {p : Packet} (long : ¬ p.argLen.toNat ≤ maxArgs) :
    SendTrace p (.error (Raises.raise .invalidLength) : Except ε Nat) [] where
  isPrefix := List.nil_prefix
  ok_iff := by simp [sendPlan, signalPlan]
  ok := nofun
  error fits := absurd fits long
  tooLong _ := ⟨rfl, rfl⟩

/-- A send on any bus; that it is recorded changes nothing. -/
theorem send_recorded (p : Packet) (bus : σ) :
    ∃ r bus' trace, (send p : Act ε (Recorded σ ε) Nat).run (.fresh bus) = (r, ⟨bus', trace⟩) ∧
      (send p : Act ε σ Nat).run bus = (r, bus') ∧ SendTrace p r trace := by
  by_cases fits : p.argLen.toNat ≤ maxArgs
  · obtain ⟨trace, same, grown, follows⟩ := performs_send (σ := σ) fits (.fresh bus)
    rcases sent : (send p : Act ε (Recorded σ ε) Nat).run (.fresh bus) with ⟨r, bus', trace'⟩
    rw [sent] at same grown follows
    obtain rfl : trace' = trace := grown
    refine ⟨r, bus', trace', rfl, same, .of_follows fits follows ?_⟩
    rintro n rfl
    exact count_of_send sent
  · exact ⟨_, bus, [], run_send_tooLong fits _, run_send_tooLong fits bus, .of_tooLong fits⟩

end Transfer

end Sending

end Coprocessor
