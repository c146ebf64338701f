import Coprocessor.Proofs.Mailbox.Reception
import Coprocessor.Proofs.Mailbox.Recorded

/-!
What receiving asks of a bus. The version is taken without asking; every later word is taken right
after a poll that shows one, and their number is bounded by what the header declares, whatever the
status register shows.
-/
namespace Coprocessor

open Act

variable {ε : Type}

/-! ## Gated traces -/

/-- What the words that were taken turned out to be, the oldest first. -/
def taken (trace : List (Transaction ε)) : List (Except ε UInt32) :=
  trace.filterMap fun
    | .read .rdata answer => some answer
    | _ => none

theorem taken_append (trace trace' : List (Transaction ε)) :
    taken (trace ++ trace') = taken trace ++ taken trace' :=
  List.filterMap_append ..

/-- A trace of polls, in which a word is taken right after a poll that shows one. -/
inductive Gated : List (Transaction ε) → Prop
  | nil : Gated []
  | poll {trace : List (Transaction ε)} (answer : Except ε UInt32) (rest : Gated trace) :
      Gated (.read .status answer :: trace)
  | word {trace : List (Transaction ε)} {bits : UInt32} (ready : (Status.mk bits).rxAvailable = true)
      (answer : Except ε UInt32) (rest : Gated trace) :
      Gated (.read .status (.ok bits) :: .read .rdata answer :: trace)

namespace Gated

theorem append {trace trace' : List (Transaction ε)} (first : Gated trace) (rest : Gated trace') :
    Gated (trace ++ trace') := by
  induction first with
  | nil => exact rest
  | poll answer _ ih => exact poll answer ih
  | word ready answer _ ih => exact word ready answer ih

/-- Nothing is written, and no other register read. -/
theorem reads {trace : List (Transaction ε)} (h : Gated trace) {t : Transaction ε}
    (ht : t ∈ trace) : ∃ answer, t = .read .status answer ∨ t = .read .rdata answer := by
  induction h with
  | nil => cases ht
  | poll answer _ ih =>
    rcases List.mem_cons.mp ht with rfl | later
    · exact ⟨answer, .inl rfl⟩
    · exact ih later
  | word ready answer _ ih =>
    rcases List.mem_cons.mp ht with rfl | later
    · exact ⟨_, .inl rfl⟩
    · rcases List.mem_cons.mp later with rfl | later
      · exact ⟨answer, .inr rfl⟩
      · exact ih later

/-- Right before each word that is taken, the status showed one. -/
theorem ready_before {trace before after : List (Transaction ε)} {answer : Except ε UInt32}
    (h : Gated trace) (parts : trace = before ++ .read .rdata answer :: after) :
    ∃ earlier bits, before = earlier ++ [.read .status (.ok bits)] ∧
      (Status.mk bits).rxAvailable = true := by
  induction h generalizing before with
  | nil => simp at parts
  | poll status _ ih =>
    cases before with
    | nil => simp at parts
    | cons t before =>
      rw [List.cons_append, List.cons.injEq] at parts
      obtain ⟨rfl, later⟩ := parts
      obtain ⟨earlier, bits, rfl, ready⟩ := ih later
      exact ⟨_ :: earlier, bits, rfl, ready⟩
  | @word _ bits ready word _ ih =>
    -- the word is the one of this poll, or a later one
    cases before with
    | nil => simp at parts
    | cons t before =>
      rw [List.cons_append, List.cons.injEq] at parts
      obtain ⟨rfl, later⟩ := parts
      cases before with
      | nil => exact ⟨[], bits, rfl, ready⟩
      | cons t' before =>
        rw [List.cons_append, List.cons.injEq] at later
        obtain ⟨rfl, later⟩ := later
        obtain ⟨earlier, bits', rfl, ready'⟩ := ih later
        exact ⟨_ :: _ :: earlier, bits', rfl, ready'⟩

end Gated

/-- Gated, with at most `n` words taken. -/
def GatedUpTo (n : Nat) (trace : List (Transaction ε)) : Prop :=
  Gated trace ∧ (taken trace).length ≤ n

theorem GatedUpTo.nil (n : Nat) : GatedUpTo n ([] : List (Transaction ε)) :=
  ⟨.nil, Nat.zero_le n⟩

theorem GatedUpTo.mono {m n : Nat} {trace : List (Transaction ε)} (h : GatedUpTo m trace)
    (le : m ≤ n) : GatedUpTo n trace :=
  ⟨h.1, Nat.le_trans h.2 le⟩

theorem GatedUpTo.append {m n : Nat} {trace trace' : List (Transaction ε)}
    (first : GatedUpTo m trace) (rest : GatedUpTo n trace') :
    GatedUpTo (m + n) (trace ++ trace') := by
  refine ⟨first.1.append rest.1, ?_⟩
  rw [taken_append, List.length_append]
  exact Nat.add_le_add first.2 rest.2

/-- On every bus, the action takes words after polls that show them, and at most `n` of them. -/
def TakesUpTo {τ' τ α : Type} (n : Nat) (k : Recording τ' τ ε) (x : Act ε τ α) (y : Act ε τ' α) :
    Prop :=
  Shows k x y fun trace _ => GatedUpTo n trace

namespace TakesUpTo

variable {τ' τ α β : Type} {k : Recording τ' τ ε} {m n : Nat}

theorem bind {x : Act ε τ α} {y : Act ε τ' α} {f : α → Act ε τ β} {g : α → Act ε τ' β}
    (hx : TakesUpTo m k x y) (hf : ∀ a, TakesUpTo n k (f a) (g a)) :
    TakesUpTo (m + n) k (x >>= f) (y >>= g) := by
  refine Shows.bind hx hf ?_ ?_
  · intro trace e few
    exact few.mono (Nat.le_add_right m n)
  · intro first a rest r few few'
    exact few.append few'

theorem pure (a : α) :
    TakesUpTo n k (Pure.pure a : Act ε τ α) (Pure.pure a : Act ε τ' α) :=
  Shows.pure (.nil n)

theorem fail [Raises ε] (e : Error) :
    TakesUpTo n k (Act.fail e : Act ε τ α) (Act.fail e : Act ε τ' α) :=
  Shows.fail (.nil n)

/-- A loop takes as many words as its rounds do together. -/
theorem firstSome {body : Nat → Act ε τ (Option α)} {body' : Nat → Act ε τ' (Option α)}
    (h : ∀ i, TakesUpTo 1 k (body i) (body' i)) (n : Nat) :
    ∀ i, TakesUpTo n k (Act.firstSome n i body) (Act.firstSome n i body') := by
  induction n with
  | zero => exact fun i => pure none
  | succ n ih =>
    intro i
    rw [firstSome_succ, firstSome_succ, Nat.add_comm]
    refine (h i).bind fun found => ?_
    cases found with
    | none => exact ih (i + 1)
    | some a => exact pure (some a)

end TakesUpTo

/-! ## Receiving -/

section Receiving

variable {σ : Type} [RegisterBus σ ε]

/-- What takes a word if a poll shows one, and takes none otherwise. -/
theorem Mailbox.shows_ifReady {α : Type} {x g : Act ε σ α} {x' g' : Act ε (Recorded σ ε) α}
    {T : List (Except ε UInt32) → Except ε α → Prop}
    (takes : Shows Recording.ofBus x x' fun trace r =>
      ∃ answer, trace = [.read .rdata answer] ∧ T [answer] r)
    (waits : Shows Recording.ofBus g g' fun trace r => trace = [] ∧ T [] r)
    (fails : ∀ e, T [] (.error e)) :
    Shows Recording.ofBus (canRead >>= fun ready => if ready then x else g)
      (canRead >>= fun ready => if ready then x' else g') fun trace r =>
        Gated trace ∧ T (taken trace) r := by
  refine Shows.canRead.bind (U := fun ready trace r =>
    if ready then ∃ answer, trace = [.read .rdata answer] ∧ T [answer] r
    else trace = [] ∧ T [] r) ?_ ?_ ?_
  · intro ready
    cases ready with
    | true => exact takes
    | false => exact waits
  · rintro trace e ⟨answer, rfl, failed⟩
    exact ⟨.poll answer .nil, fails e⟩
  · rintro first ready rest r ⟨answer, rfl, shown⟩ went
    cases answer with
    | error e => cases shown
    | ok bits =>
      obtain rfl : ready = (Status.mk bits).rxAvailable := Except.ok.inj shown
      cases waiting : (Status.mk bits).rxAvailable with
      | true =>
        rw [if_pos waiting] at went
        obtain ⟨answer, rfl, holds⟩ := went
        exact ⟨.word waiting answer .nil, holds⟩
      | false =>
        rw [if_neg (by simp [waiting])] at went
        obtain ⟨rfl, holds⟩ := went
        exact ⟨.poll (.ok bits) .nil, holds⟩

theorem Mailbox.shows_readWord [Raises ε] :
    Shows Recording.ofBus (readWord : Act ε σ UInt32) readWord fun trace r =>
      Gated trace ∧ (taken trace = [r] ∨ taken trace = [] ∧ ∃ e, r = .error e) := by
  refine shows_ifReady (T := fun words r => words = [r] ∨ words = [] ∧ ∃ e, r = .error e)
    (Shows.takeWord.mono fun trace r took => ⟨r, took, .inl rfl⟩)
    (Shows.fail ⟨rfl, .inr ⟨rfl, _, rfl⟩⟩) fun e => .inr ⟨rfl, e, rfl⟩

theorem Mailbox.takes_readWord [Raises ε] :
    TakesUpTo 1 Recording.ofBus (readWord : Act ε σ UInt32) readWord := by
  refine Mailbox.shows_readWord.mono ?_
  rintro trace r ⟨gated, one | ⟨none, -⟩⟩
  · exact ⟨gated, by simp [one]⟩
  · exact ⟨gated, by simp [none]⟩

theorem Mailbox.takes_canRead :
    TakesUpTo 0 Recording.ofBus (canRead : Act ε σ Bool) canRead := by
  refine Shows.canRead.mono ?_
  rintro trace r ⟨answer, rfl, -⟩
  exact ⟨.poll answer .nil, Nat.le_refl 0⟩

namespace Transfer

theorem takes_discardWord :
    TakesUpTo 1 Recording.ofBus (discardWord : Act ε σ (Option Unit)) discardWord := by
  refine Mailbox.shows_ifReady (T := fun words _ => words.length ≤ 1) ?_
    (Shows.pure ⟨rfl, Nat.zero_le 1⟩) fun e => Nat.zero_le 1
  refine Shows.takeWord.bind (U := fun _ trace _ => trace = [])
    (fun word => Shows.log_bind _ (Shows.pure rfl)) ?_ ?_
  · rintro trace e rfl
    exact ⟨_, rfl, Nat.le_refl 1⟩
  · rintro first word rest r rfl rfl
    exact ⟨_, rfl, Nat.le_refl 1⟩

variable [Raises ε]

/-- Surplus words are taken up to the limit, even where they do not end. -/
theorem takes_discardSurplus :
    TakesUpTo surplusLimit Recording.ofBus (discardSurplus : Act ε σ Unit) discardSurplus := by
  have rounds := TakesUpTo.firstSome (fun _ => takes_discardWord (σ := σ)) surplusLimit 0
  refine TakesUpTo.bind (n := 0) rounds fun finished => ?_
  cases finished with
  | some u => exact TakesUpTo.pure ()
  | none =>
    refine TakesUpTo.bind (n := 0) Mailbox.takes_canRead fun more => ?_
    cases more with
    | true => exact Shows.log_bind _ (TakesUpTo.fail .timeout)
    | false => exact TakesUpTo.pure ()

theorem takes_readArgs (n i : Nat) :
    TakesUpTo n Recording.ofBus.beside (readArgs n i : Act ε (σ × Packet) Unit) (readArgs n i) := by
  induction n generalizing i with
  | zero => exact TakesUpTo.pure ()
  | succ n ih =>
    rw [readArgs, readArgs, Nat.add_comm]
    refine TakesUpTo.bind (Shows.beside (Mailbox.takes_readWord (σ := σ))) fun word => ?_
    exact Shows.modify_bind (fun _ => rfl) (fun _ => rfl) (ih (i + 1))

/-- Past the header, a length that does not fit has no words taken; and where it fits, there are at
most as many as it declares and may follow. -/
theorem shows_receiveDeclared (opcode argLen : UInt16) :
    Shows Recording.ofBus.beside (receiveDeclared opcode argLen : Act ε (σ × Packet) Nat)
      (receiveDeclared opcode argLen) fun trace r =>
        trace = [] ∧ (∀ n, r ≠ .ok n) ∨
          argLen.toNat ≤ maxArgs ∧ GatedUpTo (argLen.toNat + surplusLimit) trace ∧
            ∀ n, r = .ok n → n = argLen.toNat := by
  by_cases fits : argLen.toNat ≤ maxArgs
  · rw [receiveDeclared, receiveDeclared, argCount_eq_ok_iff.mpr ⟨fits, rfl⟩]
    have finish : Shows Recording.ofBus.beside
        (do discardSurplus.within busPart; Act.log (.packetReceived opcode argLen.toNat)
            return argLen.toNat : Act ε (σ × Packet) Nat)
        (do discardSurplus.within busPart; Act.log (.packetReceived opcode argLen.toNat)
            return argLen.toNat)
        fun trace r => GatedUpTo surplusLimit trace ∧ ∀ n, r = .ok n → n = argLen.toNat := by
      refine Shows.bind (Shows.beside (takes_discardSurplus (σ := σ)))
        (U := fun _ trace r => trace = [] ∧ r = .ok argLen.toNat)
        (fun _ => Shows.log_bind _ (Shows.pure ⟨rfl, rfl⟩)) ?_ ?_
      · intro trace e few
        exact ⟨few, by simp⟩
      · rintro first _ rest r few ⟨rfl, rfl⟩
        rw [List.append_nil]
        exact ⟨few, fun n count => (Except.ok.inj count).symm⟩
    refine Shows.modify_bind (fun _ => rfl) (fun _ => rfl) ?_
    refine Shows.bind (takes_readArgs argLen.toNat 0) (fun _ => finish) ?_ ?_
    · intro trace e few
      exact .inr ⟨fits, few.mono (Nat.le_add_right ..), by simp⟩
    · rintro first _ rest r few ⟨few', count⟩
      exact .inr ⟨fits, few.append few', count⟩
  · rw [receiveDeclared, receiveDeclared, argCount, if_neg fits]
    exact Shows.log_bind _ (Shows.fail (.inl ⟨rfl, by simp⟩))

/-- What is taken past the version: a header at most, or a header and no more words than it declares
and may follow. -/
def TakesPacket (trace : List (Transaction ε)) (r : Except ε Nat) : Prop :=
  (taken trace).length ≤ 1 ∧ (∀ n, r ≠ .ok n) ∨
    ∃ header words, taken trace = .ok header :: words ∧ header.toNat / 65536 ≤ maxArgs ∧
      words.length ≤ header.toNat / 65536 + surplusLimit ∧
      ∀ n, r = .ok n → n = header.toNat / 65536

/-- A receive takes the version first, the header if a poll shows one, and past an accepted header
what that declares. -/
theorem shows_receive :
    Shows Recording.ofBus.beside (receive : Act ε (σ × Packet) Nat) receive fun trace r =>
      ∃ version rest, trace = .read .rdata version :: rest ∧ Gated rest ∧ TakesPacket rest r := by
  refine Shows.bind (Shows.beside (Shows.takeWord (σ := σ)))
    (U := fun _ trace r => Gated trace ∧ TakesPacket trace r) (fun version => ?_) ?_ ?_
  · refine Shows.modify_bind (fun _ => rfl) (fun _ => rfl) ?_
    refine Shows.bind (Shows.beside (Mailbox.shows_readWord (σ := σ))) (fun header =>
      Shows.modify_bind (fun _ => rfl) (fun _ => rfl) (shows_receiveDeclared (unpackHeader header).1
        (unpackHeader header).2)) ?_ ?_
    · rintro trace e ⟨gated, one | ⟨none, -⟩⟩
      · exact ⟨gated, .inl ⟨by simp [one], nofun⟩⟩
      · exact ⟨gated, .inl ⟨by simp [none], nofun⟩⟩
    · rintro first header rest r ⟨gated, one | ⟨-, e, failed⟩⟩ declared
      · rw [(toNat_unpackHeader header).2] at declared
        obtain ⟨rfl, failed⟩ | ⟨fits, ⟨gated', few⟩, count⟩ := declared
        · rw [List.append_nil]
          exact ⟨gated, .inl ⟨by simp [one], failed⟩⟩
        · refine ⟨gated.append gated', .inr ⟨header, taken rest, ?_, fits, few, count⟩⟩
          rw [taken_append, one, List.singleton_append]
      · cases failed
  · rintro trace e rfl
    exact ⟨_, [], rfl, .nil, .inl ⟨Nat.zero_le 1, nofun⟩⟩
  · rintro first version rest r rfl holds
    exact ⟨_, rest, rfl, holds⟩

/-- What passes over a bus while a packet is received, and how it shows in the result. -/
structure ReceiveTrace (r : Except ε Nat) (trace : List (Transaction ε)) : Prop where
  /-- The version is taken on trust. -/
  version : ∃ version later, trace = .read .rdata version :: later
  /-- Nothing is written, and nothing waited for. -/
  reads : ∀ t ∈ trace, ∃ answer, t = .read .status answer ∨ t = .read .rdata answer
  /-- Right before every later word that is taken, the status showed one. -/
  gated : ∀ before answer after, trace = before ++ .read .rdata answer :: after → before ≠ [] →
    ∃ earlier bits, before = earlier ++ [.read .status (.ok bits)] ∧
      (Status.mk bits).rxAvailable = true
  /-- Past the version and the header, at most as many words are taken as an accepted header
  declares and may follow. -/
  bounded : (taken trace).length ≤ 2 ∧ (∀ n, r ≠ .ok n) ∨
    ∃ version header words, taken trace = version :: .ok header :: words ∧
      header.toNat / 65536 ≤ maxArgs ∧ words.length ≤ header.toNat / 65536 + surplusLimit ∧
      ∀ n, r = .ok n → n = header.toNat / 65536

omit [Raises ε] in
theorem ReceiveTrace.of_gated {version : Except ε UInt32} {rest : List (Transaction ε)}
    {r : Except ε Nat} (gated : Gated rest) (packet : TakesPacket rest r) :
    ReceiveTrace r (.read .rdata version :: rest) where
  version := ⟨version, rest, rfl⟩
  reads t ht := by
    rcases List.mem_cons.mp ht with rfl | later
    · exact ⟨version, .inr rfl⟩
    · exact gated.reads later
  gated before answer after parts some := by
    cases before with
    | nil => exact absurd rfl some
    | cons first before =>
      rw [List.cons_append, List.cons.injEq] at parts
      obtain ⟨rfl, later⟩ := parts
      obtain ⟨earlier, bits, rfl, ready⟩ := gated.ready_before later
      exact ⟨_ :: earlier, bits, rfl, ready⟩
  bounded := by
    have first : taken (.read .rdata version :: rest) = version :: taken rest := rfl
    rw [first]
    rcases packet with ⟨few, failed⟩ | ⟨header, words, header_taken, fits, few, count⟩
    · exact .inl ⟨Nat.succ_le_succ few, failed⟩
    · exact .inr ⟨version, header, words, by rw [header_taken], fits, few, count⟩

/-- A receive on any bus; that it is recorded changes nothing. -/
theorem receive_recorded (into : Packet) (bus : σ) :
    ∃ r bus' p trace, (receive : Act ε (Recorded σ ε × Packet) Nat).run (.fresh bus, into) =
        (r, ⟨bus', trace⟩, p) ∧
      (receive : Act ε (σ × Packet) Nat).run (bus, into) = (r, bus', p) ∧ ReceiveTrace r trace := by
  obtain ⟨trace, same, grown, version, rest, rfl, gated, packet⟩ :=
    shows_receive (σ := σ) (.fresh bus, into)
  rcases received : (receive : Act ε (Recorded σ ε × Packet) Nat).run (.fresh bus, into) with
    ⟨r, ⟨bus', trace'⟩, p⟩
  rw [received] at same grown packet
  obtain rfl : trace' = .read .rdata version :: rest := grown
  exact ⟨r, bus', p, _, rfl, same, .of_gated gated packet⟩

end Transfer

end Receiving

end Coprocessor
