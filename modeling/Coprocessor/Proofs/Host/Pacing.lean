import Coprocessor.Client
import Coprocessor.Firmware
import Coprocessor.Proofs.Act.Triple
import Coprocessor.Proofs.Mailbox.FlowControl
import Coprocessor.Proofs.Mailbox.Reception

/-!
A host beside a coprocessor that takes its own time. Before any access of the host, the coprocessor
may run cycles and some of its words may be delivered. What the host does is followed through
conditions that no such move ends: while it writes a packet, while it polls, and while it reads.
-/
namespace Coprocessor

open Act

/-! ## A host and a coprocessor -/

/-- What happens on the coprocessor's side. -/
inductive Move where
  /-- It runs a dispatch cycle. -/
  | cycle
  /-- The oldest of its words are delivered. -/
  | hand (count : Nat)

/-- A host and a coprocessor, with what happens on the coprocessor's side before each of the host's
next accesses. -/
structure Paced (κ δ : Type) where
  near : Endpoint
  far : Firmware Endpoint κ δ
  plan : List (List Move)

namespace Paced

variable {κ δ : Type}

def nearPart : Paced κ δ → Endpoint × (Endpoint → Paced κ δ)
  | ⟨near, far, plan⟩ => (near, fun near => ⟨near, far, plan⟩)

def farPart : Paced κ δ → Firmware Endpoint κ δ × (Firmware Endpoint κ δ → Paced κ δ)
  | ⟨near, far, plan⟩ => (far, fun far => ⟨near, far, plan⟩)

def hand (count : Nat) (s : Paced κ δ) : Paced κ δ :=
  { s with
    near := s.near.push (s.far.mailbox.outbound.take count)
    far.mailbox.outbound := s.far.mailbox.outbound.drop count }

/-- A completed packet is delivered to the coprocessor. -/
def afterWrite (r : Register) (s : Paced κ δ) : Paced κ δ :=
  match r with
  | .done =>
    match s.near.deliver s.far.mailbox with
    | (near, mailbox) => { s with near, far.mailbox := mailbox }
  | _ => s

/-- What an action comes to, if it does not end in another failure than these. -/
abbrev Ensures {ε σ α : Type} (E : ε → Prop) (P : σ → Prop) (x : Act ε σ α)
    (Q : α → σ → Prop) : Prop :=
  Triple P x Q fun e _ => E e

theorem ensures_onBus {ε σ ρ α : Type} {E : ε → Prop} {P : σ → Prop} {Q : α → σ → Prop}
    {x : Act ε σ α} (h : Ensures E P x Q) (q : ρ) : Ensures E (fun s : σ × ρ => P s.1 ∧ s.2 = q)
      (x.within Transfer.busPart) fun a s => Q a s.1 ∧ s.2 = q :=
  Triple.within h (fun _ hs => hs.1) (fun _ _ _ hs ha => ⟨ha, hs.2⟩) fun _ _ _ _ he => he

variable [InterruptController κ] [PageDevice δ]

def move : Move → Act Trap (Paced κ δ) Unit
  | .cycle => Firmware.runCycle.within farPart
  | .hand count => Act.modify (hand count)

def moves : List Move → Act Trap (Paced κ δ) Unit
  | [] => pure ()
  | m :: rest => do
    move m
    moves rest

/-- What happens before the next access. -/
def play : Act Trap (Paced κ δ) Unit := do
  match (← Act.get).plan with
  | [] => pure ()
  | next :: plan =>
    Act.modify fun s => { s with plan }
    moves next

instance : RegisterBus (Paced κ δ) Failure where
  read r := do
    play.mapFailure .trap
    ((RegisterBus.read r).mapFailure .error).within nearPart
  write r value := do
    play.mapFailure .trap
    ((RegisterBus.write r value).mapFailure .error).within nearPart
    Act.modify (afterWrite r)
  barrier := RegisterBus.barrier.within nearPart
  pause := RegisterBus.pause.within nearPart

/-! ## What the coprocessor's moves leave alone -/

/-- A condition on the two sides. -/
abbrev Condition (κ δ : Type) : Type :=
  Endpoint → Firmware Endpoint κ δ → Prop

/-- The condition holds, whatever is planned. -/
def On (P : Condition κ δ) (s : Paced κ δ) : Prop :=
  P s.near s.far

/-- A condition that neither a move nor a barrier ends. -/
structure Undisturbed (P : Condition κ δ) : Prop where
  cycle : ∀ {near far far'}, P near far → Firmware.runCycle.run far = (.ok (), far') → P near far'
  hand : ∀ {near far} (count : Nat), P near far → P (near.push (far.mailbox.outbound.take count))
    { far with mailbox.outbound := far.mailbox.outbound.drop count }
  counted : ∀ {near far}, P near far → P { near with barrierCount := near.barrierCount + 1 } far

variable {P : Condition κ δ} (undisturbed : Undisturbed P)
include undisturbed

theorem Undisturbed.move (m : Move) :
    Ensures (fun _ => True) (On P) (move m) fun _ => On P := by
  intro s hs
  cases m with
  | cycle =>
    rcases ran : Firmware.runCycle.run s.far with ⟨t | ⟨⟩, far'⟩
    · rw [Paced.move, run_within]
      simp only [farPart, ran]
    · rw [Paced.move, run_within]
      simp only [farPart, ran]
      exact undisturbed.cycle hs ran
  | hand count => exact undisturbed.hand count hs

theorem Undisturbed.moves (ms : List Move) :
    Ensures (fun _ => True) (On P) (moves ms) fun _ => On P := by
  induction ms with
  | nil => exact fun _ hs => hs
  | cons m rest ih => exact Triple.bind (undisturbed.move m) fun _ => ih

theorem Undisturbed.play : Ensures (fun _ => True) (On P) play fun _ => On P := by
  intro s hs
  rw [Paced.play, run_get_bind]
  rcases s with ⟨near, far, _ | ⟨next, plan⟩⟩
  · exact hs
  · exact undisturbed.moves next ⟨near, far, plan⟩ hs

/-! ## Single accesses, and polling -/

variable {E : Failure → Prop} (prompt : ∀ e, e ≠ .error .timeout → E e)
include prompt

theorem Undisturbed.playing :
    Ensures E (On P) (Paced.play.mapFailure .trap : Act Failure (Paced κ δ) Unit) fun _ => On P :=
  Triple.mapFailure Failure.trap
    (undisturbed.play.mono (fun _ hs => hs) (fun _ _ hs => hs) fun t _ _ => prompt (.trap t) nofun)

/-- A read, once what was planned before it has happened. -/
theorem Undisturbed.read (r : Register) :
    Ensures E (On P) (RegisterBus.read r : Act Failure (Paced κ δ) UInt32) fun value s =>
      ∃ near, P near s.far ∧ near.read r = (value, s.near) := by
  refine Triple.bind (undisturbed.playing prompt) fun _ => ?_
  intro s hs
  exact ⟨s.near, hs, rfl⟩

/-- A write, once what was planned before it has happened. -/
theorem Undisturbed.write (r : Register) (value : UInt32) :
    Ensures E (On P) (RegisterBus.write r value : Act Failure (Paced κ δ) Unit) fun _ s =>
      ∃ near far plan, P near far ∧ s = afterWrite r ⟨near.write r value, far, plan⟩ := by
  refine Triple.bind (undisturbed.playing prompt) fun _ => ?_
  intro s hs
  exact ⟨s.near, s.far, s.plan, hs, rfl⟩

omit prompt in
theorem Undisturbed.barrier :
    Ensures E (On P) (Mailbox.barrier : Act Failure (Paced κ δ) Unit) fun _ => On P :=
  fun _ hs => undisturbed.counted hs

theorem Undisturbed.status :
    Ensures E (On P) (Mailbox.status : Act Failure (Paced κ δ) Status) fun status s =>
      On P s ∧ status = s.near.status := by
  refine Triple.bind (undisturbed.read prompt .status) fun bits => Triple.pure ?_
  rintro s ⟨near, holds, reads⟩
  obtain ⟨rfl, rfl⟩ := Prod.mk.inj reads
  exact ⟨holds, rfl⟩

theorem Undisturbed.canRead :
    Ensures E (On P) (Mailbox.canRead : Act Failure (Paced κ δ) Bool) fun ready s =>
      On P s ∧ (ready = true → s.near.inbound ≠ []) := by
  refine Triple.bind (undisturbed.status prompt) fun status => Triple.pure ?_
  rintro s ⟨holds, rfl⟩
  refine ⟨holds, fun ready => ?_⟩
  rw [Endpoint.rxAvailable_status] at ready
  simpa using ready

theorem Undisturbed.canWrite :
    Ensures E (On P) (Mailbox.canWrite : Act Failure (Paced κ δ) Bool) fun ready s =>
      On P s ∧ (ready = true → s.near.hasRoom = true) := by
  refine Triple.bind (undisturbed.status prompt) fun status => Triple.pure ?_
  rintro s ⟨holds, rfl⟩
  refine ⟨holds, fun ready => ?_⟩
  rwa [Endpoint.txAvailable_status] at ready

omit prompt in
/-- Words that wait for the host stay until it reads them. -/
theorem Undisturbed.waiting :
    Undisturbed fun (near : Endpoint) (far : Firmware Endpoint κ δ) =>
      P near far ∧ near.inbound ≠ [] where
  cycle holds ran := ⟨undisturbed.cycle holds.1 ran, holds.2⟩
  hand count holds := ⟨undisturbed.hand count holds.1, List.append_ne_nil_of_left_ne_nil holds.2 _⟩
  counted holds := ⟨undisturbed.counted holds.1, holds.2⟩

omit prompt in
/-- Room for the host's words stays until it writes one. -/
theorem Undisturbed.room :
    Undisturbed fun (near : Endpoint) (far : Firmware Endpoint κ δ) =>
      P near far ∧ near.hasRoom = true where
  cycle holds ran := ⟨undisturbed.cycle holds.1 ran, holds.2⟩
  hand count holds := ⟨undisturbed.hand count holds.1, holds.2⟩
  counted holds := ⟨undisturbed.counted holds.1, holds.2⟩

/-- Polling leaves a condition alone, and it ends with words waiting. -/
theorem Undisturbed.awaitAnswer (limit : Nat) :
    Ensures E (On P) (Client.awaitAnswer limit : Act Failure (Paced κ δ) (Option Nat))
      fun found s => On P s ∧ (found ≠ none → s.near.inbound ≠ []) := by
  refine Triple.post (Triple.firstSome (P := On P)
    (Q := fun _ s => On P s ∧ s.near.inbound ≠ []) (fun i => ?_) (max 1 limit) 0) ?_
  · refine Triple.bind (undisturbed.canRead prompt) fun ready => ?_
    cases ready with
    | true => exact Triple.pure fun s hs => ⟨hs.1, hs.2 rfl⟩
    | false =>
      refine Triple.pre (P := On P) ?_ fun s hs => hs.1
      by_cases more : i + 1 < limit
      · rw [if_pos more]
        exact fun s hs => hs
      · rw [if_neg more]
        exact fun s hs => hs
  · intro found s hs
    cases found with
    | none => exact ⟨hs, fun some => absurd rfl some⟩
    | some polls => exact ⟨hs.1, fun _ => hs.2⟩

omit undisturbed prompt

/-! ## Words that the host writes -/

/-- Conditions under which the host sends a packet: `K` for each part of it that is written, and `W`
once it is signalled and delivered. -/
structure Sends (p : Packet) (K : List UInt32 → Condition κ δ) (W : Condition κ δ) : Prop where
  unsignalled : ∀ words, Undisturbed (K words)
  signalled : Undisturbed W
  put : ∀ {words near far} (word : UInt32), K words near far → near.hasRoom = true →
    K (words ++ [word]) (near.write .wdata word) far
  signal : ∀ {near far}, K p.wire near far → W ((near.write .done 1).deliver far.mailbox).1
    { far with mailbox := ((near.write .done 1).deliver far.mailbox).2 }

namespace Sends

variable {p : Packet} {K : List UInt32 → Condition κ δ} {W : Condition κ δ} (sends : Sends p K W)
include sends prompt

theorem writeWord (words : List UInt32) (word : UInt32) :
    Ensures E (On (K words)) (Mailbox.writeWord word : Act Failure (Paced κ δ) Unit)
      fun _ => On (K (words ++ [word])) := by
  refine Triple.bind ((sends.unsignalled words).canWrite prompt) fun ready => ?_
  cases ready with
  | false => exact fun _ _ => prompt (.error .channelNotReady) nofun
  | true =>
    refine Triple.bind (R := fun _ => On (K (words ++ [word]))) ?_ fun _ =>
      Triple.bind (sends.unsignalled _).barrier fun _ => Triple.log _
    refine ((sends.unsignalled words).room.write prompt .wdata word).mono
      (fun s hs => ⟨hs.1, hs.2 rfl⟩) ?_ fun _ _ he => he
    rintro ⟨⟩ s ⟨near, far, plan, ⟨holds, room⟩, rfl⟩
    exact sends.put word holds room

theorem writeWords (words later : List UInt32) :
    Ensures E (On (K words)) (Transfer.writeWords later : Act Failure (Paced κ δ) Unit)
      fun _ => On (K (words ++ later)) := by
  induction later generalizing words with
  | nil =>
    rw [List.append_nil]
    exact fun _ hs => hs
  | cons word rest ih =>
    rw [List.append_cons]
    exact Triple.bind (sends.writeWord prompt words word) fun _ => ih (words ++ [word])

theorem completePacket :
    Ensures E (On (K p.wire)) (Mailbox.completePacket : Act Failure (Paced κ δ) Unit)
      fun _ => On W := by
  refine Triple.bind (sends.unsignalled _).barrier fun _ => ?_
  refine Triple.bind (R := fun _ => On W) ?_ fun _ => sends.signalled.barrier
  refine ((sends.unsignalled _).write prompt .done 1).post ?_
  rintro ⟨⟩ s ⟨near, far, plan, holds, rfl⟩
  exact sends.signal holds

theorem send :
    Ensures E (On (K [])) (Transfer.send p : Act Failure (Paced κ δ) Nat) fun _ => On W := by
  by_cases fits : p.argLen.toNat ≤ maxArgs
  · rw [Transfer.send, argCount_eq_ok_iff.mpr ⟨fits, rfl⟩]
    refine Triple.bind (sends.writeWords prompt [] p.wire) fun _ => ?_
    exact Triple.bind (sends.completePacket prompt) fun _ => Triple.bind (Triple.log _) fun _ =>
      Triple.pure fun _ hs => hs
  · intro s hs
    rw [Transfer.run_send_tooLong fits]
    exact prompt (.error .invalidLength) (by decide)

end Sends

/-! ## Words that the host reads -/

/-- Conditions on what the host has not read, one for each list of words. What is first in the list is
the first word that comes. With the list empty, other words may come if it is no matter that there
is no end to them. -/
structure Bears (E : Failure → Prop) (I : List UInt32 → Condition κ δ) : Prop where
  undisturbed : ∀ words, Undisturbed (I words)
  take : ∀ {word words near far}, I (word :: words) near far → near.inbound ≠ [] →
    (near.read .rdata).1 = word ∧ I words (near.read .rdata).2 far
  drain : ∀ {near far}, I [] near far → I [] (near.read .rdata).2 far
  ended : E (.error .timeout) ∨ ∀ {near far}, I [] near far → near.inbound = []

namespace Bears

variable {I : List UInt32 → Condition κ δ} (bears : Bears E I)
include prompt bears

theorem takeWord (word : UInt32) (words : List UInt32) :
    Ensures E (fun s => On (I (word :: words)) s ∧ s.near.inbound ≠ [])
      (Mailbox.takeWord : Act Failure (Paced κ δ) UInt32)
      fun value s => value = word ∧ On (I words) s := by
  refine Triple.bind ((bears.undisturbed _).waiting.read prompt .rdata) fun value => ?_
  refine Triple.bind (Triple.log _) fun _ => Triple.pure ?_
  rintro s ⟨near, ⟨holds, waiting⟩, reads⟩
  have taken := bears.take holds waiting
  rw [reads] at taken
  exact taken

theorem readWord (word : UInt32) (words : List UInt32) :
    Ensures E (On (I (word :: words))) (Mailbox.readWord : Act Failure (Paced κ δ) UInt32)
      fun value s => value = word ∧ On (I words) s := by
  refine Triple.bind ((bears.undisturbed _).canRead prompt) fun ready => ?_
  cases ready with
  | true => exact (bears.takeWord prompt word words).pre fun s hs => ⟨hs.1, hs.2 rfl⟩
  | false => exact fun _ _ => prompt (.error .channelNotReady) nofun

theorem discardWord :
    Ensures E (On (I [])) (Transfer.discardWord : Act Failure (Paced κ δ) (Option Unit))
      fun _ => On (I []) := by
  refine Triple.bind ((bears.undisturbed []).canRead prompt) fun ready => ?_
  cases ready with
  | true =>
    refine Triple.bind (R := fun _ => On (I [])) ?_ fun word => ?_
    · refine Triple.bind (((bears.undisturbed []).read prompt .rdata).pre fun s hs => hs.1)
        fun value => ?_
      refine Triple.bind (Triple.log _) fun _ => Triple.pure ?_
      rintro s ⟨near, holds, reads⟩
      have drained := bears.drain holds
      rwa [reads] at drained
    · exact Triple.bind (Triple.log _) fun _ => Triple.pure fun s hs => hs
  | false => exact Triple.pure fun s hs => hs.1

theorem discardSurplus :
    Ensures E (On (I [])) (Transfer.discardSurplus : Act Failure (Paced κ δ) Unit)
      fun _ => On (I []) := by
  refine Triple.bind (Triple.firstSome (Q := fun _ => On (I [])) (fun i => ?_)
    Transfer.surplusLimit 0) fun finished => ?_
  · refine (bears.discardWord prompt).post fun found s hs => ?_
    cases found with
    | none => exact hs
    | some done => exact hs
  cases finished with
  | some done => exact Triple.pure fun s hs => hs
  | none =>
    refine Triple.bind ((bears.undisturbed []).canRead prompt) fun more => ?_
    cases more with
    | true =>
      refine Triple.bind (Triple.log _) fun _ => fun s hs => ?_
      obtain unending | ended := bears.ended
      · exact unending
      · exact absurd (ended hs.1) (hs.2 rfl)
    | false => exact Triple.pure fun s hs => hs.1

theorem readArgs (args words : List UInt32) (i : Nat) (q : Packet) :
    Ensures E (fun s : Paced κ δ × Packet => On (I (args ++ words)) s.1 ∧ s.2 = q)
      (Transfer.readArgs args.length i) fun _ s =>
        On (I words) s.1 ∧ s.2 = { q with data := Transfer.fill q.data i args } := by
  induction args generalizing i q with
  | nil => exact Triple.pure fun s hs => hs
  | cons word rest ih =>
    refine Triple.bind (ensures_onBus (bears.readWord prompt word (rest ++ words)) q) fun value => ?_
    refine Triple.bind (R := fun _ s => On (I (rest ++ words)) s.1 ∧
      s.2 = { q with data := q.data.setIfInBounds i word }) ?_ fun _ => ih (i + 1) _
    rintro ⟨s, own⟩ ⟨⟨rfl, holds⟩, same⟩
    obtain rfl : own = q := same
    exact ⟨holds, rfl⟩

theorem receiveDeclared {p : Packet} (fits : p.argLen.toNat ≤ maxArgs) (q : Packet) :
    Ensures E (fun s : Paced κ δ × Packet => On (I p.args) s.1 ∧ s.2 = q)
      (Transfer.receiveDeclared p.opcode p.argLen) fun _ s =>
        On (I []) s.1 ∧
          s.2 = { q with argLen := p.argLen, data := Transfer.fill q.data 0 p.args } := by
  have count : p.args.length = p.argLen.toNat := by
    rw [Packet.length_args, Nat.min_eq_left fits]
  rw [Transfer.receiveDeclared, argCount_eq_ok_iff.mpr ⟨fits, rfl⟩]
  dsimp only
  refine Triple.bind (R := fun _ s => On (I (p.args ++ [])) s.1 ∧
    s.2 = { q with argLen := p.argLen }) ?_ fun _ => ?_
  · rintro ⟨s, own⟩ ⟨holds, same⟩
    obtain rfl : own = q := same
    rw [List.append_nil]
    exact ⟨holds, rfl⟩
  · have read := bears.readArgs prompt p.args [] 0 { q with argLen := p.argLen }
    rw [count] at read
    refine Triple.bind read fun _ => ?_
    refine Triple.bind (ensures_onBus (bears.discardSurplus prompt) _) fun _ => ?_
    exact Triple.bind (Triple.log _) fun _ => Triple.pure fun s hs => hs

theorem receive {p : Packet} (fits : p.argLen.toNat ≤ maxArgs) :
    Ensures E (fun s : Paced κ δ × Packet =>
        (On (I p.wire) s.1 ∧ s.1.near.inbound ≠ []) ∧ s.2 = .empty)
      (Transfer.receive : Act Failure (Paced κ δ × Packet) Nat)
      fun _ s => On (I []) s.1 ∧ s.2 = Transfer.arrived p := by
  refine Triple.bind (ensures_onBus (bears.takeWord prompt p.version (p.header :: p.args)) _)
    fun version => ?_
  refine Triple.bind (R := fun _ s => On (I (p.header :: p.args)) s.1 ∧
    s.2 = { Packet.empty with version := p.version }) ?_ fun _ => ?_
  · rintro ⟨s, own⟩ ⟨⟨rfl, holds⟩, same⟩
    obtain rfl : own = .empty := same
    exact ⟨holds, rfl⟩
  refine Triple.bind (ensures_onBus (bears.readWord prompt p.header p.args) _) fun header => ?_
  -- from here on the header is known
  refine Triple.pre (Triple.of_fact (φ := header = p.header)
    (P := fun s : Paced κ δ × Packet => On (I p.args) s.1 ∧
      s.2 = { Packet.empty with version := p.version }) fun known => ?_)
    fun s hs => ⟨hs.1.1, hs.1.2, hs.2⟩
  have halves : unpackHeader header = (p.opcode, p.argLen) := by
    rw [known, Packet.header, unpackHeader_packHeader]
  rw [halves]
  refine Triple.bind (R := fun _ s => On (I p.args) s.1 ∧
    s.2 = { Packet.empty with version := p.version, opcode := p.opcode }) ?_ fun _ => ?_
  · rintro ⟨s, own⟩ ⟨holds, same⟩
    obtain rfl : own = _ := same
    exact ⟨holds, rfl⟩
  · refine (bears.receiveDeclared prompt fits _).post fun _ s hs => ⟨hs.1, hs.2.trans ?_⟩
    simp only [Packet.empty, Transfer.fill_zero, Transfer.arrived]

/-- A packet that comes is the packet that is received. -/
theorem receiveFresh {p : Packet} (fits : p.argLen.toNat ≤ maxArgs) :
    Ensures E (fun s => On (I p.wire) s ∧ s.near.inbound ≠ [])
      (Transfer.receiveFresh : Act Failure (Paced κ δ) Packet)
      fun r s => r = Transfer.arrived p ∧ On (I []) s := by
  refine Triple.bind (Triple.withLocal (Q := fun _ own s => On (I []) s ∧ own = Transfer.arrived p)
    (bears.receive prompt fits)) fun made => Triple.pure ?_
  rintro s ⟨holds, same⟩
  exact ⟨same, holds⟩

end Bears

end Paced

end Coprocessor
