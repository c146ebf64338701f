import Coprocessor.Proofs.Firmware.Noninterference
import Coprocessor.Proofs.Host.Abort
import Coprocessor.Proofs.Host.Pacing
import Coprocessor.Proofs.Host.Remote
import Coprocessor.Proofs.Mailbox.Codec
import Coprocessor.Proofs.Simulation.Exchanges

/-!
Which answer a request gets. The words that the coprocessor sent and the host has not read are a
stream: the coprocessor adds at its end, and the host takes from its front. A request returns the
answer that is first in it. While nothing else is under way that is the answer to the request; if an
older request or its answer still is, the older one is what is answered.
-/
namespace Coprocessor

open Act

/-! ## The queues -/

namespace Packet

/-- A request of a known kind, with no more arguments than a packet holds. -/
structure Known (p : Packet) : Prop where
  lowest : 1 ≤ p.opcode.toNat
  highest : p.opcode.toNat ≤ 4
  fits : p.argLen.toNat ≤ maxArgs

end Packet

namespace Transfer

/-- The wire form of a packet is received as that packet also where other words follow it. -/
theorem run_receiveFresh_surplus {p : Packet} {e : Endpoint} {surplus : List UInt32}
    (fits : p.argLen.toNat ≤ maxArgs) (few : surplus.length ≤ surplusLimit)
    (waiting : e.inbound = p.wire ++ surplus) :
    (receiveFresh : Act Error Endpoint Packet).run e =
      (.ok (arrived p), { e with inbound := [] }) := by
  have halves : unpackHeader p.header = (p.opcode, p.argLen) := by
    rw [Packet.header, unpackHeader_packHeader]
  have length : p.header.toNat / 65536 = p.args.length := by
    rw [← (toNat_unpackHeader p.header).2, halves, Packet.length_args_of_fits fits]
  have same : declared p.version p.header p.args = arrived p := by
    rw [declared, halves, arrived]
  rw [← same]
  exact run_receiveFresh_declared Carries.id waiting length p.length_args_le few

/-- Of a packet, the outbound queue takes what it has room for. -/
theorem run_send_part {p : Packet} (fits : p.argLen.toNat ≤ maxArgs) (e : Endpoint) :
    ∃ r e', (send p : Act Error Endpoint Nat).run e = (r, e') ∧ e'.inbound = e.inbound ∧
      e'.depth = e.depth ∧
      e'.outbound = e.outbound ++ p.wire.take (e.depth - e.outbound.length) := by
  by_cases room : e.outbound.length + p.wire.length ≤ e.depth
  · refine ⟨_, _, run_send Carries.id fits room, rfl, rfl, ?_⟩
    rw [List.take_of_length_le (by omega)]
    rfl
  · exact ⟨_, _, run_send_full Carries.id fits (Nat.not_le.mp room), rfl, rfl, rfl⟩

end Transfer

namespace Firmware

variable {κ δ : Type} [InterruptController κ] [PageDevice δ]

/-- A cycle that finds no words. -/
theorem runCycle_empty {far far' : Firmware Endpoint κ δ} (empty : far.mailbox.inbound = [])
    (ran : runCycle.run far = (.ok (), far')) :
    far'.commands = far.commands ∧ far'.mailbox = { far.mailbox with rxError := true } := by
  rw [run_runCycle, Transfer.run_receiveFresh_empty Carries.id empty] at ran
  obtain ⟨-, rfl⟩ := Prod.mk.inj ran
  exact ⟨rfl, rfl⟩

/-- A cycle that finds a request, with other words behind it. -/
theorem runCycle_known {far far' : Firmware Endpoint κ δ} {p : Packet} {surplus : List UInt32}
    (known : p.Known) (few : surplus.length ≤ Transfer.surplusLimit)
    (waiting : far.mailbox.inbound = p.wire ++ surplus)
    (ran : runCycle.run far = (.ok (), far')) :
    ∃ response, Commands.Replies far.commands p response far'.commands ∧
      far'.mailbox.inbound = [] ∧ far'.mailbox.depth = far.mailbox.depth ∧
      far'.mailbox.outbound = far.mailbox.outbound ++
        response.wire.take (far.mailbox.depth - far.mailbox.outbound.length) := by
  obtain ⟨op, handler, asked, found⟩ :=
    Commands.exists_handler (δ := δ) known.lowest known.highest
  rw [run_runCycle, Transfer.run_receiveFresh_surplus known.fits few waiting] at ran
  dsimp only at ran
  rw [run_answer_handled ((Transfer.toRequest_arrived p).trans asked) found,
    Commands.run_handler_congr found (Transfer.args_arrived p)] at ran
  rcases handled : (handler p).run far.commands with ⟨t | response, c'⟩
  · rw [handled] at ran
    cases ran
  · have replies : Commands.Replies far.commands p response c' :=
      ⟨op, handler, asked, found, handled⟩
    obtain ⟨r, e', sent, inbound, depth, outbound⟩ :=
      Transfer.run_send_part replies.answer.fits { far.mailbox with inbound := [] }
    rw [handled] at ran
    dsimp only at ran
    rw [sent] at ran
    obtain ⟨-, rfl⟩ := Prod.mk.inj ran
    exact ⟨response, replies, inbound, depth, outbound⟩

/-- A cycle only adds to what is queued for the host. -/
theorem outbound_runCycle {far far' : Firmware Endpoint κ δ}
    (ran : runCycle.run far = (.ok (), far')) :
    far.mailbox.outbound <+: far'.mailbox.outbound := by
  have reads (r : Register) : Keeps (fun m : Endpoint => far.mailbox.outbound <+: m.outbound)
      (RegisterBus.read r : Act Error Endpoint UInt32) := by
    intro m queued
    show _ <+: (m.read r).2.outbound
    rwa [Endpoint.outbound_read]
  have writes (r : Register) (value : UInt32) (_ : r ≠ .abort) :
      Keeps (fun m : Endpoint => far.mailbox.outbound <+: m.outbound)
        (RegisterBus.write r value : Act Error Endpoint Unit) := by
    intro m queued
    show _ <+: (m.write r value).outbound
    rw [Endpoint.outbound_write]
    split
    · exact queued.trans (List.prefix_append _ _)
    · exact queued
  have barrier : Keeps (fun m : Endpoint => far.mailbox.outbound <+: m.outbound)
      (Mailbox.barrier : Act Error Endpoint Unit) := fun _ queued => queued
  have answers := keeps_answer (δ := δ) (Transfer.keeps_send (reads .status) writes barrier)
  have received := Transfer.keeps_receiveFresh reads far.mailbox (List.prefix_refl _)
  rw [run_runCycle] at ran
  rcases fetched : (Transfer.receiveFresh : Act Error Endpoint Packet).run far.mailbox with
    ⟨e | request, m⟩
  · rw [fetched] at ran received
    obtain ⟨-, rfl⟩ := Prod.mk.inj ran
    exact received
  · rw [fetched] at ran received
    dsimp only at ran
    have answered := answers request (m, far.commands) received
    rcases handled : (answer request).run (m, far.commands) with ⟨t | outcome, parts⟩
    · rw [handled] at ran
      cases ran
    · rw [handled] at ran answered
      obtain ⟨-, rfl⟩ := Prod.mk.inj ran
      exact answered

end Firmware

namespace Paced

variable {κ δ : Type}

/-- Where the words are: those of the host that are not signalled, those that the coprocessor has
not received, and those of the coprocessor that the host has not read. -/
structure At (unsignalled unreceived unread : List UInt32) (depth : Nat) (c : Commands δ)
    (near : Endpoint) (far : Firmware Endpoint κ δ) : Prop where
  unsignalled : near.outbound = unsignalled
  unreceived : far.mailbox.inbound = unreceived
  unread : near.inbound ++ far.mailbox.outbound = unread
  depth : far.mailbox.depth = depth
  commands : far.commands = c

/-- These words are the first that the host has not read. -/
def Starts (words : List UInt32) (near : Endpoint) (far : Firmware Endpoint κ δ) : Prop :=
  words <+: near.inbound ++ far.mailbox.outbound

theorem unread_hand (near mailbox : Endpoint) (count : Nat) :
    (near.push (mailbox.outbound.take count)).inbound ++ mailbox.outbound.drop count =
      near.inbound ++ mailbox.outbound := by
  rw [Endpoint.push, List.append_assoc, List.take_append_drop]

variable {unsignalled unreceived unread : List UInt32} {depth : Nat} {c : Commands δ}
variable {near : Endpoint} {far far' : Firmware Endpoint κ δ}

theorem At.hand (h : At unsignalled unreceived unread depth c near far) (count : Nat) :
    At unsignalled unreceived unread depth c (near.push (far.mailbox.outbound.take count))
      { far with mailbox.outbound := far.mailbox.outbound.drop count } where
  unsignalled := h.unsignalled
  unreceived := h.unreceived
  unread := (unread_hand near far.mailbox count).trans h.unread
  depth := h.depth
  commands := h.commands

theorem At.counted (h : At unsignalled unreceived unread depth c near far) :
    At unsignalled unreceived unread depth c
      { near with barrierCount := near.barrierCount + 1 } far :=
  ⟨h.unsignalled, h.unreceived, h.unread, h.depth, h.commands⟩

theorem At.put (h : At unsignalled unreceived unread depth c near far) (word : UInt32)
    (room : near.hasRoom = true) :
    At (unsignalled ++ [word]) unreceived unread depth c (near.write .wdata word) far where
  unsignalled := by rw [Endpoint.outbound_write_of_hasRoom room, h.unsignalled]
  unreceived := h.unreceived
  unread := by rw [Endpoint.inbound_write, h.unread]
  depth := h.depth
  commands := h.commands

/-- What was signalled is delivered, behind what the coprocessor has not received. -/
theorem At.signal (h : At unsignalled unreceived unread depth c near far) :
    At [] (unreceived ++ unsignalled) unread depth c
      ((near.write .done 1).deliver far.mailbox).1
      { far with mailbox := ((near.write .done 1).deliver far.mailbox).2 } where
  unsignalled := rfl
  unreceived := by
    show far.mailbox.inbound ++ (near.write .done 1).outbound = _
    rw [Endpoint.outbound_write, if_neg nofun, h.unreceived, h.unsignalled]
  unread := by
    show (near.write .done 1).inbound ++ far.mailbox.outbound = _
    rw [Endpoint.inbound_write, h.unread]
  depth := h.depth
  commands := h.commands

theorem Starts.put {words : List UInt32} (h : Starts words near far) (word : UInt32) :
    Starts words (near.write .wdata word) far := by
  rwa [Starts, Endpoint.inbound_write]

theorem Starts.signal {words : List UInt32} (h : Starts words near far) :
    Starts words ((near.write .done 1).deliver far.mailbox).1
      { far with mailbox := ((near.write .done 1).deliver far.mailbox).2 } := by
  show words <+: (near.write .done 1).inbound ++ far.mailbox.outbound
  rwa [Endpoint.inbound_write]

variable [InterruptController κ] [PageDevice δ]

/-- With nothing to receive, a cycle does nothing to the words. -/
theorem undisturbed_at :
    Undisturbed (At (κ := κ) unsignalled [] unread depth c) where
  cycle h ran := by
    obtain ⟨commands, mailbox⟩ := Firmware.runCycle_empty h.unreceived ran
    refine ⟨h.unsignalled, ?_, ?_, ?_, commands.trans h.commands⟩
    · rw [mailbox]
      exact h.unreceived
    · rw [mailbox]
      exact h.unread
    · rw [mailbox]
      exact h.depth
  hand count h := h.hand count
  counted h := h.counted

/-- A cycle answers the request that is waiting, and drops the words behind it. -/
theorem At.cycle {p : Packet} {surplus : List UInt32} (known : p.Known)
    (few : surplus.length ≤ Transfer.surplusLimit)
    (h : At unsignalled (p.wire ++ surplus) [] depth c near far)
    (ran : Firmware.runCycle.run far = (.ok (), far')) :
    ∃ response c', Commands.Replies c p response c' ∧
      At unsignalled [] (response.wire.take depth) depth c' near far' := by
  obtain ⟨response, replies, inbound, same, outbound⟩ :=
    Firmware.runCycle_known known few h.unreceived ran
  obtain ⟨none, none'⟩ := List.append_eq_nil_iff.mp h.unread
  rw [none', List.length_nil, Nat.sub_zero, List.nil_append, h.depth] at outbound
  rw [h.commands] at replies
  refine ⟨response, _, replies, h.unsignalled, inbound, ?_, same.trans h.depth, rfl⟩
  rw [none, List.nil_append, outbound]

theorem undisturbed_starts (words : List UInt32) :
    Undisturbed (Starts (κ := κ) (δ := δ) words) where
  cycle starts ran := by
    obtain ⟨added, more⟩ := Firmware.outbound_runCycle ran
    refine starts.trans ⟨added, ?_⟩
    rw [← more, List.append_assoc]
  hand count starts := by
    rw [Starts, unread_hand]
    exact starts
  counted starts := starts

theorem bears_starts : Bears (fun _ => True) (Starts (κ := κ) (δ := δ)) where
  undisturbed := undisturbed_starts
  take starts waiting := by
    obtain ⟨first, rest, same⟩ := List.exists_cons_of_ne_nil waiting
    rw [Starts, same, List.cons_append, List.cons_prefix_cons] at starts
    rw [Endpoint.read_rdata_of_cons same]
    exact ⟨starts.1.symm, starts.2⟩
  drain _ := List.nil_prefix
  ended := .inl trivial

/-! ## Requests that are under way -/

/-- The request is under way, and nothing else: it waits to be received, or so much of its answer
as there was room for waits to be read. -/
def Owed (p : Packet) (depth : Nat) (c : Commands δ) (near : Endpoint)
    (far : Firmware Endpoint κ δ) : Prop :=
  At [] p.wire [] depth c near far ∨
    ∃ response c', Commands.Replies c p response c' ∧
      At [] [] (response.wire.take depth) depth c' near far

theorem undisturbed_owed {p : Packet} (known : p.Known) :
    Undisturbed (Owed (κ := κ) p depth c) where
  cycle owed ran := by
    obtain waiting | ⟨response, c', replies, sent⟩ := owed
    · rw [← p.wire.append_nil] at waiting
      exact .inr (waiting.cycle known (Nat.zero_le _) ran)
    · exact .inr ⟨response, c', replies, undisturbed_at.cycle sent ran⟩
  hand count owed := by
    obtain waiting | ⟨response, c', replies, sent⟩ := owed
    · exact .inl (waiting.hand count)
    · exact .inr ⟨response, c', replies, sent.hand count⟩
  counted owed := by
    obtain waiting | ⟨response, c', replies, sent⟩ := owed
    · exact .inl waiting.counted
    · exact .inr ⟨response, c', replies, sent.counted⟩

theorem sends_owed {p : Packet} (known : p.Known) :
    Sends (κ := κ) p (fun words => At words [] [] depth c) (Owed p depth c) where
  unsignalled _ := undisturbed_at
  signalled := undisturbed_owed known
  put word h room := h.put word room
  signal h := .inl h.signal

/-- The older request is under way: it waits to be received, `later` behind it, or its answer is the
first that the host has not read. -/
def Late (older : Packet) (depth : Nat) (c : Commands δ) (unsignalled later : List UInt32)
    (near : Endpoint) (far : Firmware Endpoint κ δ) : Prop :=
  At unsignalled (older.wire ++ later) [] depth c near far ∨
    ∃ response c', Commands.Replies c older response c' ∧ Starts response.wire near far

omit [InterruptController κ] [PageDevice δ] in
/-- Where there is room for any packet, an answer is queued whole. -/
theorem At.starts {response : Packet} (answer : Commands.Answer response)
    (room : Endpoint.defaultDepth ≤ depth)
    (h : At unsignalled unreceived (response.wire.take depth) depth c near far) :
    Starts response.wire near far := by
  have whole : response.wire.length ≤ depth := by
    refine Nat.le_trans ?_ room
    rw [Packet.length_wire_of_fits answer.fits, Endpoint.defaultDepth, Nat.add_comm]
    exact Nat.add_le_add_right answer.fits 2
  have same : near.inbound ++ far.mailbox.outbound = response.wire :=
    h.unread.trans (List.take_of_length_le whole)
  exact ⟨[], (List.append_nil _).trans same.symm⟩

omit [InterruptController κ] in
theorem Owed.late {p : Packet} (room : Endpoint.defaultDepth ≤ depth)
    (h : Owed p depth c near far) : Late p depth c [] [] near far := by
  obtain waiting | ⟨response, c', replies, sent⟩ := h
  · rw [← p.wire.append_nil] at waiting
    exact .inl waiting
  · exact .inr ⟨response, c', replies, sent.starts replies.answer room⟩

theorem undisturbed_late {older : Packet} (known : older.Known)
    (room : Endpoint.defaultDepth ≤ depth) {later : List UInt32}
    (few : later.length ≤ Transfer.surplusLimit) :
    Undisturbed (Late (κ := κ) older depth c unsignalled later) where
  cycle late ran := by
    obtain waiting | ⟨response, c', replies, starts⟩ := late
    · obtain ⟨response, c', replies, sent⟩ := waiting.cycle known few ran
      exact .inr ⟨response, c', replies, sent.starts replies.answer room⟩
    · exact .inr ⟨response, c', replies, (undisturbed_starts _).cycle starts ran⟩
  hand count late := by
    obtain waiting | ⟨response, c', replies, starts⟩ := late
    · exact .inl (waiting.hand count)
    · exact .inr ⟨response, c', replies, (undisturbed_starts _).hand count starts⟩
  counted late := by
    obtain waiting | ⟨response, c', replies, starts⟩ := late
    · exact .inl waiting.counted
    · exact .inr ⟨response, c', replies, starts⟩

theorem sends_late {older p : Packet} (known : older.Known) (fits : p.argLen.toNat ≤ maxArgs)
    (room : Endpoint.defaultDepth ≤ depth) :
    Sends (κ := κ) p (fun words => Late older depth c words []) (Late older depth c [] p.wire) where
  unsignalled _ := undisturbed_late known room (Nat.zero_le _)
  signalled := by
    refine undisturbed_late known room ?_
    rw [Packet.length_wire_of_fits fits, Transfer.surplusLimit]
    simp only [maxArgs] at fits ⊢
    omega
  put word late room := by
    obtain waiting | ⟨response, c', replies, starts⟩ := late
    · exact .inl (waiting.put word room)
    · exact .inr ⟨response, c', replies, starts.put word⟩
  signal late := by
    obtain waiting | ⟨response, c', replies, starts⟩ := late
    · rw [List.append_nil] at waiting
      exact .inl waiting.signal
    · exact .inr ⟨response, c', replies, starts.signal⟩

/-! ## Requests -/

omit [InterruptController κ] [PageDevice δ] in
theorem ensures_acceptAnswer {P : Paced κ δ → Prop} (response : Packet) (asked : Option UInt16) :
    Ensures (· ≠ .error .timeout) P
      (Client.acceptAnswer response asked : Act Failure (Paced κ δ) Unit) fun _ => P := by
  obtain accepts | ⟨m, refuses⟩ := Client.acceptAnswer_cases response asked
  · rw [accepts]
    exact fun _ hs => hs
  · rw [refuses]
    intro s hs
    exact nofun

/-- A request sends, polls and receives. Where it times out while it polls, it has sent. -/
theorem triple_request {p : Packet} {K : List UInt32 → Condition κ δ} {W : Condition κ δ}
    {Q : Packet → Paced κ δ → Prop} {F : Failure → Paced κ δ → Prop} (sends : Sends p K W)
    (prompt : ∀ e s, e ≠ .error .timeout → F e s)
    (unanswered : ∀ s, On W s → F (.error .timeout) s)
    (receives : Triple (fun s => On W s ∧ s.near.inbound ≠ []) Transfer.receiveFresh Q F)
    (limits : ClientLimits) :
    Triple (On (K [])) (Client.request limits p : Act Failure (Paced κ δ) Packet) Q F := by
  have steady {α : Type} {P : Paced κ δ → Prop} {x : Act Failure (Paced κ δ) α}
      {R : α → Paced κ δ → Prop} (h : Ensures (· ≠ .error .timeout) P x R) : Triple P x R F :=
    h.mono (fun _ hs => hs) (fun _ _ hs => hs) fun e s he => prompt e s he
  refine Triple.bind (Triple.log _) fun _ => ?_
  refine Triple.bind (steady (sends.send fun _ he => he)) fun _ => ?_
  refine Triple.bind (steady (sends.signalled.awaitAnswer (fun _ he => he) _)) fun found => ?_
  cases found with
  | none => exact Triple.bind (Triple.log _) fun _ s hs => unanswered s hs.1
  | some polls =>
    refine Triple.bind (R := Q) ?_ fun response =>
      Triple.bind (Triple.log _) fun _ => Triple.pure fun _ hs => hs
    refine Triple.bind (receives.pre fun s hs => ⟨hs.1, hs.2 nofun⟩) fun response => ?_
    exact Triple.bind (steady (ensures_acceptAnswer response _)) fun _ =>
      Triple.pure fun _ hs => hs

/-- A part of these words, and nothing else, is unread. -/
theorem bears_part (c : Commands δ) (depth : Nat) :
    Bears (· ≠ .error .timeout) fun (words : List UInt32) (near : Endpoint)
        (far : Firmware Endpoint κ δ) =>
      ∃ part, part <+: words ∧ At [] [] part depth c near far where
  undisturbed words :=
    { cycle := fun ⟨part, first, sent⟩ ran => ⟨part, first, undisturbed_at.cycle sent ran⟩
      hand := fun count ⟨part, first, sent⟩ => ⟨part, first, sent.hand count⟩
      counted := fun ⟨part, first, sent⟩ => ⟨part, first, sent.counted⟩ }
  take := by
    rintro word words near far ⟨part, first, sent⟩ waiting
    obtain ⟨head, rest, same⟩ := List.exists_cons_of_ne_nil waiting
    have unread := sent.unread
    rw [same, List.cons_append] at unread
    rw [← unread, List.cons_prefix_cons] at first
    rw [Endpoint.read_rdata_of_cons same]
    exact ⟨first.1, _, first.2, sent.unsignalled, sent.unreceived, rfl, sent.depth, sent.commands⟩
  drain := by
    rintro near far ⟨part, first, sent⟩
    obtain rfl := List.prefix_nil.mp first
    obtain ⟨none, none'⟩ := List.append_eq_nil_iff.mp sent.unread
    rw [Endpoint.read_rdata_of_nil none]
    exact ⟨[], List.nil_prefix, sent.unsignalled, sent.unreceived, sent.unread, sent.depth,
      sent.commands⟩
  ended := by
    refine .inr ?_
    rintro near far ⟨part, first, sent⟩
    obtain rfl := List.prefix_nil.mp first
    exact (List.append_eq_nil_iff.mp sent.unread).1

/-- While nothing else is under way, what is received is the answer. -/
theorem ensures_receive_owed {p : Packet} :
    Ensures (· ≠ .error .timeout) (fun s => On (Owed p depth c) s ∧ s.near.inbound ≠ [])
      (Transfer.receiveFresh : Act Failure (Paced κ δ) Packet)
      fun r s => ∃ c', Commands.Replies c p r c' ∧ On (At [] [] [] depth c') s := by
  rintro s ⟨waits | ⟨response, c', replies, sent⟩, waiting⟩
  · exact absurd (List.append_eq_nil_iff.mp waits.unread).1 waiting
  · refine ((bears_part c' depth).receiveFresh (fun _ he => he) replies.answer.fits).post ?_ s
      ⟨⟨_, List.take_prefix _ _, sent⟩, waiting⟩
    rintro r t ⟨rfl, part, first, read⟩
    obtain rfl := List.prefix_nil.mp first
    rw [replies.answer.arrived]
    exact ⟨c', replies, read⟩

/-- While an older request is under way, what is received is the answer to that. -/
theorem ensures_receive_late {older : Packet} {later : List UInt32} :
    Ensures (fun _ => True) (fun s => On (Late older depth c [] later) s ∧ s.near.inbound ≠ [])
      (Transfer.receiveFresh : Act Failure (Paced κ δ) Packet)
      fun r _ => ∃ c', Commands.Replies c older r c' := by
  rintro s ⟨waits | ⟨response, c', replies, starts⟩, waiting⟩
  · exact absurd (List.append_eq_nil_iff.mp waits.unread).1 waiting
  · refine (bears_starts.receiveFresh (fun _ _ => trivial) replies.answer.fits).post ?_ s
      ⟨starts, waiting⟩
    rintro r _ ⟨rfl, -⟩
    rw [replies.answer.arrived]
    exact ⟨c', replies⟩

/-- A request while nothing is under way. -/
theorem triple_request_owed {p : Packet} (known : p.Known) (limits : ClientLimits) :
    Triple (On (At [] [] [] depth c))
      (Client.request limits p : Act Failure (Paced κ δ) Packet)
      (fun r s => ∃ c', Commands.Replies c p r c' ∧ On (At [] [] [] depth c') s)
      fun e s => e = .error .timeout → On (Owed p depth c) s := by
  refine triple_request (sends_owed known) ?_ ?_ ?_ limits
  · exact fun e s prompt timeout => absurd timeout prompt
  · exact fun s owed _ => owed
  · exact ensures_receive_owed.mono (fun _ hs => hs) (fun _ _ hs => hs)
      fun e s prompt timeout => absurd timeout prompt

/-- A request while an older one is under way. -/
theorem ensures_request_late {older p : Packet} (known : older.Known) (asked : p.Known)
    (room : Endpoint.defaultDepth ≤ depth) (limits : ClientLimits) :
    Ensures (fun _ => True) (On (Late older depth c [] []))
      (Client.request limits p : Act Failure (Paced κ δ) Packet)
      fun r _ => ∃ c', Commands.Replies c older r c' :=
  triple_request (sends_late known asked.fits room) (fun _ _ _ => trivial) (fun _ _ => trivial)
    ensures_receive_late limits

/-- Requests one after the other, each tried whatever became of those before. -/
def requests : List (ClientLimits × Packet) → Act Trap (Paced κ δ) (List (Except Error Packet))
  | [] => pure []
  | (limits, p) :: rest => do
    let first ← (Client.request limits p).settle
    return first :: (← requests rest)

/-- Nothing is under way in either direction. -/
structure Quiet (s : Paced κ δ) : Prop where
  unsignalled : s.near.outbound = []
  unreceived : s.far.mailbox.inbound = []
  undelivered : s.far.mailbox.outbound = []
  unread : s.near.inbound = []

omit [InterruptController κ] [PageDevice δ] in
theorem Quiet.at {s : Paced κ δ} (quiet : s.Quiet) :
    On (At [] [] [] s.far.mailbox.depth s.far.commands) s where
  unsignalled := quiet.unsignalled
  unreceived := quiet.unreceived
  unread := by rw [quiet.unread, quiet.undelivered, List.append_nil]
  depth := rfl
  commands := rfl

theorem requests_cons {limits : ClientLimits} {p : Packet} {rest : List (ClientLimits × Packet)}
    {s s' : Paced κ δ} {answers : List (Except Error Packet)}
    (ran : (requests ((limits, p) :: rest)).run s = (.ok answers, s')) :
    ∃ first s₁ later, (Client.request limits p).settle.run s = (.ok first, s₁) ∧
      (requests rest).run s₁ = (.ok later, s') ∧ answers = first :: later := by
  obtain ⟨first, s₁, first_ran, ran⟩ := run_bind_eq_ok ran
  obtain ⟨later, s₂, later_ran, ran⟩ := run_bind_eq_ok ran
  cases ran
  exact ⟨first, s₁, later, first_ran, later_ran, rfl⟩

theorem requests_served_from {calls : List (ClientLimits × Packet)}
    (known : ∀ call ∈ calls, call.2.Known) {s s' : Paced κ δ}
    (quiet : On (At [] [] [] depth c) s) {returned : List Packet}
    {rest : List (Except Error Packet)}
    (ran : (requests calls).run s = (.ok (returned.map .ok ++ rest), s')) :
    ∃ c', Commands.Serves c ((calls.map Prod.snd).zip returned) c' ∧
      (Endpoint.defaultDepth ≤ depth → ∀ r others, rest = .error .timeout :: .ok r :: others →
        ∃ call c'', calls[returned.length]? = some call ∧ Commands.Replies c' call.2 r c'') := by
  induction calls generalizing s c returned with
  | nil =>
    obtain ⟨none, rfl⟩ : returned.map Except.ok = [] ∧ rest = [] := by
      have empty : [] = returned.map Except.ok ++ rest := Except.ok.inj (Prod.mk.inj ran).1
      exact List.append_eq_nil_iff.mp empty.symm
    obtain rfl := List.map_eq_nil_iff.mp none
    exact ⟨c, .nil c, fun _ _ _ => nofun⟩
  | cons call calls ih =>
    obtain ⟨limits, p⟩ := call
    obtain ⟨asked, known⟩ := List.forall_mem_cons.mp known
    obtain ⟨first, s₁, later, first_ran, later_ran, split⟩ := requests_cons ran
    have post := (Triple.settle (E := fun e s => e = .error .timeout → On (Owed p depth c) s)
      (triple_request_owed asked limits)).ok quiet first_ran
    cases returned with
    | nil =>
      refine ⟨c, .nil c, ?_⟩
      rintro room r others rfl
      obtain ⟨rfl, rfl⟩ := List.cons.inj split
      have owed : On (Owed p depth c) s₁ := post rfl
      -- the next request is made while this one is under way
      cases calls with
      | nil => cases later_ran
      | cons call calls =>
        obtain ⟨second, s₂, last, second_ran, -, split⟩ := requests_cons later_ran
        obtain ⟨rfl, -⟩ := List.cons.inj split
        obtain ⟨c'', replies⟩ := (Triple.settle (E := fun _ _ => True)
          (ensures_request_late asked (known _ List.mem_cons_self) room call.1)).ok
            (owed.late room) second_ran
        exact ⟨_, c'', rfl, replies⟩
    | cons response returned =>
      obtain ⟨rfl, rfl⟩ := List.cons.inj split
      obtain ⟨c₁, replies, quiet₁⟩ := post
      obtain ⟨c', serves, late⟩ := ih known quiet₁ later_ran
      exact ⟨c', .cons replies serves, late⟩

/-- Of any requests, made while nothing is under way, each returns the answer to it up to the first
that fails. If that one timed out, the next request, if it returns at all, returns the answer to the
one that timed out. -/
theorem requests_served {calls : List (ClientLimits × Packet)}
    (known : ∀ call ∈ calls, call.2.Known) {s s' : Paced κ δ} (quiet : s.Quiet)
    {returned : List Packet} {rest : List (Except Error Packet)}
    (ran : (requests calls).run s = (.ok (returned.map .ok ++ rest), s')) :
    ∃ c', Commands.Serves s.far.commands ((calls.map Prod.snd).zip returned) c' ∧
      (Endpoint.defaultDepth ≤ s.far.mailbox.depth →
        ∀ r others, rest = .error .timeout :: .ok r :: others →
          ∃ call c'', calls[returned.length]? = some call ∧
            Commands.Replies c' call.2 r c'') :=
  requests_served_from known quiet.at ran

/-- A knock with one argument. -/
def knockWith (word : UInt32) : Packet :=
  { Packet.ofRequest .knock with argLen := 1, data := Packet.buffer [word] }

/-- A host and an idle coprocessor, before any request. -/
def onePage (plan : List (List Move)) : Paced Lines PagedRam :=
  ⟨.new Endpoint.defaultDepth, Link.onePage.far, plan⟩

/-- Three knocks. The coprocessor takes its time with the second, and the third returns the answer
to that. -/
theorem requests_served_knocks :
    ∃ c, Commands.Serves Link.onePage.far.commands
        [(knockWith 5, Commands.respond .knock [5])] c ∧
      ∃ c', Commands.Replies c (knockWith 7) (Commands.respond .knock [7]) c' := by
  have known (word : UInt32) : (knockWith word).Known :=
    ⟨Nat.le_refl 1, show 1 ≤ 4 by decide, show 1 ≤ maxArgs by decide⟩
  let calls : List (ClientLimits × Packet) :=
    [(⟨1, 1⟩, knockWith 5), (⟨1, 1⟩, knockWith 7), (⟨1, 1⟩, knockWith 8)]
  let plan : List (List Move) := List.replicate 7 [] ++ [.cycle, .hand 3] :: List.replicate 14 [] ++
    [[.cycle, .hand 3]]
  have result : ((requests calls).run (onePage plan)).1 =
      .ok ([Commands.respond .knock [5]].map .ok ++
        [.error .timeout, .ok (Commands.respond .knock [7])]) := by
    decide +kernel
  rcases ran : (requests calls).run (onePage plan) with ⟨answers, s'⟩
  rw [ran] at result
  obtain rfl : answers = _ := result
  obtain ⟨c, serves, late⟩ := requests_served (by simp [calls, known]) ⟨rfl, rfl, rfl, rfl⟩ ran
  obtain ⟨call, c', asked, replies⟩ := late (Nat.le_refl _) _ [] rfl
  cases asked
  exact ⟨c, serves, c', replies⟩

/-- The second of two knocks returns the answer to the first. -/
theorem late_answer_returned :
    ((requests [(⟨1, 1⟩, knockWith 7), (⟨1, 1⟩, knockWith 8)]).run
        (onePage (List.replicate 8 [] ++ [[.cycle, .hand 3]]))).1 =
      .ok [.error .timeout, .ok (Commands.respond .knock [7])] ∧
    ∀ c c' : Commands PagedRam,
      ¬ Commands.Replies c (knockWith 8) (Commands.respond .knock [7]) c' := by
  refine ⟨by decide +kernel, ?_⟩
  rintro c c' ⟨op, handler, asked, found, handled⟩
  cases asked
  cases found
  have answer : Commands.knock (knockWith 8) = Commands.respond .knock [7] :=
    Except.ok.inj (Prod.mk.inj handled).1
  have args : (Commands.knock (knockWith 8)).args = [8] := by decide
  rw [answer] at args
  revert args
  decide

end Paced

end Coprocessor
