import Coprocessor.Proofs.Mailbox.Reception

/-!
The wire form as a code. What is sent is received as it was, no strict prefix of it is received at
all, and what is received without surplus words is what sending the received packet writes.
-/
namespace Coprocessor

open Act

/-- A header word is the one of its opcode and length. -/
theorem packHeader_unpackHeader (word : UInt32) :
    packHeader (unpackHeader word).1 (unpackHeader word).2 = word := by
  simp only [unpackHeader, packHeader]
  apply UInt32.toBitVec_inj.1
  apply BitVec.eq_of_getLsbD_eq
  intro i hi
  simp only [UInt32.toBitVec_or, UInt16.toBitVec_toUInt32, UInt32.toBitVec_toUInt16,
    UInt32.toBitVec_shiftLeft, UInt32.toBitVec_shiftRight, BitVec.getLsbD_or,
    BitVec.getLsbD_setWidth]
  simp
  grind

namespace Packet

theorem length_args_of_fits {p : Packet} (fits : p.argLen.toNat ≤ maxArgs) :
    p.args.length = p.argLen.toNat := by
  rw [length_args, Nat.min_eq_left fits]

theorem length_wire_of_fits {p : Packet} (fits : p.argLen.toNat ≤ maxArgs) :
    p.wire.length = 2 + p.argLen.toNat := by
  rw [length_wire, Nat.min_eq_left fits]

end Packet

namespace Transfer

/-! ## Sending into any queue -/

/-- A packet is queued as far as there is room, and signalled if it is queued whole. -/
theorem send_into_queue {p : Packet} (fits : p.argLen.toNat ≤ maxArgs) (e : Endpoint) :
    ∃ r e', (send p : Act Error Endpoint Nat).run e = (r, e') ∧
      (e.outbound.length + 2 + p.argLen.toNat ≤ e.depth →
        r = .ok p.argLen.toNat ∧ e'.outbound = e.outbound ++ p.wire ∧
          e'.doneCount = e.doneCount + 1) ∧
      (e.depth < e.outbound.length + 2 + p.argLen.toNat →
        r = .error .channelNotReady ∧
          e'.outbound = e.outbound ++ p.wire.take (e.depth - e.outbound.length) ∧
          e'.doneCount = e.doneCount) := by
  have length := Packet.length_wire_of_fits fits
  by_cases room : e.outbound.length + p.wire.length ≤ e.depth
  · refine ⟨_, _, run_send Carries.id fits room, fun _ => ⟨rfl, rfl, rfl⟩, fun full => ?_⟩
    omega
  · have full : e.depth < e.outbound.length + p.wire.length := Nat.not_le.mp room
    refine ⟨_, _, run_send_full Carries.id fits full, fun room => ?_, fun _ => ⟨rfl, rfl, rfl⟩⟩
    omega

/-! ## Receiving what was sent -/

theorem argLen_arrived (p : Packet) : (arrived p).argLen = p.argLen := by
  rw [arrived]

theorem version_arrived (p : Packet) : (arrived p).version = p.version := by
  rw [arrived]

/-- Past its arguments, a packet that has arrived is zero. -/
theorem data_arrived {p : Packet} (fits : p.argLen.toNat ≤ maxArgs) {i : Nat} (hi : i < 128)
    (past : p.argLen.toNat ≤ i) : (arrived p).data[i] = 0 := by
  have none : p.args[i]? = none := by
    rw [List.getElem?_eq_none_iff, Packet.length_args_of_fits fits]
    exact past
  simp only [arrived, Packet.buffer, Vector.getElem_ofFn, none, Option.getD_none]

/-- A part of a packet is not a packet, wherever it is received. -/
theorem receive_strictPrefix {p : Packet} (fits : p.argLen.toNat ≤ maxArgs) {words : List UInt32}
    (part : words <+: p.wire) (strict : words ≠ p.wire) {e : Endpoint} (waiting : e.inbound = words)
    (into : Packet) :
    ((receive : Act Error (Endpoint × Packet) Nat).run (e, into)).1 = .error .channelNotReady := by
  rcases words with _ | ⟨version, _ | ⟨header, words⟩⟩
  · rw [run_receive_empty Carries.id waiting]
  · rw [run_receive_headless Carries.id waiting]
  · obtain ⟨rfl, later⟩ := List.cons_prefix_cons.mp part
    obtain ⟨rfl, args⟩ := List.cons_prefix_cons.mp later
    have fewer : words.length < p.argLen.toNat := by
      rw [← Packet.length_args_of_fits fits]
      refine Nat.lt_of_le_of_ne args.length_le fun same => strict ?_
      rw [args.eq_of_length same]
      rfl
    have left : { e with inbound := words }.inbound = words := rfl
    rw [run_receive_headed Carries.id waiting, Packet.header, unpackHeader_packHeader,
      run_receiveDeclared Carries.id fits _ left, if_pos fewer]

theorem args_filled (p : Packet) {words : List UInt32} (count : words.length = p.argLen.toNat)
    (fits : p.argLen.toNat ≤ maxArgs) : { p with data := fill p.data 0 words }.args = words := by
  have length : { p with data := fill p.data 0 words }.args.length = words.length := by
    rw [Packet.length_args, Nat.min_eq_left fits, count]
  refine List.ext_getElem length fun i h₁ h₂ => ?_
  have small : i < 128 := Nat.lt_of_lt_of_le h₂ (count ▸ fits)
  simp only [Packet.args, List.getElem_take, Vector.getElem_toList]
  rw [getElem_fill small, if_pos (Nat.zero_le i), Nat.sub_zero, List.getElem?_eq_getElem h₂,
    Option.getD_some]

/-- Words that were received without a surplus are the wire form of the packet received. -/
theorem wire_of_received {e e' : Endpoint} {into p : Packet} {n : Nat}
    (received : (receive : Act Error (Endpoint × Packet) Nat).run (e, into) = (.ok n, e', p))
    (exact : e.inbound.length = n + 2) : p.argLen.toNat = n ∧ n ≤ maxArgs ∧ p.wire = e.inbound := by
  obtain ⟨version, header, words, waiting⟩ :
      ∃ version header words, e.inbound = version :: header :: words := by
    rcases waiting : e.inbound with _ | ⟨version, _ | ⟨header, words⟩⟩
    · simp [waiting] at exact
    · simp [waiting] at exact
    · exact ⟨_, _, _, rfl⟩
  have left : { e with inbound := words }.inbound = words := rfl
  rw [run_receive_headed Carries.id waiting] at received
  by_cases fits : (unpackHeader header).2.toNat ≤ maxArgs
  · rw [waiting, List.length_cons, List.length_cons] at exact
    rw [run_receiveDeclared Carries.id fits _ left] at received
    have count : (unpackHeader header).2.toNat = n := by
      have result := congrArg Prod.fst received
      dsimp only at result
      split at result
      · cases result
      · split at result
        · exact Except.ok.inj result
        · cases result
    have exactly : words.length = (unpackHeader header).2.toNat := by omega
    rw [List.take_of_length_le (Nat.le_of_eq exactly)] at received
    obtain rfl := congrArg (fun outcome => outcome.2.2) received
    refine ⟨count, count ▸ fits, ?_⟩
    rw [Packet.wire, Packet.header, packHeader_unpackHeader,
      args_filled ⟨version, (unpackHeader header).1, (unpackHeader header).2, into.data⟩ exactly fits,
      waiting]
  · rw [run_receiveDeclared_tooLong (Nat.not_le.mp fits)] at received
    cases received

/-! ## There and back -/

/-- The wire form is a code for the packets that fit. Sending queues as much of it as there is room
for, and signals the packet if that is all of it. Delivered whole it is received as the packet that
was sent, with zeros after the arguments; delivered in part it is not received. And a packet that
was received is, on the wire, the words that it was received from. -/
theorem wire_round_trip (p : Packet) :
    (p.argLen.toNat ≤ maxArgs →
      (∀ e : Endpoint, ∃ r e', (send p : Act Error Endpoint Nat).run e = (r, e') ∧
        (e.outbound.length + 2 + p.argLen.toNat ≤ e.depth →
          r = .ok p.argLen.toNat ∧ e'.outbound = e.outbound ++ p.wire ∧
            e'.doneCount = e.doneCount + 1) ∧
        (e.depth < e.outbound.length + 2 + p.argLen.toNat →
          r = .error .channelNotReady ∧
            e'.outbound = e.outbound ++ p.wire.take (e.depth - e.outbound.length) ∧
            e'.doneCount = e.doneCount)) ∧
      (∀ e peer : Endpoint, e.outbound = p.wire → peer.inbound = [] →
        ∃ peer' q, (receive : Act Error (Endpoint × Packet) Nat).run ((e.deliver peer).2, .empty) =
            (.ok p.argLen.toNat, peer', q) ∧
          q.version = p.version ∧ q.opcode = p.opcode ∧ q.argLen = p.argLen ∧ q.args = p.args ∧
          ∀ i (hi : i < 128), p.argLen.toNat ≤ i → q.data[i] = 0) ∧
      (∀ (e peer : Endpoint) (into : Packet), e.outbound <+: p.wire → e.outbound ≠ p.wire →
        peer.inbound = [] →
        ((receive : Act Error (Endpoint × Packet) Nat).run ((e.deliver peer).2, into)).1 =
          .error .channelNotReady)) ∧
    ∀ (peer peer' : Endpoint) (into : Packet) (n : Nat),
      (receive : Act Error (Endpoint × Packet) Nat).run (peer, into) = (.ok n, peer', p) →
      peer.inbound.length = n + 2 →
      ∀ e : Endpoint, e.outbound.length + 2 + n ≤ e.depth →
        ∃ e', (send p : Act Error Endpoint Nat).run e = (.ok n, e') ∧
          e'.outbound = e.outbound ++ peer.inbound := by
  refine ⟨fun fits => ⟨send_into_queue fits, ?_, ?_⟩, ?_⟩
  · intro e peer sent idle
    have waiting : (e.deliver peer).2.inbound = p.wire := by
      rw [Endpoint.inbound_deliver, idle, sent, List.nil_append]
    exact ⟨_, _, run_receive_wire Carries.id fits waiting, version_arrived p, opcode_arrived p,
      argLen_arrived p, args_arrived p, fun i hi past => data_arrived fits hi past⟩
  · intro e peer into part strict idle
    have waiting : (e.deliver peer).2.inbound = e.outbound := by
      rw [Endpoint.inbound_deliver, idle, List.nil_append]
    exact receive_strictPrefix fits part strict waiting into
  · intro peer peer' into n received exact e room
    obtain ⟨count, small, words⟩ := wire_of_received received exact
    obtain ⟨r, e', sent, whole, -⟩ := send_into_queue (count ▸ small) e
    obtain ⟨rfl, queued, -⟩ := whole (count ▸ room)
    exact ⟨e', count ▸ sent, words ▸ queued⟩

/-- One argument, in a buffer that is full of it. -/
def filledPacket : Packet :=
  { version := 7, opcode := 2, argLen := 1, data := Vector.replicate 128 5 }

/-- A queue of two words stops the packet before its argument. Delivered whole it arrives without
what stood after the argument, and what has arrived is sent on as the same three words. -/
theorem wire_round_trip_filledPacket :
    filledPacket.argLen.toNat ≤ maxArgs ∧ filledPacket.wire = [7, 0x10002, 5] ∧
      (∃ e, (send filledPacket : Act Error Endpoint Nat).run (.new 2) =
          (.error .channelNotReady, e) ∧ e.outbound = [7, 0x10002]) ∧
      ∃ peer q, (receive : Act Error (Endpoint × Packet) Nat).run
          (({ Endpoint.new 130 with outbound := filledPacket.wire }.deliver (.new 130)).2, .empty) =
            (.ok 1, peer, q) ∧
        q.args = [5] ∧ q.data[1] = 0 ∧
        ∃ e, (send q : Act Error Endpoint Nat).run (.new 130) = (.ok 1, e) ∧
          e.outbound = [7, 0x10002, 5] := by
  have fits : filledPacket.argLen.toNat ≤ maxArgs := by decide
  obtain ⟨sends, arrives, -⟩ := (wire_round_trip filledPacket).1 fits
  obtain ⟨r, e, sent, -, stopped⟩ := sends (.new 2)
  obtain ⟨rfl, queued, -⟩ := stopped (by decide)
  obtain ⟨peer, q, received, -, -, -, args, zero⟩ :=
    arrives { Endpoint.new 130 with outbound := filledPacket.wire } (.new 130) rfl rfl
  obtain ⟨e', again, words⟩ := (wire_round_trip q).2 _ _ _ _ received rfl (.new 130) (by decide)
  refine ⟨fits, rfl, ⟨e, sent, queued⟩, peer, q, received, args,
    zero 1 (by decide) (by decide), e', again, words⟩

end Transfer

end Coprocessor
