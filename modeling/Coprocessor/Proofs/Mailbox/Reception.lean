import Coprocessor.Proofs.Mailbox.Transfer

/-!
What receiving makes of any words that are waiting: a version, a header, the arguments that the
header declares, and at most as many surplus words as are discarded. Every other queue ends in an
error, which leaves in the packet what has arrived of it.
-/
namespace Coprocessor

open Act

/-- The opcode of a header word is its low half, the argument length its high half. -/
theorem toNat_unpackHeader (word : UInt32) :
    (unpackHeader word).1.toNat = word.toNat % 65536 ∧
      (unpackHeader word).2.toNat = word.toNat / 65536 := by
  have high : (word >>> 16).toNat = word.toNat / 65536 := by
    rw [UInt32.toNat_shiftRight]
    exact Nat.shiftRight_eq_div_pow ..
  have small : word.toNat / 65536 < 65536 := by
    have := word.toNat_lt
    omega
  simp only [unpackHeader, UInt32.toNat_toUInt16, high, true_and]
  exact Nat.mod_eq_of_lt small

/-- An empty queue is as it is when it is emptied. -/
theorem Endpoint.without_inbound {e : Endpoint} (empty : e.inbound = []) :
    { e with inbound := [] } = e := by
  rw [← empty]

namespace Transfer

/-! ## Packets as they arrive -/

/-- The buffer `data` with words placed one after the other from index `i` on. -/
def fill (data : Vector UInt32 128) : Nat → List UInt32 → Vector UInt32 128
  | _, [] => data
  | i, word :: rest => fill (data.setIfInBounds i word) (i + 1) rest

theorem getElem_fill {data : Vector UInt32 128} {i : Nat} {words : List UInt32} {k : Nat}
    (hk : k < 128) :
    (fill data i words)[k] = if i ≤ k then words[k - i]?.getD data[k] else data[k] := by
  induction words generalizing data i with
  | nil => simp [fill]
  | cons word rest ih =>
    -- `k` is the index of this word, of a later one, or before both
    rw [fill, ih, Vector.getElem_setIfInBounds hk]
    by_cases here : i = k
    · subst here
      rw [if_neg (by omega), if_pos rfl, if_pos (Nat.le_refl i), Nat.sub_self]
      rfl
    · by_cases later : i + 1 ≤ k
      · rw [if_pos later, if_neg here, if_pos (by omega), show k - i = k - (i + 1) + 1 by omega,
          List.getElem?_cons_succ]
      · rw [if_neg later, if_neg here, if_neg (by omega)]

theorem fill_zero (words : List UInt32) :
    fill (Vector.replicate 128 0) 0 words = Packet.buffer words := by
  apply Vector.ext
  intro k hk
  rw [getElem_fill hk, if_pos (Nat.zero_le k), Packet.buffer, Vector.getElem_ofFn,
    Vector.getElem_replicate, Nat.sub_zero]

/-- A packet as it arrives: the words after its arguments are zero. -/
def arrived (p : Packet) : Packet :=
  { p with data := Packet.buffer p.args }

@[simp] theorem opcode_arrived (p : Packet) : (arrived p).opcode = p.opcode := by
  rw [arrived]

@[simp] theorem toRequest_arrived (p : Packet) : (arrived p).toRequest = p.toRequest := by
  rw [Packet.toRequest, opcode_arrived, Packet.toRequest]

theorem args_arrived (p : Packet) : (arrived p).args = p.args := by
  rw [Packet.args, arrived, ← p.length_args]
  exact Packet.take_buffer p.length_args_le

theorem run_onBus {σ ρ α : Type} {x : Act Error σ α} {s s' : σ} {r : Except Error α}
    (h : x.run s = (r, s')) (p : ρ) : (x.within busPart).run (s, p) = (r, s', p) :=
  run_within_eq h

section Parts

variable {σ ε : Type} [RegisterBus σ ε] [Raises ε]

/-- Discards a surplus word, or gives a value if none is waiting. -/
def discardWord : Act ε σ (Option Unit) := do
  if ← Mailbox.canRead then
    let word ← Mailbox.takeWord
    Act.log (.surplusWord word)
    return none
  else
    return some ()

/-- What receiving does past the header. -/
def receiveDeclared (opcode argLen : UInt16) : Act ε (σ × Packet) Nat :=
  match argCount argLen with
  | .error e => do
    Act.log (.packetTooLong opcode argLen)
    Act.fail e
  | .ok len => do
    Act.modify fun (bus, p) => (bus, { p with argLen })
    readArgs len 0
    discardSurplus.within busPart
    Act.log (.packetReceived opcode len)
    return len

end Parts

variable {σ : Type} [RegisterBus σ Error]
variable {wrap : Endpoint → σ} (carries : Carries wrap)
include carries

/-! ## Arguments -/

theorem run_readArgs {e : Endpoint} {words rest : List UInt32} (waiting : e.inbound = words ++ rest)
    (i : Nat) (p : Packet) :
    (readArgs words.length i : Act Error (σ × Packet) Unit).run (wrap e, p) =
      (.ok (), wrap { e with inbound := rest }, { p with data := fill p.data i words }) := by
  induction words generalizing e i p with
  | nil =>
    rw [List.nil_append] at waiting
    subst waiting
    rfl
  | cons word later ih =>
    have first := run_onBus (Mailbox.run_readWord carries waiting) p
    rw [List.length_cons, readArgs, run_bind_ok first, run_modify_bind]
    exact ih rfl _ _

/-- Of arguments that do not all come, those waiting are in the buffer. -/
theorem run_readArgs_short {n : Nat} {e : Endpoint} {words : List UInt32}
    (waiting : e.inbound = words) (short : words.length < n) (i : Nat) (p : Packet) :
    (readArgs n i : Act Error (σ × Packet) Unit).run (wrap e, p) =
      (.error .channelNotReady, wrap { e with inbound := [] },
        { p with data := fill p.data i words }) := by
  induction words generalizing n e i p with
  | nil =>
    obtain ⟨n, rfl⟩ : ∃ m, n = m + 1 := ⟨n - 1, (Nat.succ_pred_eq_of_pos short).symm⟩
    rw [readArgs, run_bind_error (run_onBus (Mailbox.run_readWord_empty carries waiting) p),
      Endpoint.without_inbound waiting]
    rfl
  | cons word rest ih =>
    obtain ⟨n, rfl⟩ : ∃ m, n = m + 1 := ⟨n - 1, by omega⟩
    have first := run_onBus (Mailbox.run_readWord carries waiting) p
    rw [readArgs, run_bind_ok first, run_modify_bind]
    exact ih rfl (Nat.lt_of_succ_lt_succ short) _ _

/-! ## Surplus words -/

theorem run_discardWord_empty {e : Endpoint} (empty : e.inbound = []) :
    (discardWord : Act Error σ (Option Unit)).run (wrap e) = (.ok (some ()), wrap e) := by
  rw [discardWord, run_bind_ok (Mailbox.run_canRead carries e), empty]
  rfl

theorem run_discardWord {e : Endpoint} {word : UInt32} {rest : List UInt32}
    (waiting : e.inbound = word :: rest) :
    (discardWord : Act Error σ (Option Unit)).run (wrap e) =
      (.ok none, wrap { e with inbound := rest }) := by
  have taken := Mailbox.run_takeWord carries e
  rw [Endpoint.read_rdata_of_cons waiting] at taken
  rw [discardWord, run_bind_ok (Mailbox.run_canRead carries e), waiting, List.isEmpty_cons,
    Bool.not_false, if_pos rfl, run_bind_ok taken, run_log_bind, run_pure]

/-- The loop drops as many words as it may, and has ended before that only if it found the queue
empty. -/
theorem run_discardWords (n i : Nat) {e : Endpoint} {words : List UInt32}
    (waiting : e.inbound = words) :
    (firstSome n i fun _ => (discardWord : Act Error σ (Option Unit))).run (wrap e) =
      (.ok (if words.length < n then some () else none),
        wrap { e with inbound := words.drop n }) := by
  induction n generalizing i e words with
  | zero =>
    subst waiting
    rfl
  | succ n ih =>
    rw [firstSome_succ]
    cases words with
    | nil =>
      rw [run_bind_ok (run_discardWord_empty carries waiting), List.drop_nil,
        Endpoint.without_inbound waiting]
      rfl
    | cons word rest =>
      rw [run_bind_ok (run_discardWord carries waiting)]
      dsimp only
      rw [ih _ rfl, List.drop_succ_cons]
      simp only [List.length_cons, Nat.add_lt_add_iff_right]

/-- The words after a packet are dropped up to the limit; where more are waiting, those stay. -/
theorem run_discardSurplus {e : Endpoint} {words : List UInt32} (waiting : e.inbound = words) :
    (discardSurplus : Act Error σ Unit).run (wrap e) =
      (if words.length ≤ surplusLimit then .ok () else .error .timeout,
        wrap { e with inbound := words.drop surplusLimit }) := by
  have dropped := run_discardWords carries surplusLimit 0 waiting
  by_cases fewer : words.length < surplusLimit
  · rw [if_pos fewer] at dropped
    rw [if_pos (Nat.le_of_lt fewer)]
    exact run_bind_ok dropped _
  · rw [if_neg fewer] at dropped
    refine (run_bind_ok dropped _).trans ?_
    dsimp only
    rw [run_bind_ok (Mailbox.run_canRead carries _)]
    by_cases all : words.length ≤ surplusLimit
    · rw [if_pos all, List.drop_eq_nil_of_le all]
      rfl
    · have more : (words.drop surplusLimit).isEmpty = false := by
        rw [List.isEmpty_eq_false_iff, ne_eq, List.drop_eq_nil_iff]
        exact all
      rw [if_neg all, more]
      rfl

/-! ## A packet -/

/-- Nothing is received where nothing is waiting; the version word was taken on trust. -/
theorem run_receive_empty {e : Endpoint} (empty : e.inbound = []) (p : Packet) :
    (receive : Act Error (σ × Packet) Nat).run (wrap e, p) =
      (.error .channelNotReady, wrap { e with rxError := true }, { p with version := 0 }) := by
  have version := Mailbox.run_takeWord carries e
  rw [Endpoint.read_rdata_of_nil empty] at version
  have header : (Mailbox.readWord : Act Error σ UInt32).run (wrap { e with rxError := true }) =
      (.error .channelNotReady, wrap { e with rxError := true }) :=
    Mailbox.run_readWord_empty carries empty
  rw [receive, run_bind_ok (run_onBus version _), run_modify_bind,
    run_bind_error (run_onBus header _)]

theorem run_receive_headless {e : Endpoint} {version : UInt32} (waiting : e.inbound = [version])
    (p : Packet) :
    (receive : Act Error (σ × Packet) Nat).run (wrap e, p) =
      (.error .channelNotReady, wrap { e with inbound := [] }, { p with version }) := by
  have first := Mailbox.run_takeWord carries e
  rw [Endpoint.read_rdata_of_cons waiting] at first
  have header : (Mailbox.readWord : Act Error σ UInt32).run (wrap { e with inbound := [] }) =
      (.error .channelNotReady, wrap { e with inbound := [] }) :=
    Mailbox.run_readWord_empty carries rfl
  rw [receive, run_bind_ok (run_onBus first _), run_modify_bind,
    run_bind_error (run_onBus header _)]

/-- Past the version and the header, which are in the packet but for the argument length. -/
theorem run_receive_headed {e : Endpoint} {version header : UInt32} {words : List UInt32}
    (waiting : e.inbound = version :: header :: words) (p : Packet) :
    (receive : Act Error (σ × Packet) Nat).run (wrap e, p) =
      (receiveDeclared (unpackHeader header).1 (unpackHeader header).2).run
        (wrap { e with inbound := words }, { p with version, opcode := (unpackHeader header).1 }) := by
  have first := Mailbox.run_takeWord carries e
  rw [Endpoint.read_rdata_of_cons waiting] at first
  have second : (Mailbox.readWord : Act Error σ UInt32).run
      (wrap { e with inbound := header :: words }) = (.ok header, wrap { e with inbound := words }) :=
    Mailbox.run_readWord carries rfl
  rw [receive, run_bind_ok (run_onBus first _), run_modify_bind, run_bind_ok (run_onBus second _)]
  rfl

omit carries in
/-- A length that no packet can have is refused, and its words are not touched. -/
theorem run_receiveDeclared_tooLong {argLen : UInt16} (long : maxArgs < argLen.toNat)
    (opcode : UInt16) (s : σ × Packet) :
    (receiveDeclared opcode argLen).run s = (.error .invalidLength, s) := by
  rw [receiveDeclared, argCount, if_neg (Nat.not_le.mpr long)]
  rfl

/-- The declared words are read into the packet and surplus words are dropped. -/
theorem run_receiveDeclared {argLen : UInt16} (fits : argLen.toNat ≤ maxArgs) (opcode : UInt16)
    {e : Endpoint} {words : List UInt32} (waiting : e.inbound = words) (p : Packet) :
    (receiveDeclared opcode argLen).run (wrap e, p) =
      (if words.length < argLen.toNat then .error .channelNotReady
        else if words.length ≤ argLen.toNat + surplusLimit then .ok argLen.toNat
        else .error .timeout,
      wrap { e with inbound := words.drop (argLen.toNat + surplusLimit) },
      { p with argLen, data := fill p.data 0 (words.take argLen.toNat) }) := by
  rw [receiveDeclared, argCount_eq_ok_iff.mpr ⟨fits, rfl⟩]
  dsimp only
  rw [run_modify_bind]
  by_cases short : words.length < argLen.toNat
  · have args := run_readArgs_short carries waiting short 0 { p with argLen }
    rw [run_bind_error args, if_pos short, List.take_of_length_le (Nat.le_of_lt short),
      List.drop_eq_nil_of_le (by omega)]
  · have count : (words.take argLen.toNat).length = argLen.toNat :=
      List.length_take_of_le (Nat.not_lt.mp short)
    have parts : e.inbound = words.take argLen.toNat ++ words.drop argLen.toNat := by
      rw [waiting, List.take_append_drop]
    have args := run_readArgs carries parts 0 { p with argLen }
    rw [count] at args
    have surplus := run_onBus (run_discardSurplus carries
      (e := { e with inbound := words.drop argLen.toNat }) rfl)
      { p with argLen, data := fill p.data 0 (words.take argLen.toNat) }
    rw [List.drop_drop] at surplus
    rw [run_bind_ok args, if_neg short]
    by_cases all : words.length ≤ argLen.toNat + surplusLimit
    · rw [if_pos (by rw [List.length_drop]; omega)] at surplus
      rw [run_bind_ok surplus, if_pos all, run_log_bind, run_pure]
    · rw [if_neg (by rw [List.length_drop]; omega)] at surplus
      rw [run_bind_error surplus, if_neg all]

/-- The wire form of a packet is received as that packet, and nothing is left of it. -/
theorem run_receive_wire {p : Packet} {e : Endpoint} (fits : p.argLen.toNat ≤ maxArgs)
    (waiting : e.inbound = p.wire) :
    (receive : Act Error (σ × Packet) Nat).run (wrap e, .empty) =
      (.ok p.argLen.toNat, wrap { e with inbound := [] }, arrived p) := by
  have count : p.args.length = p.argLen.toNat := by
    rw [Packet.length_args, Nat.min_eq_left fits]
  have left : { e with inbound := p.args }.inbound = p.args := rfl
  rw [run_receive_headed carries waiting, Packet.header, unpackHeader_packHeader,
    run_receiveDeclared carries fits p.opcode left, if_neg (by omega), if_pos (by omega),
    List.take_of_length_le (by omega), List.drop_eq_nil_of_le (by omega)]
  simp only [Packet.empty, fill_zero, arrived]

theorem run_receiveFresh_wire {p : Packet} {e : Endpoint} (fits : p.argLen.toNat ≤ maxArgs)
    (waiting : e.inbound = p.wire) :
    (receiveFresh : Act Error σ Packet).run (wrap e) =
      (.ok (arrived p), wrap { e with inbound := [] }) := by
  rw [receiveFresh, run_bind_ok (run_withLocal_ok (run_receive_wire carries fits waiting)), run_pure]

/-- Without a word waiting nothing is received; the version word was taken on trust. -/
theorem run_receiveFresh_empty {e : Endpoint} (empty : e.inbound = []) :
    (receiveFresh : Act Error σ Packet).run (wrap e) =
      (.error .channelNotReady, wrap { e with rxError := true }) := by
  rw [receiveFresh, run_bind_error (run_withLocal_error (run_receive_empty carries empty .empty))]

omit carries in
theorem getElem_fill_take (data : Vector UInt32 128) (words : List UInt32) (n : Nat) {i : Nat}
    (hi : i < 128) :
    (fill data 0 (words.take n))[i] = if i < n then words[i]?.getD data[i] else data[i] := by
  rw [getElem_fill hi, if_pos (Nat.zero_le i), Nat.sub_zero, List.getElem?_take]
  split
  · rfl
  · rfl

omit carries in
/-- What is received from a queue of any length into any packet. Only a queue of a version, a header
with a length that fits, the arguments and not too many surplus words is a packet; everything else
is an error, and leaves what it found in the buffer and the words that it did not reach in the
queue. Nothing else of the endpoint changes, but that reading from an empty queue is recorded. -/
theorem receive_from_queue (e : Endpoint) (p : Packet) :
    ∃ r e' p', (receive : Act Error (Endpoint × Packet) Nat).run (e, p) = (r, e', p') ∧
      e' = { e with inbound := e'.inbound, rxError := e.rxError || e.inbound.isEmpty } ∧
      p'.version = e.inbound.headD 0 ∧
      (e.inbound.length < 2 →
        r = .error .channelNotReady ∧ e'.inbound = [] ∧ p' = { p with version := p'.version }) ∧
      ∀ version header words n, e.inbound = version :: header :: words → n = header.toNat / 65536 →
        p'.opcode.toNat = header.toNat % 65536 ∧
        (128 < n → r = .error .invalidLength ∧ e'.inbound = words ∧ p'.argLen = p.argLen ∧
          p'.data = p.data) ∧
        (n ≤ 128 → p'.argLen.toNat = n ∧
          (∀ i (hi : i < 128),
            p'.data[i] = if i < n then words[i]?.getD p.data[i] else p.data[i]) ∧
          (words.length < n → r = .error .channelNotReady ∧ e'.inbound = []) ∧
          (n ≤ words.length → words.length ≤ n + 512 → r = .ok n ∧ e'.inbound = []) ∧
          (n + 512 < words.length → r = .error .timeout ∧ e'.inbound = words.drop (n + 512))) := by
  rcases waiting : e.inbound with _ | ⟨version, _ | ⟨header, words⟩⟩
  · refine ⟨_, _, _, run_receive_empty Carries.id waiting p, ?_, rfl,
      fun _ => ⟨rfl, waiting, rfl⟩, nofun⟩
    simp
  · refine ⟨_, _, _, run_receive_headless Carries.id waiting p, ?_, rfl,
      fun _ => ⟨rfl, rfl, rfl⟩, nofun⟩
    simp
  · have headed := run_receive_headed Carries.id waiting p
    have opcode := (toNat_unpackHeader header).1
    have length := (toNat_unpackHeader header).2
    have whole : ¬ (version :: header :: words).length < 2 := by simp
    by_cases long : maxArgs < (unpackHeader header).2.toNat
    · rw [run_receiveDeclared_tooLong long] at headed
      refine ⟨_, _, _, headed, by simp, rfl, fun short => absurd short whole, ?_⟩
      intro version' header' words' n same count
      cases same
      rw [count, ← length]
      exact ⟨opcode, fun _ => ⟨rfl, rfl, rfl, rfl⟩, fun fits => absurd long (Nat.not_lt.mpr fits)⟩
    · have fits : (unpackHeader header).2.toNat ≤ maxArgs := Nat.not_lt.mp long
      have left : { e with inbound := words }.inbound = words := rfl
      rw [run_receiveDeclared Carries.id fits _ left] at headed
      refine ⟨_, _, _, headed, by simp, rfl, fun short => absurd short whole, ?_⟩
      intro version' header' words' n same count
      cases same
      rw [count, ← length]
      refine ⟨opcode, fun many => absurd many long, fun _ => ⟨rfl, ?_, ?_, ?_, ?_⟩⟩
      · intro i hi
        exact getElem_fill_take p.data words _ hi
      · intro short
        exact ⟨if_pos short, List.drop_eq_nil_of_le (by omega)⟩
      · intro enough few
        rw [if_neg (Nat.not_lt.mpr enough)]
        exact ⟨if_pos few, List.drop_eq_nil_of_le few⟩
      · intro many
        rw [if_neg (show ¬ words.length < _ by omega)]
        exact ⟨if_neg (Nat.not_le.mpr many), rfl⟩

end Transfer

end Coprocessor
