import Coprocessor.Proofs.Act.Relates
import Coprocessor.Proofs.Firmware.Service
import Coprocessor.Proofs.Mailbox.FlowControl

/-!
What a response depends on. A dispatch cycle gets from the queue no more than the opcode and the
arguments of a request: not the version, and not the words past the arguments. And a handler gets no
more of its request than the arguments, so what is left in a buffer does not show.
-/
namespace Coprocessor

open Act

/-- The same effects in the same order, whatever messages are reported. -/
def Comparison.effects : Comparison :=
  .apartFrom fun e => e.message?.isSome

/-! ## Handlers -/

namespace Commands

variable {δ : Type}

theorem relates_logs {ε σ : Type} (m m' : Message) :
    Relates .effects Eq (Act.log m : Act ε σ Unit) (Act.log m') := by
  rintro s _ rfl
  exact ⟨rfl, rfl, rfl⟩

/-- A handler does the same for requests with the same arguments. The length that a short block is
reported with is the one thing that comes from elsewhere in the request. -/
theorem relates_handler [PageDevice δ] {op : Request}
    {handler : Packet → Act Trap (Commands δ) Packet} (found : handler? op = some handler)
    {p q : Packet} (same : p.args = q.args) :
    Relates .effects Eq (handler p) (handler q) := by
  cases op with
  | invalid => cases found
  | knock =>
    cases Option.some.inj found
    have answer : knock p = knock q := by rw [knock, knock, same]
    show Relates .effects Eq (Pure.pure (knock p)) (Pure.pure (knock q))
    rw [answer]
    exact Relates.pure _
  | offloadTransform =>
    cases Option.some.inj found
    rw [offloadTransform, offloadTransform, same]
    cases Block8.samplesOfWords q.args with
    | error e => exact (relates_logs _ _).bind fun _ => Relates.pure _
    | ok block => exact Relates.same _
  | sharedMemoryCompute =>
    cases Option.some.inj found
    rw [sharedMemoryCompute, sharedMemoryCompute, same]
    exact Relates.same _
  | persistentWrite =>
    cases Option.some.inj found
    rw [persistentWrite, persistentWrite, same]
    exact Relates.same _

end Commands

/-! ## Receiving -/

namespace Transfer

variable {σ : Type} [RegisterBus σ Error] {wrap : Endpoint → σ}

/-- The packet that is received where its header and arguments arrive. -/
def declared (version header : UInt32) (args : List UInt32) : Packet where
  version
  opcode := (unpackHeader header).1
  argLen := (unpackHeader header).2
  data := Packet.buffer args

/-- The words after the declared arguments leave no trace. -/
theorem run_receiveFresh_declared (carries : Carries wrap) {e : Endpoint}
    {version header : UInt32} {args surplus : List UInt32}
    (waiting : e.inbound = version :: header :: (args ++ surplus))
    (length : header.toNat / 65536 = args.length) (fits : args.length ≤ maxArgs)
    (few : surplus.length ≤ surplusLimit) :
    (receiveFresh : Act Error σ Packet).run (wrap e) =
      (.ok (declared version header args), wrap { e with inbound := [] }) := by
  have count : (unpackHeader header).2.toNat = args.length := by
    rw [(toNat_unpackHeader header).2, length]
  have words : (args ++ surplus).length = args.length + surplus.length := List.length_append
  have received : (receive : Act Error (σ × Packet) Nat).run (wrap e, .empty) =
      (.ok args.length, wrap { e with inbound := [] }, declared version header args) := by
    have left : { e with inbound := args ++ surplus }.inbound = args ++ surplus := rfl
    rw [run_receive_headed carries waiting, run_receiveDeclared carries (by omega) _ left, count,
      if_neg (by omega), if_pos (by omega), List.take_left, List.drop_eq_nil_of_le (by omega)]
    simp only [Packet.empty, fill_zero, declared]
  rw [receiveFresh, run_bind_ok (run_withLocal_ok received), run_pure]

end Transfer

/-! ## Dispatch cycles -/

namespace Firmware

/-- An answer depends on no more of a request than its opcode and its arguments. -/
theorem run_answer_congr {μ δ : Type} [RegisterBus μ Error] [PageDevice δ] {p q : Packet}
    (opcode : p.opcode = q.opcode) (args : p.args = q.args) :
    (answer p : Act Trap (μ × Commands δ) CycleOutcome).run = (answer q).run := by
  have request : p.toRequest = q.toRequest := congrArg Request.ofCode opcode
  funext ⟨m, c⟩
  rcases unknown_or_handled (δ := δ) p with unknown | ⟨op, handler, known, found⟩
  · rw [run_answer_ignored p (m, c) unknown,
      run_answer_ignored q (m, c) (by rwa [← request]), opcode]
  · rw [run_answer_handled known found, run_answer_handled (request ▸ known) found,
      Commands.run_handler_congr found args]

/-- Firmware with other words waiting for it. -/
def holding (f : SimulatedFirmware) (words : List UInt32) : SimulatedFirmware :=
  { f with mailbox := { f.mailbox with bus := { f.mailbox.bus with inbound := words } } }

@[simp] theorem commands_holding (f : SimulatedFirmware) (words : List UInt32) :
    (f.holding words).commands = f.commands :=
  rfl

variable {f : SimulatedFirmware}

/-- What is received from an unmasked mailbox where every access works. -/
theorem run_receiveFresh_holding (unmasked : f.mailbox = .clear f.mailbox.bus)
    {version header : UInt32} {args surplus : List UInt32}
    (length : header.toNat / 65536 = args.length) (fits : args.length ≤ maxArgs)
    (few : surplus.length ≤ Transfer.surplusLimit) :
    (Transfer.receiveFresh : Act Error (TappedBus Endpoint) Packet).run
        (f.holding (version :: header :: (args ++ surplus))).mailbox =
      (.ok (Transfer.declared version header args), (f.holding []).mailbox) := by
  have clear (words : List UInt32) :
      (f.holding words).mailbox = .clear { f.mailbox.bus with inbound := words } := by
    rw [holding, unmasked]
    rfl
  rw [clear, clear]
  exact Transfer.run_receiveFresh_declared Carries.clear rfl length fits few

/-- Sending reads no words. -/
theorem keeps_inbound_send (words : List UInt32) (response : Packet) :
    Keeps (fun m : TappedBus Endpoint => m.bus.inbound = words)
      (Transfer.send response : Act Error (TappedBus Endpoint) Nat) := by
  apply Transfer.keeps_send
  · intro t waiting
    rw [TappedBus.run_read]
    split
    · exact waiting
    · exact waiting
  · intro r value _ t waiting
    rw [TappedBus.run_write]
    split
    · exact waiting
    · exact (t.bus.inbound_write r value).trans waiting
  · intro t waiting
    exact waiting

/-- Answering reads no words. -/
theorem keeps_inbound_answer (words : List UInt32) (request : Packet) :
    Keeps (fun parts : TappedBus Endpoint × Commands (TappedDevice PagedRam) =>
      parts.1.bus.inbound = words) (answer request) :=
  keeps_answer (keeps_inbound_send words) request

/-- A cycle for a request that arrives with its arguments. The version and the words after the
arguments are not in what it comes to. -/
theorem exists_run_declared (unmasked : f.mailbox = .clear f.mailbox.bus)
    (addressable : f.commands.Addressable) {header : UInt32} {args : List UInt32}
    (length : header.toNat / 65536 = args.length) (fits : args.length ≤ maxArgs) :
    ∃ g outcome, g.lastOutcome = some outcome ∧ g.mailbox.bus.inbound = [] ∧
      ∀ version surplus, surplus.length ≤ Transfer.surplusLimit →
        runCycle.run (f.holding (version :: header :: (args ++ surplus))) = (.ok (), g) := by
  obtain ⟨outcome, m, c, answered, -⟩ := exists_answered addressable
    (Transfer.declared 0 header args) (f.holding []).mailbox
  refine ⟨f.finished (m, c) outcome, outcome, rfl, ?_, ?_⟩
  · have kept := keeps_inbound_answer [] (Transfer.declared 0 header args)
      ((f.holding []).mailbox, f.commands) rfl
    rwa [answered] at kept
  · intro version surplus few
    have same : (answer (Transfer.declared version header args) :
        Act Trap (TappedBus Endpoint × Commands (TappedDevice PagedRam)) CycleOutcome).run =
          (answer (Transfer.declared 0 header args)).run := run_answer_congr rfl rfl
    rw [run_runCycle, run_receiveFresh_holding unmasked length fits few]
    dsimp only
    rw [same, commands_holding, answered]
    rfl

/-- A response depends on nothing but the opcode and the arguments of the request. Two cycles that
differ in no more than the version and the surplus words of what is waiting come to the same outcome
and leave the same firmware, with nothing waiting. And a handler gives the same response and the
same effects for two requests with the same arguments, whatever else is in them. -/
theorem response_of_opcode_and_args :
    (∀ (f : SimulatedFirmware), f.mailbox = .clear f.mailbox.bus → f.commands.Addressable →
      ∀ (header : UInt32) (args : List UInt32), header.toNat / 65536 = args.length →
        args.length ≤ 128 →
        ∀ (version₁ version₂ : UInt32) (surplus₁ surplus₂ : List UInt32), surplus₁.length ≤ 512 →
          surplus₂.length ≤ 512 → ∃ g outcome,
            runCycle.run (f.holding (version₁ :: header :: (args ++ surplus₁))) = (.ok (), g) ∧
            runCycle.run (f.holding (version₂ :: header :: (args ++ surplus₂))) = (.ok (), g) ∧
            g.lastOutcome = some outcome ∧ g.mailbox.bus.inbound = []) ∧
    ∀ {δ : Type} [PageDevice δ] (op : Request) (handler : Packet → Act Trap (Commands δ) Packet),
      Commands.handler? op = some handler → ∀ p q : Packet, p.args = q.args → ∀ c,
        (handler p c).Matches .effects Eq (handler q c) := by
  constructor
  · intro f unmasked addressable header args length fits version₁ version₂ surplus₁ surplus₂ few₁
      few₂
    obtain ⟨g, outcome, noted, empty, ran⟩ := exists_run_declared unmasked addressable length fits
    exact ⟨g, outcome, ran version₁ surplus₁ few₁, ran version₂ surplus₂ few₂, noted, empty⟩
  · intro δ _ op handler found p q same c
    exact Commands.relates_handler found same c c rfl

/-- A knock with two arguments of another revision and with words after it. -/
theorem response_of_knock :
    (∃ g, runCycle.run (twoPages.holding [0, 0x00020001, 5, 6]) = (.ok (), g) ∧
      runCycle.run (twoPages.holding [9, 0x00020001, 5, 6, 7, 8]) = (.ok (), g) ∧
      g.lastOutcome = some (.responded 128 1) ∧
      g.mailbox.bus.outbound = (Commands.respond .knock [3]).wire) ∧
    ∀ c : Commands (TappedDevice PagedRam),
      ((Commands.offloadTransform (.ofRequest .knock)) c).Matches .effects Eq
        (Commands.offloadTransform { Packet.ofRequest .invalid with version := 9 } c) := by
  obtain ⟨cycles, handlers⟩ := response_of_opcode_and_args
  constructor
  · obtain ⟨g, outcome, first, second, -, -⟩ := cycles twoPages rfl addressable_twoPages 0x00020001
      [5, 6] (by decide) (by decide) 0 9 [] [7, 8] (by decide) (by decide)
    have noted : (runCycle.run (twoPages.holding [0, 0x00020001, 5, 6])).2.lastOutcome =
        some (.responded 128 1) := by
      decide +kernel
    have sent : (runCycle.run (twoPages.holding [0, 0x00020001, 5, 6])).2.mailbox.bus.outbound =
        (Commands.respond .knock [3]).wire := by
      decide +kernel
    have ran : runCycle.run (twoPages.holding [0, 0x00020001, 5, 6]) = (.ok (), g) := first
    rw [ran] at noted sent
    exact ⟨g, first, second, noted, sent⟩
  · exact handlers .offloadTransform Commands.offloadTransform rfl _ _ rfl

end Firmware

end Coprocessor
