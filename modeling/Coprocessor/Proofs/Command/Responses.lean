import Coprocessor.Command.Commands
import Coprocessor.Proofs.Storage.Totality

/-!
What handlers answer. A handler reads the arguments of a request and nothing else in it, never
traps, and gives a response that fits in a packet and that the peer accepts.
-/
namespace Coprocessor

open Act

/-- An action that cannot fail does not fail on a region. -/
theorem Arena.exists_run_withRegion {ε α : Type} {len : Nat} (x : Act Empty (Vector UInt8 len) α)
    (addr : UInt32) (a : Arena) :
    ∃ result a', (withRegion addr len x.sure : Act ε Arena _).run a = (.ok result, a') := by
  simp only [Act.run, withRegion]
  cases a.offset? addr len with
  | error e => exact ⟨.error e, a, rfl⟩
  | ok i =>
    obtain ⟨r, run⟩ := Act.exists_run_sure (ε := ε) x (a.bytes i len)
    obtain ⟨result, state⟩ := run_eq_iff.mp run
    refine ⟨.ok r, a.place i (x.run (a.bytes i len)).2.toList, ?_⟩
    simp only [result, state]
    rfl

namespace Commands

/-! ## Which requests have a handler -/

section Handled

variable {δ : Type} [PageDevice δ] {code : UInt16}

theorem exists_handler (low : 1 ≤ code.toNat) (high : code.toNat ≤ 4) :
    ∃ op handler, Request.ofCode code = .ok op ∧ handler? (δ := δ) op = some handler := by
  obtain one | two | three | four : code.toNat = 1 ∨ code.toNat = 2 ∨ code.toNat = 3 ∨
      code.toNat = 4 := by omega
  · exact ⟨.knock, _, by rw [Request.ofCode, one]; rfl, rfl⟩
  · exact ⟨.offloadTransform, _, by rw [Request.ofCode, two]; rfl, rfl⟩
  · exact ⟨.sharedMemoryCompute, _, by rw [Request.ofCode, three]; rfl, rfl⟩
  · exact ⟨.persistentWrite, _, by rw [Request.ofCode, four]; rfl, rfl⟩

theorem no_handler (other : ¬ (1 ≤ code.toNat ∧ code.toNat ≤ 4)) {op : Request}
    (known : Request.ofCode code = .ok op) : handler? (δ := δ) op = none := by
  rw [Request.ofCode] at known
  split at known
  · cases known
    rfl
  all_goals first | omega | cases known

end Handled

/-! ## What a handler reads -/

theorem run_handler_congr {δ : Type} [PageDevice δ] {op : Request}
    {handler : Packet → Act Trap (Commands δ) Packet} (h : handler? op = some handler)
    {p q : Packet} (same : p.args = q.args) : (handler p).run = (handler q).run := by
  funext c
  cases op with
  | invalid => cases h
  | knock =>
    cases Option.some.inj h
    have answer : knock p = knock q := by rw [knock, knock, same]
    exact congrArg (fun r => (Pure.pure r : Act Trap (Commands δ) Packet).run c) answer
  | offloadTransform =>
    cases Option.some.inj h
    rw [offloadTransform, offloadTransform, same]
    -- the length that a short block is logged with is an event and not part of the run
    cases Block8.samplesOfWords q.args with
    | error e => rfl
    | ok block => rfl
  | sharedMemoryCompute =>
    cases Option.some.inj h
    rw [sharedMemoryCompute, sharedMemoryCompute, same]
  | persistentWrite =>
    cases Option.some.inj h
    rw [persistentWrite, persistentWrite, same]

/-! ## What it answers -/

/-- A response of a known kind whose arguments fit in a packet. -/
def Answer (response : Packet) : Prop :=
  ∃ r args, r ≠ .invalid ∧ args.length ≤ maxArgs ∧ response = respond r args

theorem answer_respond {r : Response} {args : List UInt32} (known : r ≠ .invalid)
    (fits : args.length ≤ maxArgs) : Answer (respond r args) :=
  ⟨r, args, known, fits, rfl⟩

section Lengths

variable {r : Response} {args : List UInt32}

theorem args_respond (fits : args.length ≤ maxArgs) : (respond r args).args = args := by
  have made : Packet.ofArgs r.code args = .ok (respond r args) := if_pos fits
  exact Packet.args_ofArgs made

theorem toNat_argLen_respond (fits : args.length ≤ maxArgs) :
    (respond r args).argLen.toNat = args.length := by
  have small : args.length < 65536 := Nat.lt_of_le_of_lt fits (by decide)
  show args.length.toUInt16.toNat = args.length
  rw [Nat.toUInt16_eq, UInt16.toNat_ofNat', Nat.mod_eq_of_lt small]

theorem Answer.fits {response : Packet} (h : Answer response) :
    response.argLen.toNat ≤ maxArgs := by
  obtain ⟨r, args, -, fits, rfl⟩ := h
  rwa [toNat_argLen_respond fits]

end Lengths

/-- Commands whose storage ends at an address. -/
def Addressable (c : Commands (TappedDevice PagedRam)) : Prop :=
  c.storage.device.base.toNat + c.storage.device.mem.size < 0x100000000

/-- The action never traps, and what it gives answers a request. -/
def Answers (x : Act Trap (Commands (TappedDevice PagedRam)) Packet) : Prop :=
  Triple Addressable x (fun response c => Answer response ∧ c.Addressable) fun _ _ => False

theorem Answers.respond {r : Response} {args : List UInt32} (known : r ≠ .invalid)
    (fits : args.length ≤ maxArgs) : Answers (Pure.pure (respond r args)) :=
  fun _ hc => ⟨answer_respond known fits, hc⟩

theorem Answers.bind {α : Type} {x : Act Trap (Commands (TappedDevice PagedRam)) α}
    {f : α → Act Trap (Commands (TappedDevice PagedRam)) Packet}
    (total : ∀ c : Commands (TappedDevice PagedRam), c.Addressable →
      ∃ a c', x.run c = (.ok a, c') ∧ c'.Addressable)
    (hf : ∀ a, Answers (f a)) : Answers (x >>= f) := by
  intro c hc
  obtain ⟨a, c', run, hc'⟩ := total c hc
  rw [run_bind_ok run]
  exact hf a c' hc'

theorem Answers.log_bind {m : Message} {f : Unit → Act Trap (Commands (TappedDevice PagedRam)) Packet}
    (hf : Answers (f ())) : Answers (Act.log m >>= f) :=
  Answers.bind (fun c hc => ⟨(), c, rfl, hc⟩) fun _ => hf

theorem answers_offloadTransform (request : Packet) : Answers (offloadTransform request) := by
  rw [offloadTransform]
  cases Block8.samplesOfWords request.args with
  | error e => exact Answers.log_bind (Answers.respond nofun (by decide))
  | ok block =>
    refine Answers.bind (fun c hc => ⟨c.transform, c, rfl, hc⟩) fun transform => ?_
    refine Answers.respond nofun ?_
    rw [Vector.length_toList]
    decide

theorem answers_sharedMemoryCompute (request : Packet) : Answers (sharedMemoryCompute request) := by
  rw [sharedMemoryCompute]
  cases request.args with
  | nil => exact Answers.log_bind (Answers.respond nofun (by decide))
  | cons addr rest =>
    refine Answers.log_bind ?_
    refine Answers.bind (fun c hc => ⟨c.generator, c, rfl, hc⟩) fun generator => ?_
    refine Answers.bind (fun c hc => ?_) fun made => ?_
    · obtain ⟨result, arena, run⟩ := Arena.exists_run_withRegion (ε := Trap) generator addr c.arena
      exact ⟨result, (arenaPart c).2 arena, run_within_eq run, hc⟩
    · cases made with
      | error e => exact Answers.log_bind (Answers.respond nofun (by decide))
      | ok done => exact Answers.respond nofun (by decide)

/-- A write that is refused is refused with an error. -/
theorem parseWrite_isError {window : WriteWindow} {args : List UInt32} {f : Failure}
    (short : args.length ≤ maxArgs) (h : parseWrite window args = .error f) : f.IsError := by
  unfold parseWrite at h
  split at h
  · next addr len words =>
    by_cases admits : window.Admits addr len
    · rw [WriteWindow.validate_eq_ok_iff.mpr admits] at h
      by_cases missing : words.length * 4 < len.toNat
      · rw [if_pos missing] at h
        cases h
        exact ⟨_, rfl⟩
      · have room : 0 + len.toNat ≤ (writeBuffer words).toList.length := by
          rw [Vector.length_toList]
          simp only [List.length_cons, maxArgs] at short
          omega
        rw [if_neg missing, slice_eq_ok room] at h
        cases h
    · rw [WriteWindow.validate_eq_error_iff.mpr ⟨admits, rfl⟩] at h
      cases h
      exact ⟨_, rfl⟩
  · cases h
    exact ⟨_, rfl⟩

/-- On a device that ends at an address a persistent write is answered, and what holds of the device
between its calls holds of it afterwards. -/
theorem triple_persistentWrite {δ : Type} [PageDevice δ] {P : δ → Prop} {top : Nat}
    (h : Storage.EndsBy P top) (addressable : top < 0x100000000) (request : Packet) :
    Triple (fun c : Commands δ => P c.storage) (persistentWrite request)
      (fun response c => Answer response ∧ P c.storage) fun _ _ => False := by
  have parses (window : WriteWindow) : Storage.Total (fun c : Commands δ => P c.storage)
      (ofExcept id (parseWrite window request.args)) := by
    intro c hc
    rw [run_ofExcept]
    cases parsed : parseWrite window request.args with
    | error f => exact ⟨parseWrite_isError request.length_args_le parsed, hc⟩
    | ok write => exact hc
  have stores (addr : UInt32) (data : List UInt8) : Triple (fun c : Commands δ => P c.storage)
      ((Storage.write addr data).settle.within storagePart) (fun _ c => P c.storage)
      fun _ _ => False :=
    (h.write addressable addr data).settle.within (fun _ hc => hc) (fun _ _ _ _ hd => hd)
      fun _ _ _ _ failed => failed
  rw [persistentWrite]
  refine Triple.bind ((Triple.gets Commands.window).post fun _ _ hc => hc.2) fun window => ?_
  refine Triple.bind (parses window).settle fun parsed => ?_
  cases parsed with
  | error e =>
    refine Triple.bind (Triple.log _) fun _ => Triple.pure fun c hc => ?_
    exact ⟨answer_respond nofun (by decide), hc⟩
  | ok write =>
    obtain ⟨addr, data⟩ := write
    refine Triple.bind (stores addr data) fun stored => ?_
    cases stored with
    | error e =>
      refine Triple.bind (Triple.log _) fun _ => Triple.pure fun c hc => ?_
      exact ⟨answer_respond nofun (by decide), hc⟩
    | ok done => exact Triple.pure fun c hc => ⟨answer_respond nofun (by simp [maxArgs]), hc⟩

theorem answers_persistentWrite (request : Packet) : Answers (persistentWrite request) := by
  intro c hc
  have spans : Storage.Spans c.storage.device.base c.storage.device.mem.size c.storage := ⟨rfl, rfl⟩
  obtain ⟨response, c', run, answer, base, size⟩ :=
    (triple_persistentWrite (Storage.endsBy_spans hc) hc request).exists_ok spans
  rw [run]
  refine ⟨answer, ?_⟩
  rw [Addressable, base, size]
  exact hc

/-- Whatever a request says, its handler answers it. -/
theorem answers_handler {op : Request}
    {handler : Packet → Act Trap (Commands (TappedDevice PagedRam)) Packet}
    (h : handler? op = some handler) (request : Packet) : Answers (handler request) := by
  cases op with
  | invalid => cases h
  | knock =>
    cases Option.some.inj h
    exact Answers.respond nofun (by simp [maxArgs])
  | offloadTransform =>
    cases Option.some.inj h
    exact answers_offloadTransform request
  | sharedMemoryCompute =>
    cases Option.some.inj h
    exact answers_sharedMemoryCompute request
  | persistentWrite =>
    cases Option.some.inj h
    exact answers_persistentWrite request

/-! ## What it answers on any device -/

/-- The answer to a request of kind `op`. Commands answer with no argument, with one or with the
words of a block. -/
def AnswerTo (op : Request) (response : Packet) : Prop :=
  ∃ r args, op.answer? = some r ∧ (args.length = 0 ∨ args.length = 1 ∨ args.length = 32) ∧
    response = respond r args

theorem fits_of_lengths {args : List UInt32}
    (lengths : args.length = 0 ∨ args.length = 1 ∨ args.length = 32) : args.length ≤ maxArgs := by
  rw [maxArgs]
  omega

theorem AnswerTo.answer {op : Request} {response : Packet} (h : AnswerTo op response) :
    Answer response := by
  obtain ⟨r, args, asked, lengths, rfl⟩ := h
  refine answer_respond ?_ (fits_of_lengths lengths)
  rintro rfl
  cases op <;> cases asked

section AnyDevice

variable {δ : Type} [PageDevice δ]

/-- Whatever packet the action gives, it answers a request of kind `op`. -/
def GivesTo (op : Request) (x : Act Trap (Commands δ) Packet) : Prop :=
  ∀ c r c', x.run c = (.ok r, c') → AnswerTo op r

omit [PageDevice δ] in
theorem GivesTo.respond {op : Request} {r : Response} {args : List UInt32}
    (asked : op.answer? = some r) (lengths : args.length = 0 ∨ args.length = 1 ∨ args.length = 32) :
    GivesTo op (Pure.pure (Commands.respond r args) : Act Trap (Commands δ) Packet) := by
  intro c response c' run
  cases run
  exact ⟨r, args, asked, lengths, rfl⟩

omit [PageDevice δ] in
theorem GivesTo.bind {op : Request} {α : Type} {x : Act Trap (Commands δ) α}
    {f : α → Act Trap (Commands δ) Packet} (hf : ∀ a, GivesTo op (f a)) : GivesTo op (x >>= f) := by
  intro c r c' run
  obtain ⟨a, c₁, -, rest⟩ := run_bind_eq_ok run
  exact hf a c₁ r c' rest

theorem givesTo_handler {op : Request} {handler : Packet → Act Trap (Commands δ) Packet}
    (h : handler? op = some handler) (request : Packet) : GivesTo op (handler request) := by
  cases op with
  | invalid => cases h
  | knock =>
    cases Option.some.inj h
    exact GivesTo.respond rfl (.inr (.inl rfl))
  | offloadTransform =>
    cases Option.some.inj h
    rw [offloadTransform]
    cases Block8.samplesOfWords request.args with
    | error e => exact GivesTo.bind fun _ => GivesTo.respond rfl (.inl rfl)
    | ok block =>
      exact GivesTo.bind fun transform =>
        GivesTo.respond rfl (.inr (.inr (Vector.length_toList ..)))
  | sharedMemoryCompute =>
    cases Option.some.inj h
    rw [sharedMemoryCompute]
    cases request.args with
    | nil => exact GivesTo.bind fun _ => GivesTo.respond rfl (.inr (.inl rfl))
    | cons addr rest =>
      refine GivesTo.bind fun _ => GivesTo.bind fun generator => GivesTo.bind fun made => ?_
      cases made with
      | error e => exact GivesTo.bind fun _ => GivesTo.respond rfl (.inr (.inl rfl))
      | ok done => exact GivesTo.respond rfl (.inl rfl)
  | persistentWrite =>
    cases Option.some.inj h
    rw [persistentWrite]
    refine GivesTo.bind fun window => GivesTo.bind fun parsed => ?_
    cases parsed with
    | error e => exact GivesTo.bind fun _ => GivesTo.respond rfl (.inr (.inl rfl))
    | ok write =>
      refine GivesTo.bind fun stored => ?_
      cases stored with
      | error e => exact GivesTo.bind fun _ => GivesTo.respond rfl (.inr (.inl rfl))
      | ok done => exact GivesTo.respond rfl (.inr (.inl rfl))

/-- The handler of the request makes this response, and leaves the commands as `c'`. -/
def Replies (c : Commands δ) (request response : Packet) (c' : Commands δ) : Prop :=
  ∃ op handler, request.toRequest = .ok op ∧ handler? op = some handler ∧
    (handler request).run c = (.ok response, c')

theorem Replies.answer {c c' : Commands δ} {request response : Packet}
    (h : Replies c request response c') : Answer response := by
  obtain ⟨op, handler, -, found, handled⟩ := h
  exact (givesTo_handler found request c response c' handled).answer

/-- Requests with their responses, handled one after the other. -/
inductive Serves : Commands δ → List (Packet × Packet) → Commands δ → Prop where
  | nil (c : Commands δ) : Serves c [] c
  | cons {c c₁ c' : Commands δ} {request response : Packet} {rest : List (Packet × Packet)}
      (replies : Replies c request response c₁) (later : Serves c₁ rest c') :
      Serves c ((request, response) :: rest) c'

end AnyDevice

end Commands

end Coprocessor
