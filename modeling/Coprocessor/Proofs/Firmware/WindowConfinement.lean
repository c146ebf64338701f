import Coprocessor.Kernel.CosineTransform
import Coprocessor.Proofs.Firmware.Cycle
import Coprocessor.Proofs.Storage.Confinement
import Coprocessor.Simulation.Bench

/-!
Whatever happens to the firmware, storage outside the write window stays as it is: over any run of
words arriving, dispatch cycles, aborts, direct calls of handlers and device faults.
-/
namespace Coprocessor

open Act

/-! ## The handlers -/

namespace Commands

/-- What a write that was let through consists of. -/
theorem parseWrite_eq_ok {window : WriteWindow} {args : List UInt32} {addr : UInt32}
    {data : List UInt8} (h : parseWrite window args = .ok (addr, data)) :
    ∃ len words, args = addr :: len :: words ∧ window.Admits addr len ∧
      len.toNat ≤ words.length * 4 ∧ data.length = len.toNat ∧
      data = (writeBuffer words).toList.take len.toNat := by
  unfold parseWrite at h
  split at h
  · next first len words =>
    by_cases admits : window.Admits first len
    · rw [WriteWindow.validate_eq_ok_iff.mpr admits] at h
      by_cases missing : words.length * 4 < len.toNat
      · rw [if_pos missing] at h
        cases h
      · rw [if_neg missing] at h
        by_cases room : 0 + len.toNat ≤ (writeBuffer words).toList.length
        · rw [slice_eq_ok room] at h
          cases h
          refine ⟨len, words, rfl, admits, by omega, ?_, rfl⟩
          rw [List.length_take_of_le]
          rwa [Nat.zero_add] at room
        · rw [slice, if_neg room] at h
          cases h
    · rw [WriteWindow.validate_eq_error_iff.mpr ⟨admits, rfl⟩] at h
      cases h
  · cases h

/-- Commands that write inside the window `w`, and a device that has the contents of `d₀`
outside it. -/
structure Confined (w : WriteWindow) (d₀ : PagedRam) (c : Commands (TappedDevice PagedRam)) :
    Prop where
  window : c.window = w
  storage : TappedDevice.Confined w d₀ c.storage

variable {w : WriteWindow} {d₀ : PagedRam}

theorem keeps_persistentWrite (request : Packet) :
    Keeps (Confined w d₀) (persistentWrite request) := by
  rw [persistentWrite]
  refine (Triple.bind (Triple.gets Commands.window) fun window => ?_).keeps
  -- what the parser let through is inside the window that it was given
  refine Triple.bind (R := fun r c => (∀ a, r = .ok a → parseWrite window request.args = .ok a) ∧
    window = w ∧ Confined w d₀ c) ?_ fun r => ?_
  · exact (Triple.settle_ofExcept id _).mono (fun c hc => ⟨hc.1.trans hc.2.window, hc.2⟩)
      (fun _ _ hq => hq) (fun _ _ he => he.2)
  refine Triple.of_fact fun parsed => Triple.of_fact fun own => ?_
  cases r with
  | error e => exact ((Keeps.log _).bind fun _ => Keeps.pure _).triple
  | ok write =>
    obtain ⟨addr, data⟩ := write
    subst own
    obtain ⟨len, words, -, admits, -, length, -⟩ := parseWrite_eq_ok (parsed _ rfl)
    have stored : Keeps (TappedDevice.Confined window d₀) (Storage.write addr data) :=
      Storage.keeps_write fun k hk => admits.contains (length ▸ hk)
    have inside : Keeps (Confined window d₀)
        ((Storage.write addr data).settle.within storagePart) := by
      refine Keeps.within stored.settle ?_ ?_
      · exact fun c hc => hc.storage
      · exact fun c d hc hd => ⟨hc.window, hd⟩
    refine (inside.bind fun stored => ?_).triple
    cases stored with
    | ok done => exact Keeps.pure _
    | error e => exact (Keeps.log _).bind fun _ => Keeps.pure _

theorem keeps_handler {op : Request}
    {handler : Packet → Act Trap (Commands (TappedDevice PagedRam)) Packet}
    (h : handler? op = some handler) (request : Packet) :
    Keeps (Confined w d₀) (handler request) := by
  cases op with
  | invalid => cases h
  | knock =>
    cases Option.some.inj h
    exact Keeps.pure _
  | offloadTransform =>
    cases Option.some.inj h
    rw [offloadTransform]
    cases Block8.samplesOfWords request.args with
    | error e => exact (Keeps.log _).bind fun _ => Keeps.pure _
    | ok block => exact (Keeps.gets _).bind fun _ => Keeps.pure _
  | sharedMemoryCompute =>
    cases Option.some.inj h
    rw [sharedMemoryCompute]
    cases request.args with
    | nil => exact (Keeps.log _).bind fun _ => Keeps.pure _
    | cons addr rest =>
      refine (Keeps.log _).bind fun _ => (Keeps.gets _).bind fun generator => ?_
      refine (Keeps.beside (fun c arena hc => ⟨hc.window, hc.storage⟩) _).bind fun made => ?_
      cases made with
      | error e => exact (Keeps.log _).bind fun _ => Keeps.pure _
      | ok done => exact Keeps.pure _
  | persistentWrite =>
    cases Option.some.inj h
    exact keeps_persistentWrite request

end Commands

/-! ## The firmware -/

/-- The committed byte at an address of the address space, if the device has one there. -/
def PagedRam.byteAt (d : PagedRam) (addr : Nat) : Option UInt8 :=
  if d.base.toNat ≤ addr then d.mem[addr - d.base.toNat]? else none

theorem PagedRam.Confined.byteAt {w : WriteWindow} {d₀ d : PagedRam} (h : Confined w d₀ d)
    {addr : Nat} (outside : ¬ w.Contains addr) : d.byteAt addr = d₀.byteAt addr := by
  simp only [PagedRam.byteAt, h.base]
  split
  · next start =>
    apply h.kept
    rwa [Nat.add_sub_cancel' start]
  · rfl

/-- What may happen to a running firmware. None of it is a call of the device that bypasses the
handlers. -/
inductive Happening (μ κ : Type) where
  /-- Words arrive, or the mailbox changes from outside in any other way. -/
  | mailbox (change : μ → μ)
  /-- Sources are triggered, or the interrupt controller changes in any other way. -/
  | controller (change : κ → κ)
  /-- The calls of the device that fail from now on are other ones. -/
  | faults (plan : List (Fault PageOperation))
  /-- The handler of a source runs: a whole dispatch cycle, or an abort. -/
  | service (s : Source)
  /-- Pending sources are serviced, over vectors of this priority. -/
  | serviceUpTo (priority : UInt8) (limit : Nat)
  /-- One phase of a dispatch cycle runs. -/
  | phase
  /-- The handler of a request is called directly. -/
  | command (op : Request) (request : Packet)

section

variable {μ κ : Type} [RegisterBus μ Error] [InterruptController κ]

/-- What a happening does. A trap ends it where it is. -/
def Happening.act :
    Happening μ κ → Act Trap (Firmware μ κ (TappedDevice PagedRam)) Unit
  | mailbox change => Act.modify fun f => { f with mailbox := change f.mailbox }
  | controller change => Act.modify fun f => { f with controller := change f.controller }
  | faults plan => Act.modify fun f => { f with commands.storage.faults := plan }
  | service s => Firmware.service s
  | serviceUpTo priority limit =>
    match Firmware.vectorTable priority with
    | .ok table => do let _ ← table.serviceUpTo limit
    | .error _ => pure ()
  | phase => Firmware.advance
  | command op request =>
    match Commands.handler? op with
    | some handler => do let _ ← (handler request).within Firmware.commandsPart
    | none => pure ()

/-- The firmware after one thing after the other has happened, traps included. -/
def Firmware.after (f : Firmware μ κ (TappedDevice PagedRam)) (happenings : List (Happening μ κ)) :
    Firmware μ κ (TappedDevice PagedRam) :=
  happenings.foldl (fun f h => (h.act.run f).2) f

end

namespace Firmware

variable {μ κ : Type} {w : WriteWindow} {d₀ : PagedRam}

/-- Commands that are confined, in firmware that may be in any phase. -/
def Confined (w : WriteWindow) (d₀ : PagedRam) (f : Firmware μ κ (TappedDevice PagedRam)) : Prop :=
  Commands.Confined w d₀ f.commands

theorem keeps_onMailbox {ε α : Type} (x : Act ε μ α) :
    Keeps (Confined w d₀) (x.within mailboxPart : Act ε (Firmware μ κ _) α) :=
  Keeps.beside (fun _ _ hf => hf) x

theorem keeps_onCommands {α : Type} {x : Act Trap (Commands (TappedDevice PagedRam)) α}
    (h : Keeps (Commands.Confined w d₀) x) :
    Keeps (Confined w d₀) (x.within commandsPart : Act Trap (Firmware μ κ _) α) :=
  h.within (fun _ hf => hf) fun _ _ _ hc => hc

/-! ### One phase after the other -/

theorem keeps_runCommand (request : Packet) :
    Keeps (Confined w d₀) (runCommand request : Act Trap (Firmware μ κ _) Phase) := by
  rw [runCommand]
  cases request.toRequest with
  | error e => exact (Keeps.log _).bind fun _ => Keeps.pure _
  | ok op =>
    dsimp only
    cases found : Commands.handler? (δ := TappedDevice PagedRam) op with
    | none => exact (Keeps.log _).bind fun _ => Keeps.pure _
    | some handler =>
      exact (keeps_onCommands (Commands.keeps_handler found request)).bind fun _ => Keeps.pure _

variable [RegisterBus μ Error]

theorem keeps_receiveRequest :
    Keeps (Confined w d₀) (receiveRequest : Act Trap (Firmware μ κ _) Phase) := by
  refine (keeps_onMailbox Transfer.receiveFresh).attempt.bind fun received => ?_
  cases received with
  | error e => exact (Keeps.log _).bind fun _ => Keeps.pure _
  | ok request => exact (Keeps.log _).bind fun _ => Keeps.pure _

theorem keeps_sendResponse (response : Packet) :
    Keeps (Confined w d₀) (sendResponse response : Act Trap (Firmware μ κ _) Phase) := by
  refine (keeps_onMailbox (Transfer.send response)).attempt.bind fun sent => ?_
  cases sent with
  | error e => exact (Keeps.log _).bind fun _ => Keeps.pure _
  | ok len => exact Keeps.pure _

variable [InterruptController κ]

omit [RegisterBus μ Error] in
theorem keeps_close (outcome : CycleOutcome) :
    Keeps (Confined w d₀) (close outcome : Act Trap (Firmware μ κ _) Phase) := by
  rw [close]
  refine Keeps.bind (Keeps.beside (fun _ _ hf => hf) _) fun _ => ?_
  exact Keeps.bind (Keeps.modify fun _ hf => hf) fun _ => Keeps.pure _

theorem keeps_advance :
    Keeps (Confined w d₀) (advance : Act Trap (Firmware μ κ _) Unit) := by
  rw [advance_eq]
  refine (Keeps.gets Firmware.phase).bind fun phase => Keeps.bind ?_ fun next =>
    Keeps.modify fun f hf => hf
  cases phase with
  | idle => exact Keeps.pure _
  | receiving => exact keeps_receiveRequest
  | dispatching request => exact keeps_runCommand request
  | responding response => exact keeps_sendResponse response
  | closing outcome => exact keeps_close outcome

theorem keeps_advances (n : Nat) :
    Keeps (Confined w d₀) (advances n : Act Trap (Firmware μ κ _) Unit) := by
  induction n with
  | zero => exact Keeps.pure ()
  | succ n ih => exact keeps_advance.bind fun _ => ih

theorem keeps_runCycle : Keeps (Confined w d₀) (runCycle : Act Trap (Firmware μ κ _) Unit) := by
  rw [runCycle, begin]
  exact Keeps.bind (Keeps.modify fun _ hf => hf) fun _ => keeps_advances 4

theorem keeps_serviceAbort :
    Keeps (Confined w d₀) (serviceAbort : Act Trap (Firmware μ κ _) Unit) := by
  rw [serviceAbort]
  exact Keeps.bind (Keeps.beside (fun _ _ hf => hf) _) fun _ => Keeps.modify fun _ hf => hf

theorem keeps_service (s : Source) :
    Keeps (Confined w d₀) (service s : Act Trap (Firmware μ κ _) Unit) := by
  cases s with
  | mailboxAvailable => exact keeps_runCycle
  | mailboxAbort => exact keeps_serviceAbort

/-- The states of every happening are confined, also where a trap ended it early. -/
theorem keeps_happening (h : Happening μ κ) : Keeps (Firmware.Confined w d₀) h.act := by
  cases h with
  | mailbox change => exact Keeps.modify fun _ hf => hf
  | controller change => exact Keeps.modify fun _ hf => hf
  | faults plan => exact Keeps.modify fun _ hf => ⟨hf.window, hf.storage⟩
  | service s => exact keeps_service s
  | serviceUpTo priority limit =>
    rw [Happening.act, vectorTable_eq]
    refine (VectorTable.keeps_serviceUpTo (fun _ _ hf => hf) ?_ limit).bind fun _ => Keeps.pure ()
    simp only [List.forall_mem_cons, List.not_mem_nil, false_imp_iff, implies_true, and_true]
    exact ⟨keeps_service .mailboxAvailable, keeps_service .mailboxAbort⟩
  | phase => exact keeps_advance
  | command op request =>
    rw [Happening.act]
    cases found : Commands.handler? (δ := TappedDevice PagedRam) op with
    | none => exact Keeps.pure ()
    | some handler =>
      exact (keeps_onCommands (Commands.keeps_handler found request)).bind fun _ => Keeps.pure ()

theorem confined_after {f : Firmware μ κ (TappedDevice PagedRam)} (h : Confined w d₀ f)
    (happenings : List (Happening μ κ)) : Confined w d₀ (f.after happenings) := by
  induction happenings generalizing f with
  | nil => exact h
  | cons first rest ih => exact ih (keeps_happening first f h)

/-- No byte outside the write window ever changes, from a device with nothing staged on. -/
theorem byteAt_after {f : Firmware μ κ (TappedDevice PagedRam)}
    (clean : f.commands.storage.device.staged = []) (happenings : List (Happening μ κ))
    {addr : Nat} (outside : ¬ f.commands.window.Contains addr) :
    (f.after happenings).commands.storage.device.byteAt addr =
      f.commands.storage.device.byteAt addr := by
  have start : Confined f.commands.window f.commands.storage.device f :=
    ⟨rfl, PagedRam.Confined.refl clean⟩
  exact (confined_after start happenings).storage.byteAt outside

/-- Two pages of storage, of which the peer may write from the middle of one to the middle of the
other. -/
def twoPages : SimulatedFirmware :=
  .new (.clear (.new Endpoint.defaultDepth)) .idle
    { storage := .clear (.new 0 64 7)
      window := ⟨5, 40, 16⟩
      transform := CosineTransform.transform
      generator := Attractor.generate Attractor.defaultIterations
      arena := ⟨Arena.defaultBase, #[]⟩ }

/-- A write of four bytes at `addr`. -/
def writeRequest (addr : UInt32) : Packet :=
  { Packet.ofRequest .persistentWrite with
    data := Packet.buffer [addr, 4, 0x01020304]
    argLen := 3 }

/-- A write whose commit fails, which leaves its page staged, and then another one. -/
def interruptedWrite : List (Happening (TappedBus Endpoint) Lines) :=
  [.faults [.plan .commit 0 (some 1)], .command .persistentWrite (writeRequest 8),
    .command .persistentWrite (writeRequest 9)]

theorem byteAt_after_interruptedWrite :
    twoPages.commands.storage.device.staged = [] ∧ ¬ twoPages.commands.window.Contains 4 ∧
      (twoPages.after interruptedWrite).commands.storage.device.byteAt 4 = some 7 := by
  have outside : ¬ twoPages.commands.window.Contains 4 := by decide
  have same := byteAt_after (f := twoPages) rfl interruptedWrite outside
  exact ⟨rfl, outside, same⟩

end Firmware

end Coprocessor
