import Coprocessor.Client
import Coprocessor.Firmware
import Coprocessor.Mailbox.Endpoint
import Coprocessor.Mailbox.Remote
import Coprocessor.Simulation.TappedBus
import Coprocessor.Storage.PagedRam

/-!
A link between a client and a core. The core answers a completed packet, and completes an abort,
only after the client has polled the status register a given number of times; it may also answer
with words prepared beforehand.
-/
namespace Coprocessor

/-- The core at the far end of a link. -/
abbrev FarCore : Type :=
  Firmware Endpoint Lines PagedRam

/-- The two ends of a link and what the far end is about to do. -/
structure Link where
  near : TappedBus Endpoint
  far : FarCore
  /-- Prepared answers, used in place of the core where given. -/
  replies : Option (List (List UInt32))
  /-- Polls before the core answers; without it, the core never does. -/
  replyAfter : Option Nat
  /-- Polls before the core completes an abort; without it, the core never does. -/
  abortAfter : Option Nat
  /-- Polls since a packet that is not yet answered. -/
  awaiting : Option Nat
  /-- Polls since an abort that is not yet completed. -/
  aborting : Option Nat

namespace Link

def nearPart : Link → TappedBus Endpoint × (TappedBus Endpoint → Link)
  | ⟨near, far, replies, replyAfter, abortAfter, awaiting, aborting⟩ =>
    (near, fun near => ⟨near, far, replies, replyAfter, abortAfter, awaiting, aborting⟩)

def farPart : Link → FarCore × (FarCore → Link)
  | ⟨near, far, replies, replyAfter, abortAfter, awaiting, aborting⟩ =>
    (far, fun far => ⟨near, far, replies, replyAfter, abortAfter, awaiting, aborting⟩)

/-- Changes the near endpoint. -/
def mapNear (f : Endpoint → Endpoint) (l : Link) : Link :=
  { l with near.bus := f l.near.bus }

/-- Moves the words of the near end to the core. -/
def deliver (l : Link) : Link :=
  match l.near.bus.deliver l.far.mailbox with
  | (near, far) => { l with near.bus := near, far.mailbox := far }

/-- Moves the words of the core to the near end. -/
def giveBack (l : Link) : Link :=
  match l.far.mailbox.deliver l.near.bus with
  | (far, near) => { l with near.bus := near, far.mailbox := far }

/-- The core answers: with the next prepared words, or by a dispatch cycle. -/
def answer : Act Trap Link Unit := do
  match (← Act.get).replies with
  | some (words :: rest) =>
    Act.modify fun l => { l.mapNear (·.push words) with replies := some rest }
  | some [] => pure ()
  | none =>
    Firmware.runCycle.within farPart
    Act.modify giveBack

/-- Whether a far end that acts after `limit` polls acts at this one. -/
def isDue (limit : Option Nat) (polls : Nat) : Bool :=
  match limit with
  | some n => n < polls
  | none => false

/-- What the far end does when the status register is about to be read. -/
def beforePoll : Act Trap Link Unit := do
  match (← Act.get).awaiting with
  | some n =>
    Act.modify fun l => { l with awaiting := some (n + 1) }
    if isDue (← Act.get).replyAfter (n + 1) then
      answer
      Act.modify fun l => { l with awaiting := none }
  | none => pure ()
  match (← Act.get).aborting with
  | some n =>
    Act.modify fun l => { l with aborting := some (n + 1) }
    if isDue (← Act.get).abortAfter (n + 1) then
      Act.modify fun l => { l.mapNear (·.write .abort 1) with aborting := none }
  | none => pure ()

/-- What the far end notices of a write that has landed. -/
def afterWrite (r : Register) (l : Link) : Link :=
  match r with
  | .done => { l.deliver with awaiting := some 0 }
  | .abort => { l with aborting := some 0 }
  | _ => l

instance : RegisterBus Link Failure where
  read r := do
    if r = .status then beforePoll.mapFailure .trap
    ((RegisterBus.read r).mapFailure .error).within nearPart
  write r value := do
    ((RegisterBus.write r value).mapFailure .error).within nearPart
    Act.modify (afterWrite r)
  barrier := RegisterBus.barrier.within nearPart
  pause := RegisterBus.pause.within nearPart

end Link

/-! ## A probe on the link -/

/-- A remote memory that has nothing but the registers of a link, at `targetBase`. -/
structure Probe where
  link : Link
  targetBase : UInt32

namespace Probe

def linkPart : Probe → Link × (Link → Probe)
  | ⟨link, targetBase⟩ => (link, fun link => ⟨link, targetBase⟩)

/-- The register at an address. -/
def registerAt (addr : UInt32) : Act Failure Probe Register := do
  match Register.at? (← Act.gets Probe.targetBase) addr with
  | some r => return r
  | none => Act.fail .io

instance : RemoteMemory Probe where
  read addr := do
    Act.emit (.remote (.read addr))
    let r ← registerAt addr
    let value ← (RegisterBus.read r).within linkPart
    return Word.toBytes value
  write addr bytes := do
    Act.emit (.remote (.write addr bytes))
    let r ← registerAt addr
    (RegisterBus.write r (Word.ofBytes bytes)).within linkPart

end Probe

/-- Client states that have a link in them. -/
class HasLink (σ : Type) where
  linkPart : σ → Link × (Link → σ)

instance : HasLink Link := ⟨fun l => (l, id)⟩

instance : HasLink (Unfenced Link) := ⟨Unfenced.busPart⟩

instance : HasLink (Remote Probe) where
  linkPart r :=
    match Remote.memoryPart r with
    | (probe, back) =>
      match Probe.linkPart probe with
      | (link, backProbe) => (link, fun link => back (backProbe link))

end Coprocessor
