import Coprocessor.Proofs.Storage.WriteSplice

/-!
Relations between the actions of two devices. A write is made of the calls of a device and of steps
that no device takes part in, so a relation that these keep holds of whole writes.
-/
namespace Coprocessor.Storage

variable {δ' δ : Type} [PageDevice δ'] [PageDevice δ]

/-- A relation between actions on two devices that every step of a write keeps. -/
structure Congruence (R : ∀ {α : Type}, Act Failure δ' α → Act Failure δ α → Prop) : Prop where
  pure {α : Type} (a : α) : R (Pure.pure a) (Pure.pure a)
  fail (e : Error) : R (Act.fail e : Act Failure δ' Unit) (Act.fail e)
  log (m : Message) : R (Act.log m) (Act.log m)
  checked {α : Type} (r : Except Trap α) : R (Storage.checked r) (Storage.checked r)
  bind {α β : Type} {x : Act Failure δ' α} {y : Act Failure δ α} {f : α → Act Failure δ' β}
    {g : α → Act Failure δ β} (first : R x y) (rest : ∀ a, R (f a) (g a)) : R (x >>= f) (y >>= g)
  range : R (Act.gets PageDevice.range) (Act.gets PageDevice.range)
  read (addr : UInt32) : R (onDevice (PageDevice.read addr pageSize))
    (onDevice (PageDevice.read addr pageSize))
  load (addr : UInt32) (page : Page) : R (onDevice (PageDevice.load addr page))
    (onDevice (PageDevice.load addr page))
  commit (addr : UInt32) : R (onDevice (PageDevice.commit addr)) (onDevice (PageDevice.commit addr))

namespace Congruence

variable {R : ∀ {α : Type}, Act Failure δ' α → Act Failure δ α → Prop}

theorem patchPage (h : Congruence R) (addr : UInt32) (offset : Nat) (bytes : List UInt8) :
    R (patchPage addr offset bytes) (patchPage addr offset bytes) := by
  refine h.bind (h.read addr) fun page => h.bind (h.checked _) fun merged => ?_
  exact h.bind (h.load addr merged) fun _ => h.commit addr

theorem writePages (h : Congruence R) (n : Nat) (addr : UInt32) (batch : Option UInt32)
    (bytes : List UInt8) :
    R (writePages n addr batch bytes) (writePages n addr batch bytes) := by
  induction n generalizing addr batch bytes with
  | zero =>
    have last : R (if bytes.isEmpty then Pure.pure () else Storage.patchPage addr 0 bytes)
        (if bytes.isEmpty then Pure.pure () else Storage.patchPage addr 0 bytes) := by
      split
      · exact h.pure ()
      · exact h.patchPage addr 0 bytes
    cases batch with
    | none => exact last
    | some first => exact h.bind (h.commit first) fun _ => last
  | succ n ih =>
    rw [writePages_succ, writePages_succ]
    refine h.bind (h.load addr _) fun _ => h.bind ?_ fun _ => h.bind (h.checked _) fun next => ?_
    · split
      · exact h.commit _
      · exact h.pure ()
    · exact ih next _ _

theorem checkRange (h : Congruence R) (addr : UInt32) (len : Nat) :
    R (checkRange addr len) (checkRange addr len) := by
  rw [Storage.checkRange, Storage.checkRange]
  refine h.bind h.range fun range => h.bind (h.checked range) fun ends => ?_
  obtain ⟨start, finish⟩ := ends
  cases checkedAdd addr len.toUInt32 with
  | error t => exact h.fail .storage
  | ok last =>
    dsimp only
    split
    · exact h.bind (h.log _) fun _ => h.fail .storage
    · exact h.pure ()

theorem writeFrom (h : Congruence R) (addr : UInt32) (data : List UInt8) :
    R (writeFrom addr data) (writeFrom addr data) := by
  rw [writeFrom_eq, writeFrom_eq]
  refine h.bind (h.patchPage _ _ _) fun _ => h.bind (h.checked _) fun next => ?_
  exact h.writePages _ next _ _

theorem write (h : Congruence R) (addr : UInt32) (data : List UInt8) :
    R (write addr data) (write addr data) := by
  cases data with
  | nil => exact h.pure ()
  | cons b rest =>
    rw [Storage.write, Storage.write]
    refine h.bind (h.checkRange addr _) fun _ => h.bind (h.writeFrom addr _) fun _ => ?_
    exact h.log _

end Congruence

end Coprocessor.Storage
