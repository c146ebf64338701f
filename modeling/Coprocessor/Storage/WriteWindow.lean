import Coprocessor.Failure

/-!
The part of persistent storage that the peer may write.
-/
namespace Coprocessor

/-- A range of writable addresses and a bound on the length of one write. -/
structure WriteWindow where
  /-- First writable address. -/
  start : UInt32
  /-- The address past the last writable one. -/
  finish : UInt32
  /-- Writes are strictly shorter than this, in bytes. -/
  lengthBound : UInt32
  deriving DecidableEq

namespace WriteWindow

/-- The whole storage array. -/
def default : WriteWindow where
  start := 0x60000000
  finish := 0x60400000
  lengthBound := 4088

/-- A write of `len` bytes at `addr` begins inside the window, ends inside it and is short
enough. -/
def Admits (w : WriteWindow) (addr len : UInt32) : Prop :=
  w.start ≤ addr ∧ addr < w.finish ∧ len < w.lengthBound ∧
    addr.toNat + len.toNat ≤ w.finish.toNat

instance (w : WriteWindow) (addr len : UInt32) : Decidable (w.Admits addr len) :=
  inferInstanceAs (Decidable (_ ∧ _))

/-- Refuses a write that the window does not admit. -/
def validate (w : WriteWindow) (addr len : UInt32) : Except Error Unit :=
  if w.Admits addr len then .ok () else .error .validationFailure

theorem validate_eq_ok_iff {w : WriteWindow} {addr len : UInt32} :
    w.validate addr len = .ok () ↔ w.Admits addr len := by
  refine ⟨fun h => ?_, fun fits => if_pos fits⟩
  simp only [validate] at h
  split at h
  · assumption
  · cases h

theorem validate_eq_error_iff {w : WriteWindow} {addr len : UInt32} {e : Error} :
    w.validate addr len = .error e ↔ ¬ w.Admits addr len ∧ .validationFailure = e := by
  refine ⟨fun h => ?_, fun ⟨refused, cause⟩ => cause ▸ if_neg refused⟩
  simp only [validate] at h
  split at h
  · cases h
  · next refused => exact ⟨refused, Except.error.inj h⟩

end WriteWindow

end Coprocessor
