/-!
Two ways to fail. An `Error` is an answer that the caller handles or reports; a `Trap` is a
machine fault that stops the core, and no caller answers it. Code that can meet both has
`Failure`; code whose type is `Error` cannot trap, and code whose type is `Trap` has handled
every error.
-/
namespace Coprocessor

/-- What an operation of the mailbox stack can report. -/
inductive Error where
  /-- A flow-control bit was clear when a word was to be moved. -/
  | channelNotReady
  /-- A packet declares more argument words than a packet can hold. -/
  | invalidLength
  /-- The arguments of a request do not pass its checks. -/
  | validationFailure
  /-- An address range is not wholly inside the shared arena. -/
  | outsideArena
  /-- A bounded wait ran out. -/
  | timeout
  /-- The other side did not complete an abort in time. -/
  | abortFailed
  /-- A mailbox register could not be accessed. -/
  | io
  /-- Persistent storage refused an operation. -/
  | storage
  /-- The vector table has no free slot. -/
  | vectorTableFull
  /-- The interrupt source already has a vector. -/
  | duplicateVector
  /-- The opcode is not one that is known, or not the one expected. -/
  | invalidOpcode
  deriving DecidableEq

/-- The name under which an error is reported. -/
def Error.name : Error → String
  | channelNotReady => "ChannelNotReady"
  | invalidLength => "InvalidLength"
  | validationFailure => "ValidationFailure"
  | outsideArena => "OutsideArena"
  | timeout => "Timeout"
  | abortFailed => "AbortFailed"
  | io => "Io"
  | storage => "Storage"
  | vectorTableFull => "VectorTableFull"
  | duplicateVector => "DuplicateVector"
  | invalidOpcode => "InvalidOpcode"

/-- A fault of the machine itself: arithmetic or indexing that has no answer. -/
inductive Trap where
  /-- A 32-bit sum did not fit. -/
  | overflow
  /-- A slice reached outside its buffer. -/
  | outOfBounds
  deriving DecidableEq

/-- The text that a trap leaves behind. -/
def Trap.message : Trap → String
  | overflow => "attempt to add with overflow"
  | outOfBounds => "range end index out of range"

/-- An error or a trap. -/
inductive Failure where
  | error (e : Error)
  | trap (t : Trap)
  deriving DecidableEq

/-- The failure types that can carry an `Error`, each a part of `Failure`. -/
class Raises (ε : Type) where
  raise : Error → ε
  toFailure : ε → Failure

instance : Raises Error := ⟨id, .error⟩

instance : Raises Failure := ⟨.error, id⟩

/-- A failure as a user of a remote device sees it: every error is an access that did not work. -/
def Failure.asAccess : Failure → Failure
  | error _ => error .io
  | trap t => trap t

/-! ## Checked arithmetic and slicing -/

/-- The sum of two words, or the trap where it does not fit in a word. -/
def checkedAdd (a b : UInt32) : Except Trap UInt32 :=
  if a.toNat + b.toNat < 0x100000000 then .ok (a + b) else .error .overflow

/-- The `len` elements of `xs` from index `start`, or the trap where they leave `xs`. -/
def slice {α : Type} (xs : List α) (start len : Nat) : Except Trap (List α) :=
  if start + len ≤ xs.length then .ok ((xs.drop start).take len) else .error .outOfBounds

theorem checkedAdd_eq_ok {a b : UInt32} (h : a.toNat + b.toNat < 0x100000000) :
    checkedAdd a b = .ok (a + b) :=
  if_pos h

theorem checkedAdd_eq_error {a b : UInt32} (h : 0x100000000 ≤ a.toNat + b.toNat) :
    checkedAdd a b = .error .overflow :=
  if_neg (Nat.not_lt.mpr h)

theorem checkedAdd_eq_ok_iff {a b c : UInt32} :
    checkedAdd a b = .ok c ↔ a.toNat + b.toNat < 0x100000000 ∧ a + b = c := by
  refine ⟨fun h => ?_, fun ⟨fits, sum⟩ => sum ▸ checkedAdd_eq_ok fits⟩
  simp only [checkedAdd] at h
  split at h
  · next fits => exact ⟨fits, Except.ok.inj h⟩
  · cases h

theorem slice_eq_ok {α : Type} {xs : List α} {start len : Nat} (h : start + len ≤ xs.length) :
    slice xs start len = .ok ((xs.drop start).take len) := by
  simp [slice, h]

end Coprocessor
