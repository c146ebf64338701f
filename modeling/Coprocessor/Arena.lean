import Coprocessor.Act
import Coprocessor.Bytes

/-!
Memory shared with the peer. The peer names buffers by address, and only ranges that lie wholly
inside the arena are ever read or written.
-/
namespace Coprocessor

/-- The shared region, as the peer sees it at `base`. -/
structure Arena where
  base : UInt32
  mem : Array UInt8

namespace Arena

/-- Where the shared memory is placed unless said otherwise: its first address and its size. -/
def defaultBase : UInt32 := 0x61000000

def defaultSize : Nat := 0x100000

/-- The message that registers an arena. -/
def registered (a : Arena) : Event :=
  .message (.arenaRegistered a.base a.mem.size)

def size (a : Arena) : Nat :=
  a.mem.size

def isEmpty (a : Arena) : Bool :=
  a.mem.isEmpty

/-- Index of `addr` in the arena, if `len` bytes from there are all inside. -/
def offset? (a : Arena) (addr : UInt32) (len : Nat) : Except Error Nat :=
  if a.base.toNat ≤ addr.toNat ∧ addr.toNat - a.base.toNat + len ≤ a.mem.size then
    .ok (addr.toNat - a.base.toNat)
  else
    .error .outsideArena

/-- Whether `len` bytes at `addr` are all inside the arena. -/
def contains (a : Arena) (addr : UInt32) (len : Nat) : Bool :=
  (a.offset? addr len).toBool

/-- The `len` bytes from index `i` on. -/
def bytes (a : Arena) (i len : Nat) : Vector UInt8 len :=
  Vector.ofFn fun k => a.mem[i + k.val]?.getD 0

/-- The arena with `bytes` placed from index `i` on. -/
def place (a : Arena) (i : Nat) (bytes : List UInt8) : Arena :=
  match a with
  | ⟨base, mem⟩ => ⟨base, Bytes.splice mem i bytes⟩

/-- Runs an action on the `len` bytes at `addr`, if all of them are inside, and stores what the
action makes of them. -/
def withRegion {ε α : Type} (addr : UInt32) (len : Nat) (x : Act ε (Vector UInt8 len) α) :
    Act ε Arena (Except Error α) := fun a =>
  match a.offset? addr len with
  | .error e => ⟨.ok (.error e), a, []⟩
  | .ok i =>
    match x (a.bytes i len) with
    | ⟨result, region, events⟩ =>
      ⟨result.map .ok, a.place i region.toList, events ++ [.stored addr region.toList]⟩

/-! ## Laws -/

theorem offset?_eq_ok_iff {a : Arena} {addr : UInt32} {len i : Nat} :
    a.offset? addr len = .ok i ↔
      a.base.toNat + i = addr.toNat ∧ i + len ≤ a.mem.size := by
  simp only [offset?]
  split
  · simp only [Except.ok.injEq]
    omega
  · simp only [reduceCtorEq, false_iff]
    omega

theorem contains_iff {a : Arena} {addr : UInt32} {len : Nat} :
    a.contains addr len = true ↔
      a.base.toNat ≤ addr.toNat ∧ addr.toNat + len ≤ a.base.toNat + a.mem.size := by
  simp only [contains, offset?]
  split <;> simp [Except.toBool] <;> omega

@[simp] theorem size_place (a : Arena) (i : Nat) (bytes : List UInt8) :
    (a.place i bytes).size = a.size := by
  simp [place, size]

@[simp] theorem base_place (a : Arena) (i : Nat) (bytes : List UInt8) :
    (a.place i bytes).base = a.base :=
  rfl

end Arena

end Coprocessor
