import Coprocessor.Storage.Device

/-!
Page programmable storage in memory. Loaded pages show only once they are committed, and a commit
names the first page loaded since the one before.
-/
namespace Coprocessor

/-- Simulated page programmable storage. -/
structure PagedRam where
  base : UInt32
  /-- Committed contents. -/
  mem : Array UInt8
  /-- Pages loaded and not yet committed, the oldest first. -/
  staged : List (UInt32 × Page)
  commits : Nat
  maxBatch : Nat

namespace PagedRam

/-- Storage of `size` bytes of value `value` at `base`, with nothing staged. -/
def new (base : UInt32) (size : Nat) (value : UInt8) : PagedRam where
  base
  mem := Array.replicate size value
  staged := []
  commits := 0
  maxBatch := 0

def fill (d : PagedRam) (value : UInt8) : PagedRam :=
  { d with mem := d.mem.map fun _ => value }

/-- `len` bytes at `addr` are all inside the device. -/
def Covers (d : PagedRam) (addr : UInt32) (len : Nat) : Prop :=
  d.base.toNat ≤ addr.toNat ∧ addr.toNat - d.base.toNat + len ≤ d.mem.size

instance (d : PagedRam) (addr : UInt32) (len : Nat) : Decidable (d.Covers addr len) :=
  inferInstanceAs (Decidable (_ ∧ _))

def index (d : PagedRam) (addr : UInt32) : Nat :=
  addr.toNat - d.base.toNat

/-- Bytes at `addr`, if all of them are inside. -/
def read (addr : UInt32) (len : Nat) : Act Error PagedRam (Vector UInt8 len) := fun d =>
  if h : d.Covers addr len then
    ⟨.ok (Vector.ofFn fun i =>
      have inside : d.index addr + i.val < d.mem.size :=
        Nat.lt_of_lt_of_le (Nat.add_lt_add_left i.isLt _) h.2
      d.mem[d.index addr + i.val]), d, []⟩
  else
    ⟨.error .storage, d, []⟩

/-- Stages a page, if its address is a page address inside the device. -/
def load (addr : UInt32) (page : Page) : Act Error PagedRam Unit := fun d =>
  if addr.toNat % pageSize = 0 ∧ d.Covers addr pageSize then
    ⟨.ok (), { d with staged := d.staged ++ [(addr, page)] }, []⟩
  else
    ⟨.error .storage, d, []⟩

/-- Writes pages to the contents and counts the commit, stopping at a page that is not inside. -/
def program (d : PagedRam) : List (UInt32 × Page) → Except Error Unit × PagedRam
  | [] => (.ok (), { d with commits := d.commits + 1 })
  | (addr, page) :: rest =>
    if d.Covers addr pageSize then
      match d with
      | ⟨base, mem, staged, commits, maxBatch⟩ =>
        program
          ⟨base, Bytes.splice mem (addr.toNat - base.toNat) page.toList, staged, commits,
            maxBatch⟩ rest
    else
      (.error .storage, d)

/-- Programming changes bytes and never the extent. -/
theorem size_program (d : PagedRam) (pages : List (UInt32 × Page)) :
    (d.program pages).2.mem.size = d.mem.size := by
  induction pages generalizing d with
  | nil => rfl
  | cons page rest ih =>
    obtain ⟨addr, page⟩ := page
    simp only [program]
    split
    · rw [ih]
      exact Bytes.size_splice ..
    · rfl

/-- Whether `addr` is the address of the first staged page. -/
def startsAt (d : PagedRam) (addr : UInt32) : Bool :=
  match d.staged with
  | (first, _) :: _ => first == addr
  | [] => false

def commit (addr : UInt32) : Act Error PagedRam Unit := fun d =>
  if d.startsAt addr then
    match d with
    | ⟨base, mem, staged, commits, maxBatch⟩ =>
      match program ⟨base, mem, [], commits, max maxBatch staged.length⟩ staged with
      | (result, d) => ⟨result, d, []⟩
  else
    ⟨.error .storage, d, []⟩

instance : PageDevice PagedRam where
  range d := do
    let last ← checkedAdd d.base d.mem.size.toUInt32
    return (d.base, last)
  read := read
  load := load
  commit := commit

end PagedRam

end Coprocessor
