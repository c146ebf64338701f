import Coprocessor.Proofs.Storage.Totality

/-!
The calls of storage in memory, slice by slice. A call computes in words where its bytes begin and
compares, and then it takes a slice of the contents, which traps where it reaches past their end. No
such slice is ever taken: what the calls do with slices is what they do without them, whatever is
staged and whatever the call names.
-/
namespace Coprocessor.PagedRam

open Act Storage

/-- Where the `len` bytes at `addr` begin in the contents, if all of them are inside. -/
def offset? (d : PagedRam) (addr : UInt32) (len : Nat) : Except Error Nat :=
  if addr < d.base then
    .error .storage
  else if d.mem.size < (addr - d.base).toNat + len then
    .error .storage
  else
    .ok (addr - d.base).toNat

def locate (addr : UInt32) (len : Nat) : Act Failure PagedRam Nat := do
  let d ← Act.get
  Act.ofExcept .error (d.offset? addr len)

/-- A buffer of `len` bytes with `bytes` copied into it, or the trap where they are not as many. -/
def filled (len : Nat) (bytes : List UInt8) : Except Trap (Vector UInt8 len) :=
  if h : bytes.length = len then .ok ⟨bytes.toArray, h⟩ else .error .outOfBounds

/-- `mem` with `bytes` copied over its slice from index `start` on, or the trap where the slice
leaves it. -/
def overwritten (mem : Array UInt8) (start : Nat) (bytes : List UInt8) :
    Except Trap (Array UInt8) :=
  if start + bytes.length ≤ mem.size then .ok (Bytes.splice mem start bytes)
  else .error .outOfBounds

/-- Reads a slice of the contents. -/
def readSlice (addr : UInt32) (len : Nat) : Act Failure PagedRam (Vector UInt8 len) := do
  let start ← locate addr len
  let contents ← Act.gets PagedRam.mem
  let bytes ← checked (slice contents.toList start len)
  checked (filled len bytes)

/-- Copies a page over its slice of the contents. -/
def programSlice (addr : UInt32) (page : Page) : Act Failure PagedRam Unit := do
  let start ← locate addr pageSize
  let contents ← Act.gets PagedRam.mem
  let mem ← checked (overwritten contents start page.toList)
  Act.modify fun d => { d with mem }

/-- Copies pages one after the other, and counts the commit when all are there. -/
def programSlices : List (UInt32 × Page) → Act Failure PagedRam Unit
  | [] => Act.modify fun d => { d with commits := d.commits + 1 }
  | (addr, page) :: rest => do
    programSlice addr page
    programSlices rest

/-- Copies the pages that were staged, if `addr` is the first of them. -/
def commitSlices (addr : UInt32) : Act Failure PagedRam Unit := do
  let d ← Act.get
  if d.startsAt addr then
    Act.modify taken
    programSlices d.staged
  else
    Act.fail .storage

/-! ## No slice leaves the contents -/

theorem offset?_eq (d : PagedRam) (addr : UInt32) (len : Nat) :
    d.offset? addr len = if d.Covers addr len then .ok (d.index addr) else .error .storage := by
  rw [offset?]
  by_cases low : addr < d.base
  · have before : addr.toNat < d.base.toNat := low
    rw [if_pos low, if_neg fun cov => Nat.not_le.mpr before cov.1]
  · have start : d.base.toNat ≤ addr.toNat := Nat.le_of_not_lt low
    have difference : (addr - d.base).toNat = d.index addr := UInt32.toNat_sub_of_le _ _ start
    rw [if_neg low, difference]
    by_cases high : d.mem.size < d.index addr + len
    · rw [if_pos high, if_neg fun cov => Nat.not_le.mpr high cov.2]
    · rw [if_neg high, if_pos ⟨start, Nat.le_of_not_lt high⟩]

theorem run_locate (addr : UInt32) (len : Nat) (d : PagedRam) :
    (locate addr len).run d =
      (if d.Covers addr len then .ok (d.index addr) else .error (.error .storage), d) := by
  rw [locate, run_get_bind, run_ofExcept, offset?_eq]
  split <;> rfl

/-- The bytes of a slice that is inside fill a buffer of its length. -/
theorem filled_slice {d : PagedRam} {addr : UInt32} {len : Nat} (cov : d.Covers addr len) :
    filled len ((d.mem.toList.drop (d.index addr)).take len) = .ok (d.bytesAt addr len) := by
  have inside : d.index addr + len ≤ d.mem.size := cov.2
  have length : ((d.mem.toList.drop (d.index addr)).take len).length = len := by
    rw [List.length_take, List.length_drop, Array.length_toList]
    omega
  rw [filled, dif_pos length]
  congr 1
  apply Vector.ext
  intro k hk
  rw [bytesAt, Vector.getElem_ofFn, Array.getElem?_eq_getElem (by omega), Option.getD_some]
  simp

/-- A read takes a slice of the contents, if it is inside them. -/
theorem run_readSlice (addr : UInt32) (len : Nat) (d : PagedRam) :
    (readSlice addr len).run d = (onDevice (PageDevice.read addr len)).run d := by
  have located := run_locate addr len d
  by_cases cov : d.Covers addr len
  · rw [if_pos cov] at located
    have inside : d.index addr + len ≤ d.mem.toList.length := cov.2
    rw [readSlice, run_bind_ok located, run_gets_bind, slice_eq_ok inside, checked_ok, pure_bind,
      filled_slice cov, run_onDevice (run_read cov)]
    rfl
  · rw [if_neg cov] at located
    rw [readSlice, run_bind_error located, run_onDevice (run_read_refused cov)]
    rfl

theorem run_programSlices (pages : List (UInt32 × Page)) (d : PagedRam) :
    (programSlices pages).run d = ((d.program pages).1.mapError .error, (d.program pages).2) := by
  induction pages generalizing d with
  | nil => rfl
  | cons entry rest ih =>
    obtain ⟨addr, page⟩ := entry
    have located := run_locate addr pageSize d
    rw [programSlices, program]
    by_cases cov : d.Covers addr pageSize
    · rw [if_pos cov] at located
      have inside : d.index addr + page.toList.length ≤ d.mem.size := by
        rw [Vector.length_toList]
        exact cov.2
      have copies : (programSlice addr page).run d =
          (.ok (), { d with mem := programPage d.base d.mem (addr, page) }) := by
        rw [programSlice, run_bind_ok located, run_gets_bind, overwritten, if_pos inside]
        rfl
      rw [run_bind_ok copies, ih, if_pos cov]
      rfl
    · rw [if_neg cov] at located
      have stops : (programSlice addr page).run d = (.error (.error .storage), d) :=
        run_bind_error located _
      rw [run_bind_error stops, if_neg cov]
      rfl

/-- A commit copies pages over slices of the contents, as long as they are inside them. -/
theorem run_commitSlices (addr : UInt32) (d : PagedRam) :
    (commitSlices addr).run d = (onDevice (PageDevice.commit addr)).run d := by
  rw [commitSlices, run_get_bind]
  by_cases first : d.staged.head?.map Prod.fst = some addr
  · rw [if_pos (startsAt_iff.mpr first), run_modify_bind, run_programSlices]
    rw [run_onDevice (run_commit_first first)]
  · rw [if_neg (mt startsAt_iff.mp first), run_onDevice (run_commit_refused first)]
    rfl

/-- On the device as it is, every call is the one that takes slices, and no slice that it takes
traps. -/
structure SlicesInside (d : PagedRam) : Prop where
  read (addr : UInt32) (len : Nat) :
    (onDevice (PageDevice.read addr len)).run d = (readSlice addr len).run d
  commit (addr : UInt32) : (onDevice (PageDevice.commit addr)).run d = (commitSlices addr).run d
  read_total (addr : UInt32) (len : Nat) :
    ∀ f d', (readSlice addr len).run d = (.error f, d') → f.IsError
  commit_total (addr : UInt32) : ∀ f d', (commitSlices addr).run d = (.error f, d') → f.IsError

theorem isError_of_onDevice {α : Type} {x : Act Error PagedRam α} {d d' : PagedRam} {f : Failure}
    (h : (onDevice x).run d = (.error f, d')) : f.IsError := by
  rcases run : x.run d with ⟨e | a, d''⟩
  · rw [run_onDevice run] at h
    cases h
    exact ⟨e, rfl⟩
  · rw [run_onDevice run] at h
    cases h

theorem slicesInside (d : PagedRam) : d.SlicesInside where
  read addr len := (run_readSlice addr len d).symm
  commit addr := (run_commitSlices addr d).symm
  read_total addr len f d' h := by
    rw [run_readSlice] at h
    exact isError_of_onDevice h
  commit_total addr f d' h := by
    rw [run_commitSlices] at h
    exact isError_of_onDevice h

end Coprocessor.PagedRam
