import Coprocessor.Proofs.Storage.WriteSplice

/-!
Paging with counters. A loop that carries the place of its page in the block, and goes on as long as
more than a page is left, commits where the address says that a block ends and makes as many rounds
as there are whole pages: what it does is what `writePages` does, and a write made of it is a write.
-/
namespace Coprocessor.Storage

open Act

variable {δ : Type} [PageDevice δ]

/-- Whole pages and then the bytes left. `inBlock` counts the pages of the block up to `addr`, and
`batch` is the first page loaded and not yet committed. -/
def pagingLoop (addr : UInt32) (inBlock : Nat) (batch : Option UInt32) (rest : List UInt8) :
    Act Failure δ Unit := do
  if _ : pageSize < rest.length then
    onDevice (PageDevice.load addr (Page.ofBytes (rest.take pageSize)))
    let first := batch.getD addr
    if inBlock + 1 = blockPages then
      onDevice (PageDevice.commit first)
      let next ← checked (checkedAdd addr 32)
      pagingLoop next 0 none (rest.drop pageSize)
    else
      let next ← checked (checkedAdd addr 32)
      pagingLoop next (inBlock + 1) (some first) (rest.drop pageSize)
  else
    match batch with
    | some first => onDevice (PageDevice.commit first)
    | none => pure ()
    if rest.isEmpty then pure () else patchPage addr 0 rest
  termination_by rest.length
  decreasing_by
    all_goals
      have more : pageSize < rest.length := ‹_›
      simp only [pageSize, List.length_drop] at more ⊢
      omega

/-- The place of the page at `addr` in its block. -/
def placeInBlock (addr : UInt32) : Nat :=
  addr.toNat % blockSize / pageSize

/-- A write from the first page on, by the loop with counters. -/
def writeFromCounting (addr : UInt32) (data : List UInt8) : Act Failure δ Unit := do
  let offset := addr.toNat % pageSize
  let firstLen := min (pageSize - offset) data.length
  let pageAddr := addr - offset.toUInt32
  let leading ← checked (slice data 0 firstLen)
  patchPage pageAddr offset leading
  let next ← checked (checkedAdd pageAddr 32)
  pagingLoop next (placeInBlock next) none (data.drop firstLen)

omit [PageDevice δ] in
/-- What comes after a page has to agree only on the page after it. -/
theorem checked_next_congr {α : Type} {addr : UInt32} {f g : UInt32 → Act Failure δ α}
    (same : (addr + 32).toNat = addr.toNat + pageSize → f (addr + 32) = g (addr + 32)) :
    checked (checkedAdd addr 32) >>= f = checked (checkedAdd addr 32) >>= g := by
  by_cases top : addr.toNat + pageSize < 0x100000000
  · rw [checkedAdd_eq_ok top, checked_ok, pure_bind, pure_bind]
    exact same (toNat_nextPage top)
  · rw [checkedAdd_eq_error (Nat.not_lt.mp top)]
    rfl

/-- Where every address is one of a page, the count of pages is full exactly at the end of a
block. -/
theorem endsBlock_iff {addr : UInt32} (aligned : addr.toNat % pageSize = 0) :
    endsBlock addr = true ↔ placeInBlock addr + 1 = blockPages := by
  simp only [endsBlock, placeInBlock, blockSize, blockPages, pageSize, beq_iff_eq] at aligned ⊢
  omega

theorem placeInBlock_next {addr : UInt32} (aligned : addr.toNat % pageSize = 0)
    (next : (addr + 32).toNat = addr.toNat + pageSize) :
    placeInBlock (addr + 32) =
      if placeInBlock addr + 1 = blockPages then 0 else placeInBlock addr + 1 := by
  split
  all_goals
    next here =>
      simp only [placeInBlock, blockSize, blockPages, pageSize] at aligned next here ⊢
      omega

/-- The loop with counters is the one that reads them off the address and the length. -/
theorem pagingLoop_eq {n : Nat} {addr : UInt32} {batch : Option UInt32} {rest : List UInt8}
    (aligned : addr.toNat % pageSize = 0) (count : n = wholePages rest.length) :
    (pagingLoop addr (placeInBlock addr) batch rest : Act Failure δ Unit) =
      writePages n addr batch rest := by
  -- on the count of whole pages; the place in the block follows the address from page to page,
  -- since where an address would wrap both loops trap before the next one
  induction n generalizing addr batch rest with
  | zero =>
    have last : ¬ pageSize < rest.length := by
      simp only [wholePages, pageSize] at count ⊢
      omega
    rw [pagingLoop, dif_neg last]
    cases batch <;> rfl
  | succ n ih =>
    have more : pageSize < rest.length := by
      simp only [wholePages, pageSize] at count ⊢
      omega
    have count' : n = wholePages (rest.drop pageSize).length := by
      simp only [wholePages, pageSize, List.length_drop] at count ⊢
      omega
    have aligned' (next : (addr + 32).toNat = addr.toNat + pageSize) :
        (addr + 32).toNat % pageSize = 0 := by
      rw [next, Nat.add_mod_right, aligned]
    rw [pagingLoop, dif_pos more, writePages_succ]
    congr 1
    funext _
    by_cases full : placeInBlock addr + 1 = blockPages
    · rw [if_pos full, if_pos ((endsBlock_iff aligned).mpr full)]
      congr 1
      funext _
      refine checked_next_congr fun next => ?_
      have place := placeInBlock_next aligned next
      rw [if_pos full] at place
      rw [← place, if_pos ((endsBlock_iff aligned).mpr full)]
      exact ih (aligned' next) count'
    · have goesOn : ¬ endsBlock addr = true := mt (endsBlock_iff aligned).mp full
      rw [if_neg full, if_neg goesOn, pure_bind]
      refine checked_next_congr fun next => ?_
      have place := placeInBlock_next aligned next
      rw [if_neg full] at place
      rw [← place, if_neg goesOn]
      exact ih (aligned' next) count'

/-- A write that counts its pages is a write. -/
theorem writeFromCounting_eq (addr : UInt32) (data : List UInt8) :
    (writeFromCounting addr data : Act Failure δ Unit) = writeFrom addr data := by
  rw [writeFromCounting, writeFrom]
  congr 1
  funext leading
  congr 1
  funext _
  refine checked_next_congr fun next => pagingLoop_eq ?_ rfl
  have aligned := pageOf_aligned addr
  rw [pageOf] at aligned
  rw [next, Nat.add_mod_right, aligned]

end Coprocessor.Storage
