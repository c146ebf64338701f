import Coprocessor.Proofs.Storage.Staged
import Coprocessor.Storage.Write

/-!
A write to a simulated device that works is a splice: the bytes stand at their address and nothing
else has changed. It works exactly when every page it touches is inside the device.

The paging loop is followed by what it has staged: before each page the batch is named by the
first staged page (`Batching`), and `settled` holds the bytes written so far.
-/
namespace Coprocessor

/-! ## Pages -/

theorem Page.overlay_eq_ok {page : Page} {offset : Nat} {bytes : List UInt8}
    (h : offset + bytes.length ≤ pageSize) :
    Page.overlay page offset bytes = .ok (Vector.ofFn fun i =>
      if offset ≤ i.val then bytes[i.val - offset]?.getD page[i] else page[i]) :=
  if_pos h

theorem Page.toList_ofBytes {bytes : List UInt8} (h : bytes.length = pageSize) :
    (Page.ofBytes bytes).toList = bytes := by
  apply List.ext_getElem
  · rw [Vector.length_toList]
    exact h.symm
  · intro i h₁ h₂
    simp [Page.ofBytes, h₂]

/-- What an overlay leaves at index `k`: the new byte inside the range, the old one outside. -/
theorem Page.getElem?_overlay {page merged : Page} {offset : Nat} {bytes : List UInt8}
    (h : Page.overlay page offset bytes = .ok merged) {k : Nat} (hk : k < pageSize) :
    merged[k]? = if offset ≤ k ∧ k < offset + bytes.length then bytes[k - offset]? else page[k]? := by
  simp only [Page.overlay] at h
  split at h
  · cases Except.ok.inj h
    have inside : k < 32 := hk
    rw [Vector.getElem?_eq_getElem inside, Vector.getElem_ofFn]
    by_cases after : offset ≤ k
    · rw [if_pos after]
      by_cases before : k < offset + bytes.length
      · rw [if_pos ⟨after, before⟩,
          List.getElem?_eq_getElem (show k - offset < bytes.length by omega)]
        rfl
      · rw [if_neg (by omega), Vector.getElem?_eq_getElem inside,
          List.getElem?_eq_none (show bytes.length ≤ k - offset by omega)]
        rfl
    · rw [if_neg after, if_neg (by omega), Vector.getElem?_eq_getElem inside]
      rfl
  · cases h

/-- Programming a page that agrees with the contents, with bytes laid over it, writes those bytes
alone. -/
theorem Page.splice_overlay {mem : Array UInt8} {i offset : Nat} {page merged : Page}
    {bytes : List UInt8} (extent : i + pageSize ≤ mem.size)
    (agrees : ∀ k, k < pageSize → page[k]? = mem[i + k]?)
    (short : offset + bytes.length ≤ pageSize) (h : Page.overlay page offset bytes = .ok merged) :
    Bytes.splice mem i merged.toList = Bytes.splice mem (i + offset) bytes := by
  have length : merged.toList.length = pageSize := Vector.length_toList
  apply Array.ext_getElem?
  intro j
  rw [Bytes.getElem?_splice, Bytes.getElem?_splice, length]
  by_cases inPage : i ≤ j ∧ j < i + pageSize
  · have here : j - i < pageSize := by omega
    have entry := (Page.getElem?_overlay h here).trans (congrArg (ite _ _) (agrees _ here))
    rw [← Vector.getElem?_toList, show i + (j - i) = j by omega,
      show j - i - offset = j - (i + offset) by omega] at entry
    rw [if_pos (by omega), entry]
    by_cases laid : i + offset ≤ j ∧ j < i + offset + bytes.length
    · rw [if_pos (by omega), if_pos (by omega)]
    · rw [if_neg (by omega), if_neg (by omega)]
  · rw [if_neg (by omega), if_neg (by omega)]

/-! ## The page after a page -/

/-- After a page inside a device whose end is an address there is another address. -/
theorem PagedRam.Covers.next_fits {d : PagedRam} {addr : UInt32} (cov : d.Covers addr pageSize)
    (fits : d.base.toNat + d.mem.size < 0x100000000) :
    addr.toNat + (32 : UInt32).toNat < 0x100000000 := by
  have page : (32 : UInt32).toNat = 32 := rfl
  unfold PagedRam.Covers pageSize at cov
  omega

theorem toNat_nextPage {addr : UInt32} (fits : addr.toNat + (32 : UInt32).toNat < 0x100000000) :
    (addr + 32).toNat = addr.toNat + pageSize := by
  rw [UInt32.toNat_add, Nat.mod_eq_of_lt fits]
  rfl

namespace Storage

/-! ## Running a write -/

theorem run_onDevice {δ α : Type} {x : Act Error δ α} {d d' : δ} {r : Except Error α}
    (h : x.run d = (r, d')) : (onDevice x).run d = (r.mapError .error, d') := by
  rw [onDevice, Act.run_mapFailure, h]

theorem run_checked {δ α : Type} (x : Except Trap α) (d : δ) :
    (checked x : Act Failure δ α).run d = (x.mapError .trap, d) :=
  Act.run_ofExcept ..

theorem checked_ok {δ α : Type} (a : α) : (checked (.ok a) : Act Failure δ α) = Pure.pure a :=
  rfl

/-- One page patched on a device with nothing staged, or with that page staged first: everything
else that was staged is programmed with it. -/
theorem run_patchPage {d : PagedRam} {addr : UInt32} {offset : Nat} {bytes : List UInt8}
    (staged : d.StagedFrom addr) (aligned : addr.toNat % pageSize = 0)
    (cov : d.Covers addr pageSize) (short : offset + bytes.length ≤ pageSize) :
    ∃ d', (patchPage addr offset bytes).run d = (.ok (), d') ∧ d'.base = d.base ∧
      d'.staged = [] ∧
      d'.mem = Bytes.splice (d.settledAround addr) (d.index addr + offset) bytes := by
  obtain ⟨merged, hm⟩ : ∃ merged, Page.overlay (d.bytesAt addr pageSize) offset bytes = .ok merged :=
    ⟨_, Page.overlay_eq_ok short⟩
  have inside := staged.inside.loaded cov merged
  have first := (PagedRam.head?_loaded_eq_iff merged).mpr staged.first
  -- the page as it was read is the page of the contents around which everything is settled
  have agrees : ∀ k, k < pageSize →
      (d.bytesAt addr pageSize)[k]? = (d.settledAround addr)[d.index addr + k]? := by
    intro k hk
    rw [PagedRam.getElem?_bytesAt cov hk, PagedRam.getElem?_settledAround cov,
      if_pos (by omega)]
  refine ⟨(d.loaded addr merged).committed, ?_, rfl, rfl, ?_⟩
  · rw [patchPage, Act.run_bind_ok (run_onDevice (PagedRam.run_read cov)), hm,
      Act.run_bind_ok (run_checked _ _),
      Act.run_bind_ok (run_onDevice (PagedRam.run_load aligned cov merged)),
      run_onDevice (PagedRam.run_commit inside first)]
    rfl
  · change (d.loaded addr merged).settled = _
    rw [PagedRam.settled_loaded, ← PagedRam.splice_settledAround]
    have extent : d.index addr + pageSize ≤ (d.settledAround addr).size := by
      rw [PagedRam.size_settledAround]
      exact cov.2
    exact Page.splice_overlay extent agrees short hm

/-- With another page staged first, a page is loaded and then not committed. -/
theorem run_patchPage_blocked {d : PagedRam} {addr : UInt32} {offset : Nat} {bytes : List UInt8}
    (blocked : ¬ ∀ page ∈ d.staged.head?, page.1 = addr) (aligned : addr.toNat % pageSize = 0)
    (cov : d.Covers addr pageSize) (short : offset + bytes.length ≤ pageSize) :
    ∃ merged, (patchPage addr offset bytes).run d =
      (.error (.error .storage), d.loaded addr merged) := by
  obtain ⟨merged, hm⟩ : ∃ merged, Page.overlay (d.bytesAt addr pageSize) offset bytes = .ok merged :=
    ⟨_, Page.overlay_eq_ok short⟩
  have first := mt (PagedRam.head?_loaded_eq_iff merged).mp blocked
  refine ⟨merged, ?_⟩
  rw [patchPage, Act.run_bind_ok (run_onDevice (PagedRam.run_read cov)), hm,
    Act.run_bind_ok (run_checked _ _),
    Act.run_bind_ok (run_onDevice (PagedRam.run_load aligned cov merged)),
    run_onDevice (PagedRam.run_commit_refused first)]
  rfl

/-- A page outside the device is not patched, and nothing happens. -/
theorem run_patchPage_refused {d : PagedRam} {addr : UInt32} (offset : Nat) (bytes : List UInt8)
    (h : ¬ d.Covers addr pageSize) :
    (patchPage addr offset bytes).run d = (.error (.error .storage), d) := by
  rw [patchPage, Act.run_bind_error (run_onDevice (PagedRam.run_read_refused h))]

/-! ## The paging loop -/

/-- What holds before the loop comes to the page at `addr`. -/
structure Batching (d : PagedRam) (addr : UInt32) (batch : Option UInt32) : Prop where
  fits : d.base.toNat + d.mem.size < 0x100000000
  aligned : addr.toNat % pageSize = 0
  start : d.base.toNat ≤ addr.toNat
  inside : d.StagedInside
  batch : d.staged.head?.map Prod.fst = batch

/-- After a load the loop stands before the next page, with a batch. -/
theorem Batching.loaded {d : PagedRam} {addr : UInt32} {batch : Option UInt32}
    (h : Batching d addr batch) (cov : d.Covers addr pageSize) (page : Page) :
    Batching (d.loaded addr page) (addr + 32) (some (batch.getD addr)) where
  fits := h.fits
  aligned := by rw [toNat_nextPage (cov.next_fits h.fits), Nat.add_mod_right, h.aligned]
  start := by
    rw [toNat_nextPage (cov.next_fits h.fits)]
    exact Nat.le_add_right_of_le h.start
  inside := h.inside.loaded cov page
  batch := by rw [PagedRam.head?_loaded, h.batch]

theorem Batching.committed {d : PagedRam} {addr : UInt32} {batch : Option UInt32}
    (h : Batching d addr batch) : Batching d.committed addr none where
  fits := by
    rw [PagedRam.size_committed]
    exact h.fits
  aligned := h.aligned
  start := h.start
  inside := PagedRam.StagedInside.committed d
  batch := rfl

/-- One whole page: it is loaded, a batch that it completes is committed, and the next one follows. -/
theorem writePages_succ {δ : Type} [PageDevice δ] (n : Nat) (addr : UInt32)
    (batch : Option UInt32) (bytes : List UInt8) :
    (writePages (n + 1) addr batch bytes : Act Failure δ Unit) =
      onDevice (PageDevice.load addr (Page.ofBytes (bytes.take pageSize))) >>= fun _ =>
      (if endsBlock addr then onDevice (PageDevice.commit (batch.getD addr)) else pure ()) >>= fun _ =>
      checked (checkedAdd addr 32) >>= fun next =>
      writePages n next (if endsBlock addr then none else some (batch.getD addr))
        (bytes.drop pageSize) := by
  rw [writePages]
  by_cases ends : endsBlock addr = true
  · simp only [if_pos ends]
  · simp only [if_neg ends, pure_bind]

/-- Past one whole page, the loop stands before the next and the page is staged or written. -/
theorem Batching.step {d : PagedRam} {addr : UInt32} {batch : Option UInt32}
    (h : Batching d addr batch) (cov : d.Covers addr pageSize) {bytes : List UInt8}
    (full : pageSize ≤ bytes.length) (n : Nat) :
    ∃ d' next batch', (writePages (n + 1) addr batch bytes).run d =
        (writePages n next batch' (bytes.drop pageSize)).run d' ∧
      Batching d' next batch' ∧ next.toNat = addr.toNat + pageSize ∧ d'.base = d.base ∧
      d'.mem.size = d.mem.size ∧
      d'.settled = Bytes.splice d.settled (d.index addr) (bytes.take pageSize) := by
  have top := cov.next_fits h.fits
  have next := toNat_nextPage top
  have page : (Page.ofBytes (bytes.take pageSize)).toList = bytes.take pageSize :=
    Page.toList_ofBytes (by rw [List.length_take, Nat.min_eq_left full])
  have settled' := d.settled_loaded addr (Page.ofBytes (bytes.take pageSize))
  rw [page] at settled'
  have loaded := h.loaded cov (Page.ofBytes (bytes.take pageSize))
  rw [writePages, Act.run_bind_ok (run_onDevice (PagedRam.run_load h.aligned cov _))]
  by_cases ends : endsBlock addr = true
  · -- a page that ends a block takes the batch with it
    refine ⟨_, addr + 32, none, ?_, loaded.committed, next, rfl, PagedRam.size_committed _, settled'⟩
    simp only [if_pos ends]
    rw [Act.run_bind_ok (run_onDevice (PagedRam.run_commit loaded.inside loaded.batch)),
      checkedAdd_eq_ok top, Act.run_bind_ok (run_checked _ _)]
  · refine ⟨_, addr + 32, _, ?_, loaded, next, rfl, rfl, settled'⟩
    simp only [if_neg ends]
    rw [checkedAdd_eq_ok top, Act.run_bind_ok (run_checked _ _)]

/-- After the whole pages, what is staged is committed and the bytes left are patched in. -/
theorem Batching.flush {d : PagedRam} {addr : UInt32} {batch : Option UInt32}
    (h : Batching d addr batch) (bytes : List UInt8) :
    ∃ d', (writePages 0 addr batch bytes).run d =
        (if bytes.isEmpty then pure () else patchPage addr 0 bytes : Act Failure _ _).run d' ∧
      d'.base = d.base ∧ d'.staged = [] ∧ d'.mem = d.settled := by
  obtain ⟨fits, aligned, start, inside, rfl⟩ := h
  cases staged : d.staged with
  | nil =>
    exact ⟨d, rfl, rfl, staged, (PagedRam.settled_of_clean staged).symm⟩
  | cons entry rest =>
    have first : d.staged.head?.map Prod.fst = some entry.1 := by rw [staged]; rfl
    refine ⟨d.committed, ?_, rfl, rfl, rfl⟩
    simp only [List.head?_cons, Option.map_some, writePages]
    rw [Act.run_bind_ok (run_onDevice (PagedRam.run_commit inside first))]

/-- The last page, whole or in part, after the whole pages before it. -/
theorem Batching.last {d : PagedRam} {addr : UInt32} {batch : Option UInt32}
    (h : Batching d addr batch) {bytes : List UInt8} (short : bytes.length ≤ pageSize)
    (top : (addr.toNat + bytes.length + 31) / 32 * 32 ≤ d.base.toNat + d.mem.size) :
    ∃ d', (writePages 0 addr batch bytes).run d = (.ok (), d') ∧ d'.base = d.base ∧
      d'.staged = [] ∧ d'.mem = Bytes.splice d.settled (d.index addr) bytes := by
  obtain ⟨d', run, base, clean, mem⟩ := h.flush bytes
  have start := h.start
  have aligned := h.aligned
  rw [run]
  cases bytes with
  | nil => exact ⟨d', rfl, base, clean, mem⟩
  | cons b rest =>
    have cov : d'.Covers addr pageSize := by
      simp only [PagedRam.Covers, pageSize, mem, base, PagedRam.size_settled, List.length_cons]
        at aligned top ⊢
      omega
    have fits : 0 + (b :: rest).length ≤ pageSize := by
      rw [Nat.zero_add]
      exact short
    obtain ⟨d'', run', base', clean', mem'⟩ :=
      run_patchPage (.of_clean clean addr) aligned cov fits
    refine ⟨d'', run', base'.trans base, clean', ?_⟩
    rw [mem', PagedRam.settledAround_of_clean clean cov, mem, Nat.add_zero, PagedRam.index, base]
    rfl

/-- The bytes from `addr` on are written if the pages that they touch are inside the device. -/
theorem run_writePages (n : Nat) {d : PagedRam} {addr : UInt32} {batch : Option UInt32}
    {bytes : List UInt8} (h : Batching d addr batch) (count : n = wholePages bytes.length)
    (top : (addr.toNat + bytes.length + 31) / 32 * 32 ≤ d.base.toNat + d.mem.size) :
    ∃ d', (writePages n addr batch bytes).run d = (.ok (), d') ∧ d'.base = d.base ∧
      d'.staged = [] ∧ d'.mem = Bytes.splice d.settled (d.index addr) bytes := by
  have start := h.start
  have aligned := h.aligned
  simp only [wholePages, pageSize] at count aligned
  induction n generalizing d addr batch bytes with
  | zero =>
    have short : bytes.length ≤ pageSize := by
      simp only [pageSize]
      omega
    exact h.last short top
  | succ n ih =>
    have full : pageSize ≤ bytes.length := by
      simp only [pageSize]
      omega
    have cov : d.Covers addr pageSize := by
      simp only [PagedRam.Covers, pageSize]
      omega
    obtain ⟨d', next, batch', run, h', hnext, base, size, settled'⟩ := h.step cov full n
    have left : (bytes.drop pageSize).length = bytes.length - 32 := List.length_drop
    simp only [pageSize] at hnext
    have count' : n = ((bytes.drop pageSize).length - 1) / 32 := by omega
    have top' : (next.toNat + (bytes.drop pageSize).length + 31) / 32 * 32 ≤
        d'.base.toNat + d'.mem.size := by
      rw [base, size]
      omega
    obtain ⟨d'', run', base', clean', mem'⟩ := ih h' count' top' h'.start h'.aligned
    refine ⟨d'', run.trans run', base'.trans base, clean', ?_⟩
    have taken : (bytes.take pageSize).length = 32 := List.length_take_of_le full
    have index' : d'.index next = d.index addr + 32 := by
      simp only [PagedRam.index, base, hnext]
      omega
    calc d''.mem
        = Bytes.splice (Bytes.splice d.settled (d.index addr) (bytes.take pageSize))
            (d.index addr + 32) (bytes.drop pageSize) := by rw [mem', settled', index']
      _ = Bytes.splice d.settled (d.index addr)
            (bytes.take pageSize ++ bytes.drop pageSize) := by rw [Bytes.splice_append, taken]
      _ = Bytes.splice d.settled (d.index addr) bytes := by rw [List.take_append_drop]

/-- Bytes that touch a page outside the device are refused, maybe after some were written. -/
theorem run_writePages_refused (n : Nat) {d : PagedRam} {addr : UInt32} {batch : Option UInt32}
    {bytes : List UInt8} (h : Batching d addr batch) (count : n = wholePages bytes.length)
    (some : bytes ≠ [])
    (top : d.base.toNat + d.mem.size < (addr.toNat + bytes.length + 31) / 32 * 32) :
    ∃ d', (writePages n addr batch bytes).run d = (.error (.error .storage), d') := by
  have aligned := h.aligned
  have nonempty : 0 < bytes.length := List.length_pos_iff.mpr some
  simp only [wholePages, pageSize] at count aligned
  induction n generalizing d addr batch bytes with
  | zero =>
    obtain ⟨d', run, base, clean, mem⟩ := h.flush bytes
    have cov : ¬ d'.Covers addr pageSize := by
      simp only [PagedRam.Covers, pageSize, mem, base, PagedRam.size_settled]
      omega
    rw [run, if_neg (by simpa using some), run_patchPage_refused 0 bytes cov]
    exact ⟨d', rfl⟩
  | succ n ih =>
    -- either this page is the first outside, or the loop goes on and meets one later
    by_cases cov : d.Covers addr pageSize
    · have full : pageSize ≤ bytes.length := by
        simp only [pageSize]
        omega
      obtain ⟨d', next, batch', run, h', hnext, base, size, settled'⟩ := h.step cov full n
      have left : (bytes.drop pageSize).length = bytes.length - 32 := List.length_drop
      simp only [pageSize] at hnext
      have count' : n = ((bytes.drop pageSize).length - 1) / 32 := by omega
      have top' : d'.base.toNat + d'.mem.size <
          (next.toNat + (bytes.drop pageSize).length + 31) / 32 * 32 := by
        rw [base, size]
        omega
      rw [run]
      exact ih h' count' (List.ne_nil_of_length_pos (by omega)) top' h'.aligned (by omega)
    · rw [writePages, Act.run_bind_error (run_onDevice (PagedRam.run_load_refused
        (fun both => cov both.2) _))]
      exact ⟨d, rfl⟩

/-! ## The range check -/

theorem run_range {d : PagedRam} (fits : d.base.toNat + d.mem.size < 0x100000000) :
    ∃ last : UInt32, PageDevice.range d = .ok (d.base, last) ∧
      last.toNat = d.base.toNat + d.mem.size := by
  have size : d.mem.size.toUInt32.toNat = d.mem.size := by
    rw [Nat.toUInt32_eq, UInt32.toNat_ofNat', Nat.mod_eq_of_lt (by omega)]
  have sum : d.base.toNat + d.mem.size.toUInt32.toNat < 0x100000000 := by rw [size]; exact fits
  refine ⟨d.base + d.mem.size.toUInt32, ?_, ?_⟩
  · change (checkedAdd d.base d.mem.size.toUInt32 >>= fun last => pure (d.base, last)) = _
    rw [checkedAdd_eq_ok sum]
    rfl
  · rw [UInt32.toNat_add, Nat.mod_eq_of_lt sum, size]

/-- A device lets a range pass whose length, counted in a word, is inside it, and is left as it is
either way. -/
theorem run_checkRange_mod {δ : Type} [PageDevice δ] {d : δ} {start finish : UInt32}
    (range : PageDevice.range d = .ok (start, finish)) (addr : UInt32) (len : Nat) :
    (checkRange addr len : Act Failure δ Unit).run d =
      (if start.toNat ≤ addr.toNat ∧ addr.toNat + len % 0x100000000 ≤ finish.toNat then .ok ()
        else .error (.error .storage), d) := by
  have top := finish.toNat_lt
  have word : len.toUInt32.toNat = len % 0x100000000 := by
    rw [Nat.toUInt32_eq, UInt32.toNat_ofNat']
  rw [checkRange, Act.run_gets_bind, range, Act.run_bind_ok (run_checked _ _)]
  dsimp only
  by_cases sum : addr.toNat + len.toUInt32.toNat < 0x100000000
  · have last : (addr + len.toUInt32).toNat = addr.toNat + len % 0x100000000 := by
      rw [UInt32.toNat_add, Nat.mod_eq_of_lt sum, word]
    rw [checkedAdd_eq_ok sum]
    dsimp only
    by_cases outside : addr < start ∨ finish < addr + len.toUInt32
    · rw [if_pos outside]
      rw [UInt32.lt_iff_toNat_lt, UInt32.lt_iff_toNat_lt, last] at outside
      rw [if_neg (by omega)]
      rfl
    · rw [if_neg outside]
      rw [UInt32.lt_iff_toNat_lt, UInt32.lt_iff_toNat_lt, last] at outside
      rw [if_pos (by omega)]
      rfl
  · rw [checkedAdd_eq_error (Nat.not_lt.mp sum)]
    rw [word] at sum
    rw [if_neg (by omega)]
    rfl

/-- A device lets pass exactly the ranges inside it. -/
theorem run_checkRange {d : PagedRam} (fits : d.base.toNat + d.mem.size < 0x100000000) (addr : UInt32)
    {len : Nat} (counted : len < 0x100000000) :
    (checkRange addr len : Act Failure PagedRam Unit).run d =
      (if d.base.toNat ≤ addr.toNat ∧ addr.toNat + len ≤ d.base.toNat + d.mem.size then .ok ()
        else .error (.error .storage), d) := by
  obtain ⟨last, range, top⟩ := run_range fits
  rw [run_checkRange_mod range, top, Nat.mod_eq_of_lt counted]

/-- The range check of a device that has the range of `d`. -/
theorem run_checkRange_as {δ : Type} [PageDevice δ] {s : δ} {d : PagedRam}
    (same : PageDevice.range s = PageDevice.range d)
    (fits : d.base.toNat + d.mem.size < 0x100000000) (addr : UInt32) {len : Nat}
    (counted : len < 0x100000000) :
    (checkRange addr len : Act Failure δ Unit).run s =
      (if d.Covers addr len then .ok () else .error (.error .storage), s) := by
  obtain ⟨last, range, top⟩ := run_range fits
  have covers : d.Covers addr len ↔
      d.base.toNat ≤ addr.toNat ∧ addr.toNat + len ≤ d.base.toNat + d.mem.size := by
    simp only [PagedRam.Covers]
    omega
  rw [run_checkRange_mod (same.trans range), top, Nat.mod_eq_of_lt counted]
  simp only [covers]

/-! ## The whole write -/

/-- Address of the page that holds `addr`. -/
def pageOf (addr : UInt32) : UInt32 :=
  addr - (addr.toNat % pageSize).toUInt32

/-- How many bytes of `data` go to the page that holds `addr`. -/
def firstLength (addr : UInt32) (data : List UInt8) : Nat :=
  min (pageSize - addr.toNat % pageSize) data.length

theorem firstLength_eq (addr : UInt32) (data : List UInt8) :
    firstLength addr data = min (32 - addr.toNat % 32) data.length :=
  rfl

theorem length_take_firstLength (addr : UInt32) (data : List UInt8) :
    (data.take (firstLength addr data)).length = firstLength addr data :=
  List.length_take_of_le (Nat.min_le_right ..)

theorem firstLength_fits (addr : UInt32) (data : List UInt8) :
    addr.toNat % pageSize + (data.take (firstLength addr data)).length ≤ pageSize := by
  rw [length_take_firstLength, firstLength_eq]
  simp only [pageSize]
  omega

theorem toNat_pageOf (addr : UInt32) : (pageOf addr).toNat = addr.toNat / 32 * 32 := by
  have offset : (addr.toNat % pageSize).toUInt32.toNat = addr.toNat % 32 := by
    rw [Nat.toUInt32_eq, UInt32.toNat_ofNat', Nat.mod_eq_of_lt (by simp only [pageSize]; omega)]
    rfl
  rw [pageOf, UInt32.toNat_sub_of_le _ _ (by rw [UInt32.le_iff_toNat_le, offset]; omega), offset]
  omega

theorem pageOf_aligned (addr : UInt32) : (pageOf addr).toNat % pageSize = 0 := by
  rw [toNat_pageOf]
  exact Nat.mul_mod_left ..

/-- The first page is patched and the others are paged. -/
theorem writeFrom_eq {δ : Type} [PageDevice δ] (addr : UInt32) (data : List UInt8) :
    (writeFrom addr data : Act Failure δ Unit) = (do
      patchPage (pageOf addr) (addr.toNat % pageSize) (data.take (firstLength addr data))
      let next ← checked (checkedAdd (pageOf addr) 32)
      writePages (wholePages (data.drop (firstLength addr data)).length) next none
        (data.drop (firstLength addr data))) := by
  have short : 0 + firstLength addr data ≤ data.length := by
    rw [Nat.zero_add]
    exact Nat.min_le_right ..
  unfold firstLength at short
  rw [writeFrom, slice_eq_ok short, checked_ok, pure_bind]
  rfl

/-- A write whose pages are inside the device begins inside it. -/
theorem covers_pageOf {d : PagedRam} {addr : UInt32} {data : List UInt8} (some : data ≠ [])
    (holds : d.HoldsPages addr data.length) : d.Covers (pageOf addr) pageSize := by
  obtain ⟨low, high⟩ := holds
  have nonempty : 0 < data.length := List.length_pos_iff.mpr some
  simp only [PagedRam.Covers, pageSize, toNat_pageOf]
  omega

/-- Past the first page, the loop stands before the next with nothing staged. -/
theorem run_leading {d : PagedRam} (fits : d.base.toNat + d.mem.size < 0x100000000)
    {addr : UInt32} (staged : d.StagedFrom (pageOf addr)) (cov : d.Covers (pageOf addr) pageSize)
    (data : List UInt8) :
    ∃ d' next, (writeFrom addr data).run d =
        (writePages (wholePages (data.drop (firstLength addr data)).length) next none
          (data.drop (firstLength addr data))).run d' ∧
      Batching d' next none ∧ next.toNat = (pageOf addr).toNat + 32 ∧ d'.base = d.base ∧
      d'.staged = [] ∧
      d'.mem = Bytes.splice (d.settledAround (pageOf addr)) (d.index addr)
        (data.take (firstLength addr data)) := by
  have page := toNat_pageOf addr
  obtain ⟨d', run, base, clean', mem⟩ :=
    run_patchPage staged (pageOf_aligned addr) cov (firstLength_fits addr data)
  have size : d'.mem.size = d.mem.size := by
    rw [mem, Bytes.size_splice, PagedRam.size_settledAround]
  have top := cov.next_fits fits
  have next : (pageOf addr + 32).toNat = (pageOf addr).toNat + 32 := toNat_nextPage top
  refine ⟨d', pageOf addr + 32, ?_, ⟨?_, ?_, ?_, ?_, ?_⟩, next, base, clean', ?_⟩
  · rw [writeFrom_eq, Act.run_bind_ok run, checkedAdd_eq_ok top, checked_ok, pure_bind]
  · rw [base, size]
    exact fits
  · rw [next, page, pageSize]
    omega
  · rw [base, next]
    exact Nat.le_add_right_of_le cov.1
  · intro entry staged
    rw [clean'] at staged
    cases staged
  · rw [clean']
    rfl
  · have low := cov.1
    rw [mem, PagedRam.index, PagedRam.index, show (pageOf addr).toNat - d.base.toNat +
      addr.toNat % pageSize = addr.toNat - d.base.toNat by simp only [pageSize]; omega]

/-- A write whose pages are inside the device, the range check apart. -/
theorem run_writeFrom {d : PagedRam} (fits : d.base.toNat + d.mem.size < 0x100000000)
    {addr : UInt32} {data : List UInt8} (staged : d.StagedFrom (pageOf addr)) (some : data ≠ [])
    (holds : d.HoldsPages addr data.length) :
    ∃ d', (writeFrom addr data).run d = (.ok (), d') ∧ d'.base = d.base ∧ d'.staged = [] ∧
      d'.mem = Bytes.splice (d.settledAround (pageOf addr)) (d.index addr) data := by
  have cov := covers_pageOf some holds
  obtain ⟨low, high⟩ := holds
  have nonempty : 0 < data.length := List.length_pos_iff.mpr some
  have page := toNat_pageOf addr
  obtain ⟨d', next, run, h, hnext, base, clean', mem⟩ := run_leading fits staged cov data
  have size : d'.mem.size = d.mem.size := by
    rw [mem, Bytes.size_splice, PagedRam.size_settledAround]
  have taken := length_take_firstLength addr data
  have first := firstLength_eq addr data
  have whole := List.take_append_drop (firstLength addr data) data
  -- from here on only the lengths of the two parts matter
  generalize data.take (firstLength addr data) = head at mem taken whole
  generalize data.drop (firstLength addr data) = rest at run whole
  subst whole
  simp only [List.length_append] at high nonempty first
  have top : (next.toNat + rest.length + 31) / 32 * 32 ≤ d'.base.toNat + d'.mem.size := by
    rw [base, size]
    omega
  obtain ⟨d'', run', base', clean'', mem'⟩ := run_writePages _ h rfl top
  refine ⟨d'', run.trans run', base'.trans base, clean'', ?_⟩
  rw [mem', PagedRam.settled_of_clean clean', mem, Bytes.splice_append]
  cases rest with
  | nil => rfl
  | cons b rest =>
    -- only here does the first page end where `head` does
    have index' : d'.index next = d.index addr + head.length := by
      simp only [PagedRam.index, base, hnext, page, List.length_cons] at first ⊢
      omega
    rw [index']

/-- A write that touches a page outside the device is refused, maybe after part of it is written,
and so is one that begins with another page than what is staged. -/
theorem run_writeFrom_refused {d : PagedRam} (fits : d.base.toNat + d.mem.size < 0x100000000)
    (inside : d.StagedInside) {addr : UInt32} {data : List UInt8} (some : data ≠ [])
    (refused : ¬ (d.StagedFrom (pageOf addr) ∧ d.HoldsPages addr data.length)) :
    ∃ d', (writeFrom addr data).run d = (.error (.error .storage), d') := by
  have nonempty : 0 < data.length := List.length_pos_iff.mpr some
  have page := toNat_pageOf addr
  by_cases cov : d.Covers (pageOf addr) pageSize
  · by_cases first : ∀ page ∈ d.staged.head?, page.1 = pageOf addr
    · have holds : ¬ d.HoldsPages addr data.length :=
        fun holds => refused ⟨⟨inside, first⟩, holds⟩
      obtain ⟨d', next, run, h, hnext, base, clean', mem⟩ :=
        run_leading fits ⟨inside, first⟩ cov data
      have size : d'.mem.size = d.mem.size := by
        rw [mem, Bytes.size_splice, PagedRam.size_settledAround]
      have length := firstLength_eq addr data
      have left : (data.drop (firstLength addr data)).length =
          data.length - firstLength addr data := List.length_drop
      simp only [PagedRam.HoldsPages, PagedRam.Covers, pageSize, page] at holds cov
      have top : d'.base.toNat + d'.mem.size <
          (next.toNat + (data.drop (firstLength addr data)).length + 31) / 32 * 32 := by
        rw [base, size]
        omega
      rw [run]
      exact run_writePages_refused _ h rfl (List.ne_nil_of_length_pos (by omega)) top
    · obtain ⟨merged, run⟩ :=
        run_patchPage_blocked first (pageOf_aligned addr) cov (firstLength_fits addr data)
      refine ⟨d.loaded (pageOf addr) merged, ?_⟩
      rw [writeFrom_eq]
      exact Act.run_bind_error run _
  · refine ⟨d, ?_⟩
    rw [writeFrom_eq]
    exact Act.run_bind_error (run_patchPage_refused _ _ cov) _

theorem run_write {d d' : PagedRam} {addr : UInt32} {data : List UInt8} {r : Except Failure Unit}
    (checked : (checkRange addr data.length).run d = (.ok (), d)) (some : data ≠ [])
    (h : (writeFrom addr data).run d = (r, d')) : (write addr data).run d = (r, d') := by
  cases data with
  | nil => exact absurd rfl some
  | cons b rest =>
    rw [write, Act.run_bind_ok checked]
    cases r with
    | error e => rw [Act.run_bind_error h]
    | ok done => rw [Act.run_bind_ok h, Act.run_log]

/-- A range that leaves the device is refused before anything is called. -/
theorem run_write_outside {d : PagedRam} (fits : d.base.toNat + d.mem.size < 0x100000000)
    {addr : UInt32} {data : List UInt8} (some : data ≠ []) (counted : data.length < 0x100000000)
    (outside : ¬ (d.base.toNat ≤ addr.toNat ∧
      addr.toNat + data.length ≤ d.base.toNat + d.mem.size)) :
    (write addr data).run d = (.error (.error .storage), d) := by
  cases data with
  | nil => exact absurd rfl some
  | cons b rest =>
    have refused := run_checkRange fits addr counted
    rw [if_neg outside] at refused
    rw [write, Act.run_bind_error refused]

/-- A write that may begin puts its bytes in place; what is staged is programmed around its first
page. -/
theorem run_write_over {d : PagedRam} (fits : d.base.toNat + d.mem.size < 0x100000000)
    {addr : UInt32} {data : List UInt8} (staged : d.StagedFrom (pageOf addr)) (some : data ≠ [])
    (holds : d.HoldsPages addr data.length) :
    ∃ d', (write addr data).run d = (.ok (), d') ∧ d'.base = d.base ∧ d'.staged = [] ∧
      d'.mem = Bytes.splice (d.settledAround (pageOf addr)) (d.index addr) data := by
  have inside := holds
  simp only [PagedRam.HoldsPages] at inside
  have counted : data.length < 0x100000000 := by omega
  have passed := run_checkRange fits addr counted
  rw [if_pos (by omega)] at passed
  obtain ⟨d', run, left⟩ := run_writeFrom fits staged some holds
  exact ⟨d', run_write passed some run, left⟩

theorem run_write_barred {d : PagedRam} (fits : d.base.toNat + d.mem.size < 0x100000000)
    (inside : d.StagedInside) {addr : UInt32} {data : List UInt8} (some : data ≠ [])
    (refused : ¬ (d.StagedFrom (pageOf addr) ∧ d.HoldsPages addr data.length)) :
    ∃ d', (write addr data).run d = (.error (.error .storage), d') := by
  obtain ⟨last, range, -⟩ := run_range fits
  have check := run_checkRange_mod range addr data.length
  split at check
  · obtain ⟨d', run⟩ := run_writeFrom_refused fits inside some refused
    exact ⟨d', run_write check some run⟩
  · cases data with
    | nil => exact absurd rfl some
    | cons b rest => exact ⟨d, by rw [write, Act.run_bind_error check]⟩

theorem run_write_ok {d : PagedRam} (fits : d.base.toNat + d.mem.size < 0x100000000)
    (clean : d.staged = []) {addr : UInt32} {data : List UInt8} (some : data ≠ [])
    (holds : d.HoldsPages addr data.length) :
    ∃ d', (write addr data).run d = (.ok (), d') ∧ d'.base = d.base ∧ d'.staged = [] ∧
      d'.mem = Bytes.splice d.mem (d.index addr) data := by
  have written := run_write_over fits (.of_clean clean _) some holds
  rwa [PagedRam.settledAround_of_clean clean (covers_pageOf some holds)] at written

theorem run_write_refused {d : PagedRam} (fits : d.base.toNat + d.mem.size < 0x100000000)
    (clean : d.staged = []) {addr : UInt32} {data : List UInt8} (some : data ≠ [])
    (holds : ¬ d.HoldsPages addr data.length) :
    ∃ d', (write addr data).run d = (.error (.error .storage), d') :=
  run_write_barred fits (PagedRam.StagedFrom.of_clean clean addr).inside some
    fun both => holds both.2

/-- On a device made of whole pages, rounding outwards loses nothing. -/
theorem holdsPages_iff {d : PagedRam} (base : d.base.toNat % 32 = 0) (size : d.mem.size % 32 = 0)
    (addr : UInt32) (len : Nat) :
    d.HoldsPages addr len ↔
      d.base.toNat ≤ addr.toNat ∧ addr.toNat + len ≤ d.base.toNat + d.mem.size := by
  simp only [PagedRam.HoldsPages]
  omega

/-- A write to a device with nothing staged is a splice or fails: it works if there is nothing to
write or all pages touched are inside the device, and then only the bytes of its range are new.
On a device made of whole pages a write that fails has done nothing, if a word counts its bytes. -/
theorem write_eq_splice {d d' : PagedRam} {addr : UInt32} {data : List UInt8}
    {r : Except Failure Unit} (fits : d.base.toNat + d.mem.size < 0x100000000)
    (clean : d.staged = []) (run : (write addr data).run d = (r, d')) :
    (r = .ok () ↔ data = [] ∨ d.HoldsPages addr data.length) ∧
    (r ≠ .ok () → r = .error (.error .storage)) ∧
    (r = .ok () → d'.mem = Bytes.splice d.mem (d.index addr) data ∧ d'.staged = [] ∧
      ∀ j, d'.mem[j]? =
        if d.index addr ≤ j ∧ j < d.index addr + data.length then data[j - d.index addr]?
        else d.mem[j]?) ∧
    (d.base.toNat % 32 = 0 → d.mem.size % 32 = 0 →
      (r = .ok () ↔ data = [] ∨
        (d.base.toNat ≤ addr.toNat ∧ addr.toNat + data.length ≤ d.base.toNat + d.mem.size)) ∧
      (data.length < 0x100000000 → r ≠ .ok () → d' = d)) := by
  by_cases empty : data = []
  · subst empty
    have works : (write addr []).run d = (.ok (), d) := rfl
    cases run.symm.trans works
    refine ⟨by simp, fun failed => absurd rfl failed, fun _ => ⟨rfl, clean, fun j => ?_⟩,
      fun _ _ => ⟨by simp, fun _ failed => absurd rfl failed⟩⟩
    rw [if_neg (by rw [List.length_nil]; omega)]
  by_cases holds : d.HoldsPages addr data.length
  · obtain ⟨d₁, works, base, clean', mem⟩ := run_write_ok fits clean empty holds
    cases run.symm.trans works
    refine ⟨by simp [holds], fun failed => absurd rfl failed,
      fun _ => ⟨mem, clean', fun j => ?_⟩, fun base size => ⟨?_, fun _ failed => absurd rfl failed⟩⟩
    · obtain ⟨low, high⟩ := holds
      rw [mem, Bytes.getElem?_splice]
      congr 1
      simp only [PagedRam.index, eq_iff_iff]
      omega
    · simpa [empty] using (holdsPages_iff base size addr data.length).mp holds
  · obtain ⟨d₁, fails⟩ := run_write_refused fits clean empty holds
    cases run.symm.trans fails
    refine ⟨by simp [empty, holds], fun _ => rfl, (nomatch ·), fun base size => ?_⟩
    -- whole pages: the range itself leaves the device, so no page was reached
    rw [holdsPages_iff base size] at holds
    refine ⟨by simp [empty, holds], fun counted _ => ?_⟩
    cases fails.symm.trans (run_write_outside fits empty counted holds)
    rfl

/-- A write over the end of a block, from the middle of one page to the middle of another. -/
theorem write_eq_splice_over_block :
    (PagedRam.new 992 96 7).base.toNat + (PagedRam.new 992 96 7).mem.size < 0x100000000 ∧
      (PagedRam.new 992 96 7).staged = [] ∧
      ((write 1000 (List.replicate 60 1)).run (PagedRam.new 992 96 7)).1 = .ok () ∧
      ((write 1000 (List.replicate 60 1)).run (PagedRam.new 992 96 7)).2.mem =
        Bytes.splice (PagedRam.new 992 96 7).mem 8 (List.replicate 60 1) := by
  have fits : (PagedRam.new 992 96 7).base.toNat + (PagedRam.new 992 96 7).mem.size < 0x100000000 := by
    decide
  have spec := write_eq_splice fits rfl
    (Prod.eta ((write 1000 (List.replicate 60 1)).run (PagedRam.new 992 96 7))).symm
  have works := spec.1.mpr (Or.inr (by decide))
  exact ⟨fits, rfl, works, (spec.2.2.1 works).1⟩

end Storage

end Coprocessor
