import Coprocessor.Proofs.Storage.StalePages

/-!
A write that fails. Whichever call of the device failed, the bytes stored are the first of the data,
up to the start of a page, and the pages left staged are those that follow, each as the whole write
would have made it.

A write is followed by the address up to which it is stored: `Midway` holds between any two calls,
because a call that fails does nothing.
-/
namespace Coprocessor

open Act

namespace PagedRam

/-- The contents that a write of `data` at `addr` aims at. -/
def target (d : PagedRam) (addr : UInt32) (data : List UInt8) : Array UInt8 :=
  Bytes.splice d.mem (d.index addr) data

/-- The contents with the bytes of `data` in place that have an address before `limit`. -/
def writtenUpTo (d : PagedRam) (addr : UInt32) (data : List UInt8) (limit : Nat) : Array UInt8 :=
  Bytes.splice d.mem (d.index addr) (data.take (limit - addr.toNat))

/-- The page at `a` as the write makes it. -/
def MakesPage (d : PagedRam) (addr : UInt32) (data : List UInt8) (a : UInt32) (page : Page) : Prop :=
  ∀ k, k < pageSize → page[k]? = (d.target addr data)[d.index a + k]?

/-- What a write to `d₀` has done when it is stored up to `start` and its next `n` pages are
staged. -/
structure Midway (d₀ : PagedRam) (addr : UInt32) (data : List UInt8) (start n : Nat)
    (d : PagedRam) : Prop where
  base : d.base = d₀.base
  aligned : start % 32 = 0
  begun : addr.toNat / 32 * 32 ≤ start
  stored : d.mem = d₀.writtenUpTo addr data start
  settled : d.settled = d₀.writtenUpTo addr data (start + 32 * n)
  pages : d.staged.map (fun page => page.1.toNat) = List.range' start n 32
  inside : d.StagedInside
  makes : ∀ page ∈ d.staged, d₀.MakesPage addr data page.1 page.2

variable {d₀ d : PagedRam} {addr a : UInt32} {data : List UInt8} {start : Nat}

@[simp] theorem size_writtenUpTo (d : PagedRam) (addr : UInt32) (data : List UInt8) (limit : Nat) :
    (d.writtenUpTo addr data limit).size = d.mem.size :=
  Bytes.size_splice ..

/-- Before the limit the contents are those aimed at, and after it the old ones. -/
theorem getElem?_writtenUpTo (low : d₀.base.toNat ≤ addr.toNat) (limit j : Nat) :
    (d₀.writtenUpTo addr data limit)[j]? =
      if d₀.base.toNat + j < limit then (d₀.target addr data)[j]? else d₀.mem[j]? := by
  simp only [writtenUpTo, target, Bytes.getElem?_splice, List.length_take, index]
  by_cases before : d₀.base.toNat + j < limit
  · rw [if_pos before]
    by_cases inRange : addr.toNat - d₀.base.toNat ≤ j ∧
        j < addr.toNat - d₀.base.toNat + data.length ∧ j < d₀.mem.size
    · rw [if_pos inRange, if_pos (by omega), List.getElem?_take_of_lt (by omega)]
    · rw [if_neg inRange, if_neg (by omega)]
  · rw [if_neg before, if_neg (by omega)]

/-- The byte that the write aims at, by its address. -/
theorem getElem?_target (cov : d₀.Covers addr data.length) (low : d₀.base.toNat ≤ a.toNat)
    (k : Nat) :
    (d₀.target addr data)[d₀.index a + k]? =
      if addr.toNat ≤ a.toNat + k ∧ a.toNat + k < addr.toNat + data.length then
        data[a.toNat + k - addr.toNat]?
      else d₀.mem[d₀.index a + k]? := by
  obtain ⟨low', high⟩ := cov
  simp only [target, Bytes.getElem?_splice, index]
  by_cases inRange : addr.toNat ≤ a.toNat + k ∧ a.toNat + k < addr.toNat + data.length
  · rw [if_pos inRange, if_pos (by omega)]
    congr 1
    omega
  · rw [if_neg inRange, if_neg (by omega)]

/-- A page that is programmed next takes what is written to its end. -/
theorem splice_writtenUpTo (low : d₀.base.toNat ≤ addr.toNat) (cov : d₀.Covers a pageSize)
    {page : Page} (makes : d₀.MakesPage addr data a page) :
    Bytes.splice (d₀.writtenUpTo addr data a.toNat) (d₀.index a) page.toList =
      d₀.writtenUpTo addr data (a.toNat + pageSize) := by
  obtain ⟨start, extent⟩ := cov
  simp only [pageSize] at extent ⊢
  apply Array.ext_getElem?
  intro j
  rw [Bytes.getElem?_splice, Vector.length_toList, size_writtenUpTo, getElem?_writtenUpTo low,
    getElem?_writtenUpTo low]
  by_cases inPage : a.toNat ≤ d₀.base.toNat + j ∧ d₀.base.toNat + j < a.toNat + 32
  · have entry := makes (j - d₀.index a) (by simp only [index, pageSize]; omega)
    rw [← Vector.getElem?_toList, show d₀.index a + (j - d₀.index a) = j by
      simp only [index]; omega] at entry
    rw [if_pos (by simp only [index]; omega), entry, if_pos inPage.2]
  · rw [if_neg (by simp only [index]; omega)]
    by_cases before : d₀.base.toNat + j < a.toNat
    · rw [if_pos before, if_pos (by omega)]
    · rw [if_neg before, if_neg (by omega)]

/-! ## What a call makes of it -/

/-- Before its first call a write has stored nothing. -/
theorem Midway.refl (clean : d₀.staged = []) : Midway d₀ addr data (addr.toNat / 32 * 32) 0 d₀ where
  base := rfl
  aligned := Nat.mul_mod_left ..
  begun := Nat.le_refl _
  stored := by
    rw [writtenUpTo, Nat.sub_eq_zero_of_le (Nat.div_mul_le_self ..)]
    rfl
  settled := by
    rw [settled_of_clean clean, Nat.mul_zero, Nat.add_zero, writtenUpTo,
      Nat.sub_eq_zero_of_le (Nat.div_mul_le_self ..)]
    rfl
  pages := by rw [clean]; rfl
  inside := (StagedFrom.of_clean clean addr).inside
  makes page mem := by rw [clean] at mem; cases mem

variable {n : Nat}

theorem Midway.index (h : Midway d₀ addr data start n d) (a : UInt32) : d.index a = d₀.index a := by
  rw [PagedRam.index, h.base]
  rfl

theorem Midway.covers_iff (h : Midway d₀ addr data start n d) (a : UInt32) (len : Nat) :
    d.Covers a len ↔ d₀.Covers a len := by
  rw [Covers, Covers, h.base, h.stored, size_writtenUpTo]

theorem Midway.length (h : Midway d₀ addr data start n d) : d.staged.length = n := by
  have length := congrArg List.length h.pages
  rwa [List.length_map, List.length_range'] at length

/-- The next page is staged. -/
theorem Midway.loaded (h : Midway d₀ addr data start n d) (low : d₀.base.toNat ≤ addr.toNat)
    (here : a.toNat = start + 32 * n) (cov : d.Covers a pageSize) {page : Page}
    (makes : d₀.MakesPage addr data a page) :
    Midway d₀ addr data start (n + 1) (d.loaded a page) where
  base := h.base
  aligned := h.aligned
  begun := h.begun
  stored := h.stored
  settled := by
    have cov' := (h.covers_iff a pageSize).mp cov
    rw [settled_loaded, h.settled, h.index, ← here, splice_writtenUpTo low cov' makes, here]
    rfl
  pages := by
    simp only [PagedRam.loaded, List.map_append, List.map_cons, List.map_nil, h.pages, here,
      List.range'_concat]
  inside := h.inside.loaded cov page
  makes entry mem := by
    simp only [PagedRam.loaded, List.mem_append, List.mem_singleton] at mem
    rcases mem with mem | rfl
    · exact h.makes entry mem
    · exact makes

/-- What is staged is stored. -/
theorem Midway.committed (h : Midway d₀ addr data start n d) :
    Midway d₀ addr data (start + 32 * n) 0 d.committed where
  base := h.base
  aligned := by
    have aligned := h.aligned
    omega
  begun := Nat.le_add_right_of_le h.begun
  stored := h.settled
  settled := h.settled
  pages := rfl
  inside := StagedInside.committed d
  makes page mem := by cases mem

/-- The page that a commit has to name is the one up to which the write is stored. -/
theorem Midway.head (h : Midway d₀ addr data start n d) (some : n ≠ 0) {first : UInt32}
    (named : first.toNat = start) : d.staged.head?.map Prod.fst = .some first := by
  obtain ⟨m, rfl⟩ := Nat.exists_eq_succ_of_ne_zero some
  have pages := h.pages
  cases staged : d.staged with
  | nil =>
    rw [staged] at pages
    cases pages
  | cons page rest =>
    rw [staged, List.map_cons, List.range'_succ, List.cons.injEq] at pages
    have same : page.1 = first := UInt32.toNat_inj.mp (pages.1.trans named.symm)
    simp [same]

/-! ## The calls of a device -/

/-- A page of which nothing is stored yet is read as it was. -/
theorem triple_readPage (low : d₀.base.toNat ≤ addr.toNat) :
    Triple (Midway d₀ addr data a.toNat 0) (PageDevice.read a pageSize : Act Error PagedRam Page)
      (fun page d => (d₀.Covers a pageSize ∧
        ∀ k, k < pageSize → page[k]? = d₀.mem[d₀.index a + k]?) ∧ Midway d₀ addr data a.toNat 0 d)
      fun _ => Midway d₀ addr data a.toNat 0 := by
  intro d h
  by_cases cov : d.Covers a pageSize
  · have cov' := (h.covers_iff a pageSize).mp cov
    rw [run_read cov]
    refine ⟨⟨cov', fun k hk => ?_⟩, h⟩
    refine (getElem?_bytesAt cov hk).trans ?_
    rw [h.index, h.stored, getElem?_writtenUpTo low, if_neg]
    have start := cov'.1
    simp only [PagedRam.index]
    omega
  · rw [run_read_refused cov]
    exact h

theorem triple_loadPage (low : d₀.base.toNat ≤ addr.toNat) (here : a.toNat = start + 32 * n)
    {page : Page} (makes : d₀.MakesPage addr data a page) :
    Triple (Midway d₀ addr data start n) (PageDevice.load a page : Act Error PagedRam Unit)
      (fun _ d => d₀.Covers a pageSize ∧ Midway d₀ addr data start (n + 1) d)
      fun _ => Midway d₀ addr data start n := by
  intro d h
  by_cases fits : a.toNat % pageSize = 0 ∧ d.Covers a pageSize
  · rw [run_load fits.1 fits.2]
    exact ⟨(h.covers_iff a pageSize).mp fits.2, h.loaded low here fits.2 makes⟩
  · rw [run_load_refused fits]
    exact h

theorem triple_commitPages (some : n ≠ 0) {first : UInt32} (named : first.toNat = start) :
    Triple (Midway d₀ addr data start n) (PageDevice.commit first : Act Error PagedRam Unit)
      (fun _ => Midway d₀ addr data (start + 32 * n) 0) fun _ => Midway d₀ addr data start n := by
  intro d h
  rw [run_commit h.inside (h.head some named)]
  exact h.committed

end PagedRam

/-! ## Writing while calls may fail -/

namespace Storage

open TappedDevice

variable {d₀ : PagedRam} {addr : UInt32} {data : List UInt8} {start n : Nat}

/-- The device behind the tap is midway through the write. -/
def Midway (d₀ : PagedRam) (addr : UInt32) (data : List UInt8) (start n : Nat)
    (t : TappedDevice PagedRam) : Prop :=
  d₀.Midway addr data start n t.device

/-- The write ended before all of it was stored, with at most a block staged. -/
def Interrupted (d₀ : PagedRam) (addr : UInt32) (data : List UInt8) (t : TappedDevice PagedRam) :
    Prop :=
  ∃ start n, start < addr.toNat + data.length ∧ n ≤ blockPages ∧ Midway d₀ addr data start n t

theorem triple_call {α : Type} {Q : α → PagedRam → Prop} {x : Act Error PagedRam α}
    (h : Triple (d₀.Midway addr data start n) x Q fun _ => d₀.Midway addr data start n)
    (before : start < addr.toNat + data.length) (few : n ≤ blockPages) (k : PageOperation)
    (call : PageCall) :
    Triple (Midway d₀ addr data start n) (onDevice (guarded k call x)) (fun a t => Q a t.device)
      fun _ => Interrupted d₀ addr data :=
  ((triple_guarded h k call).mono (fun _ ht => ht) (fun _ _ hq => hq) fun _ _ ht =>
    ⟨start, n, before, few, ht⟩).mapFailure Failure.error

/-- The page after a page of the device has an address. -/
theorem triple_nextPage {α : Type} {P : TappedDevice PagedRam → Prop} {Q : α → _ → Prop}
    {E : Failure → TappedDevice PagedRam → Prop} {a : UInt32}
    {f : UInt32 → Act Failure (TappedDevice PagedRam) α}
    (fits : d₀.base.toNat + d₀.mem.size < 0x100000000) (cov : d₀.Covers a pageSize)
    (h : (a + 32).toNat = a.toNat + pageSize → Triple P (f (a + 32)) Q E) :
    Triple P (checked (checkedAdd a 32) >>= f) Q E := by
  have sum := cov.next_fits fits
  rw [checkedAdd_eq_ok sum, checked_ok, pure_bind]
  exact h (toNat_nextPage sum)

/-- The bytes of the data that belong in the page at `a` are laid over it, and it is stored. -/
theorem triple_patchPage (low : d₀.Covers addr data.length) {a : UInt32}
    (before : a.toNat < addr.toNat + data.length) {offset : Nat} {bytes : List UInt8}
    (offset_eq : offset = addr.toNat - a.toNat) (fits : offset + bytes.length ≤ pageSize)
    (bytes_eq : bytes = (data.drop (a.toNat - addr.toNat)).take (pageSize - offset)) :
    Triple (Midway d₀ addr data a.toNat 0) (patchPage a offset bytes)
      (fun _ t => d₀.Covers a pageSize ∧ Midway d₀ addr data (a.toNat + 32) 0 t)
      fun _ => Interrupted d₀ addr data := by
  refine Triple.bind (triple_call (PagedRam.triple_readPage low.1) before (Nat.zero_le _) _ _)
    fun page => Triple.of_fact fun ⟨cov, old⟩ => ?_
  obtain ⟨merged, overlaid⟩ : ∃ merged, Page.overlay page offset bytes = .ok merged :=
    ⟨_, Page.overlay_eq_ok fits⟩
  have makes : d₀.MakesPage addr data a merged := by
    intro k hk
    rw [Page.getElem?_overlay overlaid hk, PagedRam.getElem?_target low cov.1]
    have length := congrArg List.length bytes_eq
    rw [List.length_take, List.length_drop] at length
    by_cases laid : offset ≤ k ∧ k < offset + bytes.length
    · rw [if_pos laid, if_pos (by omega), bytes_eq, List.getElem?_take_of_lt (by omega),
        List.getElem?_drop]
      congr 1
      omega
    · rw [if_neg laid, if_neg (by omega)]
      exact old k hk
  rw [overlaid, checked_ok, pure_bind]
  refine Triple.bind (triple_call (PagedRam.triple_loadPage low.1 (by omega) makes) before
    (Nat.zero_le _) _ _) fun _ => Triple.of_fact fun _ => ?_
  exact (triple_call (PagedRam.triple_commitPages Nat.one_ne_zero rfl) before (by decide) _ _).post
    fun _ _ stored => ⟨cov, stored⟩

/-- The last page, with nothing staged before it. -/
theorem triple_lastPage (cov : d₀.Covers addr data.length) {a : UInt32} {bytes : List UInt8}
    (after : addr.toNat ≤ a.toNat) (left : bytes = data.drop (a.toNat - addr.toNat))
    (short : bytes.length ≤ pageSize) :
    Triple (Midway d₀ addr data a.toNat 0)
      (if bytes.isEmpty then pure () else patchPage a 0 bytes) (fun _ _ => True)
      fun _ => Interrupted d₀ addr data := by
  by_cases empty : bytes = []
  · rw [if_pos (by simp [empty])]
    exact fun _ _ => trivial
  · rw [if_neg (by simpa using empty)]
    have some : 0 < bytes.length := List.length_pos_iff.mpr empty
    have length := congrArg List.length left
    rw [List.length_drop] at length
    refine (triple_patchPage cov (by omega) (by omega) (by omega) ?_).post fun _ _ _ => trivial
    rw [← left, Nat.sub_zero, List.take_of_length_le short]

/-- Before the page at `a`, the paging loop has the `n` pages from `start` on in its batch. The batch
begins no earlier than the block of the page. -/
structure BatchAt (start n : Nat) (a : UInt32) (batch : Option UInt32) : Prop where
  aligned : a.toNat % 32 = 0
  here : a.toNat = start + 32 * n
  named : (batch.getD a).toNat = start
  opened : batch = none ↔ n = 0
  block : 32 * n ≤ a.toNat % 1024

namespace BatchAt

variable {a : UInt32} {batch : Option UInt32}

theorem empty (aligned : a.toNat % 32 = 0) : BatchAt a.toNat 0 a none where
  aligned
  here := rfl
  named := rfl
  opened := by simp
  block := Nat.zero_le _

/-- There is room for one more page in the block. -/
theorem room (h : BatchAt start n a batch) : start % 1024 + 32 * (n + 1) ≤ 1024 := by
  have aligned := h.aligned
  have here := h.here
  have block := h.block
  omega

/-- A page that ends its block leaves nothing staged. -/
theorem flushed (h : BatchAt start n a batch) (next : (a + 32).toNat = a.toNat + pageSize) :
    BatchAt (start + 32 * (n + 1)) 0 (a + 32) none := by
  have aligned := h.aligned
  have here := h.here
  simp only [pageSize] at next
  rw [show start + 32 * (n + 1) = (a + 32).toNat by omega]
  exact empty (by omega)

/-- Another page is staged beside those before it. -/
theorem extended (h : BatchAt start n a batch) (next : (a + 32).toNat = a.toNat + pageSize)
    (ends : ¬ endsBlock a = true) :
    BatchAt start (n + 1) (a + 32) (some (batch.getD a)) := by
  obtain ⟨aligned, here, named, -, block⟩ := h
  -- the next page lies in the same block, so the batch still fits before it
  have same : ¬ (a.toNat + 32) % 1024 = 0 := fun zero => ends (beq_iff_eq.mpr zero)
  simp only [pageSize] at next
  exact
    { aligned := by omega
      here := by omega
      named
      opened := by simp
      block := by omega }

end BatchAt

/-- What holds where the paging loop comes to the page at `a`, with `n` pages staged from `start`
on and `bytes` left. -/
structure Paging (addr : UInt32) (data : List UInt8) (start n : Nat) (a : UInt32)
    (batch : Option UInt32) (bytes : List UInt8) : Prop extends BatchAt start n a batch where
  after : addr.toNat ≤ a.toNat
  left : bytes = data.drop (a.toNat - addr.toNat)
  more : n ≠ 0 → bytes ≠ []

namespace Paging

variable {a : UInt32} {batch : Option UInt32} {bytes : List UInt8}

theorem length (h : Paging addr data start n a batch bytes) :
    bytes.length = data.length - (a.toNat - addr.toNat) := by
  rw [h.left, List.length_drop]

theorem before (h : Paging addr data start n a batch bytes) (some : bytes ≠ []) :
    start < addr.toNat + data.length := by
  have nonempty : 0 < bytes.length := List.length_pos_iff.mpr some
  have length := h.length
  have here := h.here
  omega

theorem few (h : Paging addr data start n a batch bytes) : n + 1 ≤ blockPages := by
  have room := h.room
  simp only [blockPages]
  omega

theorem makesPage (h : Paging addr data start n a batch bytes) (cov : d₀.Covers addr data.length)
    (full : pageSize ≤ bytes.length) :
    d₀.MakesPage addr data a (Page.ofBytes (bytes.take pageSize)) := by
  intro k hk
  have length := h.length
  have after := h.after
  have taken : (bytes.take pageSize).length = pageSize := List.length_take_of_le full
  rw [PagedRam.getElem?_target cov (Nat.le_trans cov.1 after), if_pos (by omega),
    ← Vector.getElem?_toList, Page.toList_ofBytes taken, List.getElem?_take_of_lt hk, h.left,
    List.getElem?_drop]
  congr 1
  omega

/-- The next page, with the batch that is then loaded. -/
theorem next (h : Paging addr data start n a batch bytes) {start' n' : Nat}
    {batch' : Option UInt32} (next : (a + 32).toNat = a.toNat + pageSize)
    (moved : BatchAt start' n' (a + 32) batch') (more : n' ≠ 0 → bytes.drop pageSize ≠ []) :
    Paging addr data start' n' (a + 32) batch' (bytes.drop pageSize) where
  toBatchAt := moved
  after := by
    rw [next]
    exact Nat.le_add_right_of_le h.after
  left := by
    have after := h.after
    rw [next, h.left, List.drop_drop]
    congr 1
    omega
  more

end Paging

/-- The paging loop ends, or is interrupted with the batch staged that it has loaded. -/
theorem triple_writePages (cov : d₀.Covers addr data.length)
    (fits : d₀.base.toNat + d₀.mem.size < 0x100000000) (whole : Nat) {a : UInt32}
    {batch : Option UInt32} {bytes : List UInt8} (h : Paging addr data start n a batch bytes)
    (count : whole = wholePages bytes.length) :
    Triple (Midway d₀ addr data start n) (writePages whole a batch bytes) (fun _ _ => True)
      fun _ => Interrupted d₀ addr data := by
  simp only [wholePages, pageSize] at count
  induction whole generalizing a batch bytes start n with
  | zero =>
    have last : Triple (Midway d₀ addr data a.toNat 0)
        (if bytes.isEmpty then pure () else patchPage a 0 bytes) (fun _ _ => True)
        fun _ => Interrupted d₀ addr data := by
      refine triple_lastPage cov h.after h.left ?_
      simp only [pageSize]
      omega
    cases batch with
    | none =>
      obtain rfl : n = 0 := h.opened.mp rfl
      obtain rfl : a.toNat = start := h.named
      exact last
    | some first =>
      have some : n ≠ 0 := by
        intro none
        cases h.opened.mpr none
      rw [h.here] at last
      exact Triple.bind (triple_call (PagedRam.triple_commitPages some h.named)
        (h.before (h.more some)) (Nat.le_of_succ_le h.few) _ _) fun _ => last
  | succ whole ih =>
    have full : pageSize ≤ bytes.length := by
      simp only [pageSize]
      omega
    have before : start < addr.toNat + data.length :=
      h.before (List.ne_nil_of_length_pos (Nat.lt_of_lt_of_le (by decide) full))
    have rest : (bytes.drop pageSize).length = bytes.length - 32 := List.length_drop
    rw [writePages_succ]
    refine Triple.bind (triple_call (PagedRam.triple_loadPage cov.1 h.here (h.makesPage cov full))
      before (Nat.le_of_succ_le h.few) _ _) fun _ => Triple.of_fact fun inside => ?_
    by_cases ends : endsBlock a = true
    · rw [if_pos ends, if_pos ends]
      refine Triple.bind (triple_call (PagedRam.triple_commitPages (Nat.succ_ne_zero n) h.named)
        before h.few _ _) fun _ => triple_nextPage fits inside fun next => ?_
      exact ih (h.next next (h.flushed next) fun some => absurd rfl some) (by omega)
    · rw [if_neg ends, if_neg ends, pure_bind]
      refine triple_nextPage fits inside fun next => ?_
      have more : bytes.drop pageSize ≠ [] := List.ne_nil_of_length_pos (by omega)
      exact ih (h.next next (h.extended next ends) fun _ => more) (by omega)

/-- What is left after the first page begins at the page after it. -/
theorem drop_firstLength (addr : UInt32) (data : List UInt8) :
    data.drop (firstLength addr data) = data.drop (addr.toNat / 32 * 32 + 32 - addr.toNat) := by
  rw [List.drop_eq_drop_iff, firstLength_eq]
  omega

theorem triple_writeFrom (cov : d₀.Covers addr data.length)
    (fits : d₀.base.toNat + d₀.mem.size < 0x100000000) (some : data ≠ []) :
    Triple (Midway d₀ addr data (addr.toNat / 32 * 32) 0) (writeFrom addr data) (fun _ _ => True)
      fun _ => Interrupted d₀ addr data := by
  have nonempty : 0 < data.length := List.length_pos_iff.mpr some
  have page := toNat_pageOf addr
  have aligned : (pageOf addr).toNat % 32 = 0 := pageOf_aligned addr
  have offset : addr.toNat % pageSize = addr.toNat - (pageOf addr).toNat := by
    simp only [pageSize]
    omega
  have bytes : data.take (firstLength addr data) =
      (data.drop ((pageOf addr).toNat - addr.toNat)).take (pageSize - addr.toNat % pageSize) := by
    rw [show (pageOf addr).toNat - addr.toNat = 0 by omega, List.drop_zero, List.take_eq_take_iff]
    exact Nat.min_assoc .. |>.trans (by rw [Nat.min_self])
  rw [← page, writeFrom_eq]
  refine Triple.bind (triple_patchPage cov (by omega) offset (firstLength_fits addr data) bytes)
    fun _ => Triple.of_fact fun inside => triple_nextPage fits inside fun next => ?_
  simp only [pageSize] at next
  have paging : Paging addr data (pageOf addr + 32).toNat 0 (pageOf addr + 32) none
      (data.drop (firstLength addr data)) :=
    { toBatchAt := .empty (by omega)
      after := by omega
      left := by rw [drop_firstLength, next, page]
      more := fun some => absurd rfl some }
  rw [← next]
  exact triple_writePages cov fits _ paging rfl

/-- The first `k` bytes of a write to `d₀` are stored, and the pages after them are staged as the
whole write makes them. -/
structure CutAt (d₀ : PagedRam) (addr : UInt32) (data : List UInt8) (k : Nat) (d : PagedRam) :
    Prop where
  base : d.base = d₀.base
  short : k < data.length
  boundary : k = 0 ∨ (addr.toNat + k) % pageSize = 0
  stored : d.mem = Bytes.splice d₀.mem (d₀.index addr) (data.take k)
  few : d.staged.length ≤ 32
  pages : d.staged.map (fun page => page.1.toNat) =
    List.range' ((addr.toNat + k) / 32 * 32) d.staged.length 32
  inside : ∀ page ∈ d.staged, d₀.Covers page.1 pageSize
  makes : ∀ page ∈ d.staged, ∀ j, j < pageSize → page.2[j]? =
    if addr.toNat ≤ page.1.toNat + j ∧ page.1.toNat + j < addr.toNat + data.length then
      data[page.1.toNat + j - addr.toNat]?
    else d₀.mem[d₀.index page.1 + j]?

/-- Where nothing has happened, nothing is stored and nothing is staged. -/
theorem CutAt.refl (clean : d₀.staged = []) (some : data ≠ []) : CutAt d₀ addr data 0 d₀ where
  base := rfl
  short := List.length_pos_iff.mpr some
  boundary := .inl rfl
  stored := rfl
  few := by simp [clean]
  pages := by simp [clean]
  inside page mem := by rw [clean] at mem; cases mem
  makes page mem := by rw [clean] at mem; cases mem

theorem Interrupted.cutAt {t : TappedDevice PagedRam} (h : Interrupted d₀ addr data t)
    (cov : d₀.Covers addr data.length) (some : data ≠ []) :
    ∃ k, CutAt d₀ addr data k t.device := by
  obtain ⟨start, n, before, few, mid⟩ := h
  have nonempty : 0 < data.length := List.length_pos_iff.mpr some
  have aligned := mid.aligned
  have begun := mid.begun
  -- the write is stored up to a page, which is at its first byte or after it
  have page : (addr.toNat + (start - addr.toNat)) / 32 * 32 = start := by omega
  have inside : ∀ page ∈ t.device.staged, d₀.Covers page.1 pageSize :=
    fun page mem => (mid.covers_iff page.1 pageSize).mp (mid.inside page mem)
  exact ⟨start - addr.toNat,
    { base := mid.base
      short := by omega
      boundary := by
        simp only [pageSize]
        omega
      stored := mid.stored
      few := mid.length ▸ few
      pages := by rw [mid.length, page, mid.pages]
      inside
      makes := fun page mem j hj => (mid.makes page mem j hj).trans
        (PagedRam.getElem?_target cov (inside page mem).1 j) }⟩

/-- A write that fails ends with an error. What is stored is data up to the start of a page, and
what is left staged is at most a block of the pages that follow. -/
theorem cutAt_of_failed {t t' : TappedDevice PagedRam}
    (fits : t.device.base.toNat + t.device.mem.size < 0x100000000) (clean : t.device.staged = [])
    (counted : data.length < 0x100000000) {f : Failure}
    (run : (write addr data).run t = (.error f, t')) :
    f.IsError ∧ (∃ k, CutAt t.device addr data k t'.device) ∧
      (¬ t.device.Covers addr data.length → t'.device = t.device) := by
  cases data with
  | nil => cases run
  | cons b rest =>
    have isError := ((total_write fits addr (b :: rest)).error ⟨rfl, rfl⟩ run).1
    have check := run_checkRange_as (s := t) rfl fits addr counted
    by_cases cov : t.device.Covers addr (b :: rest).length
    · rw [if_pos cov] at check
      have paged : Triple (Midway t.device addr (b :: rest) (addr.toNat / 32 * 32) 0)
          (writeFrom addr (b :: rest) >>= fun _ => Act.log (.bytesStored (b :: rest).length addr))
          (fun _ _ => True) fun _ => Interrupted t.device addr (b :: rest) :=
        Triple.bind (triple_writeFrom cov fits nofun) fun _ _ _ => trivial
      rw [write, run_bind_ok check] at run
      exact ⟨isError, (paged.error (.refl clean) run).cutAt cov nofun,
        fun outside => absurd cov outside⟩
    · rw [if_neg cov] at check
      rw [write, run_bind_error check] at run
      cases run
      exact ⟨isError, ⟨0, .refl clean nofun⟩, fun _ => rfl⟩

/-- What is left of a write of 97 bytes to `fourPages`. -/
def afterCut : TappedDevice PagedRam :=
  ((write 0 (List.replicate 97 1)).run fourPages).2

/-- The first page is stored when the second commit fails, and the two pages after it are staged. -/
theorem cutAt_after_first_page :
    fourPages.device.base.toNat + fourPages.device.mem.size < 0x100000000 ∧
      fourPages.device.staged = [] ∧ (List.replicate 97 (1 : UInt8)).length < 0x100000000 ∧
      (∃ f, (write 0 (List.replicate 97 1)).run fourPages = (.error f, afterCut)) ∧
      (∃ k, CutAt fourPages.device 0 (List.replicate 97 1) k afterCut.device) ∧
      afterCut.device.staged.map Prod.fst = [32, 64] ∧
      afterCut.device.mem[31]? = some 1 ∧ afterCut.device.mem[32]? = some 7 := by
  have failed : ((write 0 (List.replicate 97 1)).run fourPages).1.isOk = false := by
    decide +kernel
  rcases run : (write 0 (List.replicate 97 1)).run fourPages with ⟨f | done, t⟩
  · have left : t = afterCut := (congrArg Prod.snd run).symm
    rw [left] at run ⊢
    obtain ⟨-, cut, -⟩ := cutAt_of_failed fourPages_fits rfl (by decide) run
    exact ⟨fourPages_fits, rfl, by decide, ⟨f, rfl⟩, cut, by decide +kernel, by decide +kernel,
      by decide +kernel⟩
  · rw [run] at failed
    cases failed

end Storage

end Coprocessor
