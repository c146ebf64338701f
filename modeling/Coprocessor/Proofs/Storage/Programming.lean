import Coprocessor.Proofs.Storage.Calls
import Coprocessor.Proofs.Storage.Interruption
import Mathlib.Order.Interval.Finset.Nat

/-!
How a write programs its device. The pages of a write are loaded in the order of their addresses,
and committed block by block. `Progress` is what a list of such calls leaves to do: `Progress.step?`
says which call may come next, the plan of a write passes it from end to end, and what holds of every
list that passes holds of the calls that a write makes.
-/
namespace Coprocessor

def PageCall.loaded? : PageCall → Option UInt32
  | .load addr => some addr
  | .read .. | .commit _ => none

def PageCall.isCommit : PageCall → Bool
  | .commit _ => true
  | .read .. | .load _ => false

/-- What is pending after a call, where `pages` were before it. -/
def PageCall.pendingAfter (pages : List UInt32) : PageCall → List UInt32
  | .read .. => pages
  | .load addr => pages ++ [addr]
  | .commit _ => []

namespace Storage

/-- The pages loaded, in the order of the loads. -/
def loads (calls : List PageCall) : List UInt32 :=
  calls.filterMap PageCall.loaded?

/-- The pages loaded since the last commit. -/
def pending (calls : List PageCall) : List UInt32 :=
  calls.foldl PageCall.pendingAfter []

/-- The number of the last page that `len` bytes at `addr` touch. -/
def lastPage (addr : UInt32) (len : Nat) : Nat :=
  (addr.toNat + len - 1) / 32

theorem loads_concat (calls : List PageCall) (call : PageCall) :
    loads (calls ++ [call]) = loads calls ++ call.loaded?.toList := by
  rw [loads, List.filterMap_append]
  cases call <;> rfl

theorem pending_concat (calls : List PageCall) (call : PageCall) :
    pending (calls ++ [call]) = call.pendingAfter (pending calls) := by
  rw [pending, List.foldl_append]
  rfl

/-- Where the programming of consecutive pages stands: the first page that is not committed, how many
pages from there on are loaded, and the commits so far. -/
structure Progress where
  start : Nat
  batch : Nat
  commits : Nat

namespace Progress

/-- The progress after a call, if the call may come next: a load of the page after the batch, where
the batch stays in its block, or a commit that names the first page of the batch. -/
def step? (s : Progress) : PageCall → Option Progress
  | .read .. => some s
  | .load addr =>
    if addr.toNat = s.start + 32 * s.batch ∧ s.start % 1024 + 32 * (s.batch + 1) ≤ 1024 then
      some ⟨s.start, s.batch + 1, s.commits⟩
    else none
  | .commit addr =>
    if s.batch ≠ 0 ∧ addr.toNat = s.start then
      some ⟨s.start + 32 * s.batch, 0, s.commits + 1⟩
    else none

def run? (s : Progress) (calls : List PageCall) : Option Progress :=
  calls.foldlM step? s

variable {s s' : Progress} {first : Nat} {calls : List PageCall}

theorem run?_append (s : Progress) (calls later : List PageCall) :
    s.run? (calls ++ later) = (s.run? calls).bind fun s' => s'.run? later :=
  List.foldlM_append

theorem run?_cons {call : PageCall} (h : s.step? call = some s') (later : List PageCall) :
    s.run? (call :: later) = s'.run? later := by
  rw [run?, List.foldlM_cons, h]
  rfl

/-! ## What calls that pass have done -/

/-- The progress is what `calls` have made of programming from the page at `first` on. -/
structure Describes (first : Nat) (calls : List PageCall) (s : Progress) : Prop where
  loaded : (loads calls).map UInt32.toNat = List.range' first (loads calls).length 32
  next : s.start + 32 * s.batch = first + 32 * (loads calls).length
  batch : (pending calls).map UInt32.toNat = List.range' s.start s.batch 32
  block : s.start % 1024 + 32 * s.batch ≤ 1024
  commits : calls.countP PageCall.isCommit = s.commits

theorem Describes.start (first : Nat) : Describes first [] ⟨first, 0, 0⟩ where
  loaded := rfl
  next := rfl
  batch := rfl
  block := Nat.le_of_lt (Nat.mod_lt first (by decide))
  commits := rfl

theorem Describes.read (h : Describes first calls s) (addr : UInt32) (len : Nat) :
    Describes first (calls ++ [.read addr len]) s where
  loaded := by simpa [loads_concat, PageCall.loaded?] using h.loaded
  next := by simpa [loads_concat, PageCall.loaded?] using h.next
  batch := by simpa [pending_concat, PageCall.pendingAfter] using h.batch
  block := h.block
  commits := by simpa [PageCall.isCommit] using h.commits

theorem Describes.load (h : Describes first calls s) {addr : UInt32}
    (here : addr.toNat = s.start + 32 * s.batch)
    (room : s.start % 1024 + 32 * (s.batch + 1) ≤ 1024) :
    Describes first (calls ++ [.load addr]) ⟨s.start, s.batch + 1, s.commits⟩ where
  loaded := by
    simp only [loads_concat, PageCall.loaded?, Option.toList_some, List.map_append,
      List.length_append, List.map_singleton, List.length_singleton, List.range'_concat, h.loaded,
      here, h.next]
  next := by
    have next := h.next
    simp only [loads_concat, PageCall.loaded?, Option.toList_some, List.length_append,
      List.length_singleton]
    omega
  batch := by
    simp only [pending_concat, PageCall.pendingAfter, List.map_append, List.map_singleton,
      List.range'_concat, h.batch, here]
  block := room
  commits := by simpa [PageCall.isCommit] using h.commits

theorem Describes.commit (h : Describes first calls s) (addr : UInt32) :
    Describes first (calls ++ [.commit addr]) ⟨s.start + 32 * s.batch, 0, s.commits + 1⟩ where
  loaded := by simpa [loads_concat, PageCall.loaded?] using h.loaded
  next := by simpa [loads_concat, PageCall.loaded?] using h.next
  batch := by simp [pending_concat, PageCall.pendingAfter]
  block := Nat.le_of_lt (Nat.mod_lt _ (by decide))
  commits := by simpa [PageCall.isCommit] using h.commits

theorem Describes.step (h : Describes first calls s) {call : PageCall}
    (may : s.step? call = some s') : Describes first (calls ++ [call]) s' := by
  cases call with
  | read addr len =>
    obtain rfl : s = s' := Option.some.inj may
    exact h.read addr len
  | load addr =>
    obtain ⟨⟨here, room⟩, moved⟩ := Option.ite_none_right_eq_some.mp may
    obtain rfl := Option.some.inj moved
    exact h.load here room
  | commit addr =>
    obtain ⟨-, moved⟩ := Option.ite_none_right_eq_some.mp may
    obtain rfl := Option.some.inj moved
    exact h.commit addr

theorem Describes.run (h : Describes first calls s) {later : List PageCall}
    (may : s.run? later = some s') : Describes first (calls ++ later) s' := by
  induction later generalizing calls s with
  | nil =>
    obtain rfl : s = s' := Option.some.inj may
    rwa [List.append_nil]
  | cons call later ih =>
    obtain ⟨s₁, here, rest⟩ := Option.bind_eq_some_iff.mp may
    have after := ih (h.step here) rest
    rwa [List.append_assoc] at after

/-- The pages of the batch lie in the block where it starts. -/
theorem Describes.mem_pending (h : Describes first calls s) {page : UInt32}
    (mem : page ∈ pending calls) : page.toNat / 1024 = s.start / 1024 := by
  have mem' : page.toNat ∈ List.range' s.start s.batch 32 := h.batch ▸ List.mem_map_of_mem mem
  obtain ⟨i, inBatch, at'⟩ := List.mem_range'.mp mem'
  have block := h.block
  omega

theorem Describes.length_pending (h : Describes first calls s) :
    (pending calls).length = s.batch := by
  have length := congrArg List.length h.batch
  rwa [List.length_map, List.length_range'] at length

theorem Describes.head?_pending (h : Describes first calls s) (some : s.batch ≠ 0) {addr : UInt32}
    (named : addr.toNat = s.start) : (pending calls).head? = .some addr := by
  obtain ⟨n, count⟩ := Nat.exists_eq_succ_of_ne_zero some
  have batch := h.batch
  cases pages : pending calls with
  | nil =>
    rw [pages, count] at batch
    cases batch
  | cons page rest =>
    rw [pages, count, List.map_cons, List.range'_succ, List.cons.injEq] at batch
    exact congrArg Option.some (UInt32.toNat_inj.mp (batch.1.trans named.symm))

/-! ## Plans pass -/

theorem run?_patchPlan {addr : UInt32} (batch : s.batch = 0) (here : addr.toNat = s.start)
    (aligned : addr.toNat % 32 = 0) :
    s.run? (patchPlan addr) = some ⟨s.start + 32, 0, s.commits + 1⟩ := by
  have load : s.step? (.load addr) = some ⟨s.start, 1, s.commits⟩ := by
    simp only [step?, batch]
    exact if_pos ⟨here, by omega⟩
  have commit : (⟨s.start, 1, s.commits⟩ : Progress).step? (.commit addr) =
      some ⟨s.start + 32, 0, s.commits + 1⟩ := if_pos ⟨Nat.one_ne_zero, here⟩
  rw [patchPlan, run?_cons rfl, run?_cons load, run?_cons commit]
  rfl

/-- Commits of the paging loop for `n` whole pages from the page number `page` on, where `batch`
pages before them are not committed: one for each block. -/
def batchCommits (page n batch : Nat) : Nat :=
  if n + batch = 0 then 0 else (page + n - 1) / 32 - page / 32 + 1

/-- A page that ends its block is committed with its batch. -/
theorem batchCommits_flushed {page : Nat} (ends : (page + 1) % 32 = 0) (n batch : Nat) :
    batchCommits page (n + 1) batch = 1 + batchCommits (page + 1) n 0 := by
  unfold batchCommits
  split <;> split <;> omega

/-- A page that does not end its block waits for the next one. -/
theorem batchCommits_extended {page : Nat} (same : (page + 1) % 32 ≠ 0) (n batch : Nat) :
    batchCommits page (n + 1) batch = batchCommits (page + 1) n (batch + 1) := by
  unfold batchCommits
  split <;> split <;> omega

theorem run?_flush {addr : UInt32} {batch : Option UInt32}
    (h : BatchAt s.start s.batch addr batch) :
    s.run? (batch.map PageCall.commit).toList =
      some ⟨addr.toNat, 0, s.commits + batchCommits (addr.toNat / 32) 0 s.batch⟩ := by
  obtain ⟨start, b, commits⟩ := s
  obtain ⟨aligned, here, named, opened, block⟩ := h
  cases batch with
  | none =>
    obtain rfl : b = 0 := opened.mp rfl
    obtain rfl : addr.toNat = start := named
    rfl
  | some first =>
    have some : b ≠ 0 := fun none => nomatch opened.mpr none
    have commit : (⟨start, b, commits⟩ : Progress).step? (.commit first) =
        .some ⟨addr.toNat, 0, commits + 1⟩ := by
      rw [here]
      exact if_pos ⟨some, named⟩
    have one : batchCommits (addr.toNat / 32) 0 b = 1 := by
      rw [batchCommits, if_neg (by omega)]
      dsimp only at block
      omega
    rw [one]
    exact run?_cons commit []

/-- The loop loads every page that its bytes touch, and commits them all. -/
theorem run?_pagesPlan (n : Nat) {addr : UInt32} {batch : Option UInt32} {len : Nat}
    (count : n = wholePages len) (fits : addr.toNat + len ≤ 0x100000000)
    (h : BatchAt s.start s.batch addr batch) :
    s.run? (pagesPlan n addr batch len) =
      some ⟨addr.toNat + 32 * ((len + 31) / 32), 0,
        s.commits + batchCommits (addr.toNat / 32) n s.batch + if len = 0 then 0 else 1⟩ := by
  simp only [wholePages, pageSize] at count
  induction n generalizing s addr batch len with
  | zero =>
    rw [pagesPlan, run?_append, run?_flush h, Option.bind_some]
    by_cases none : len = 0
    · rw [if_pos none, if_pos none, none]
      rfl
    · rw [if_neg none, if_neg none, run?_patchPlan rfl rfl h.aligned,
        show (len + 31) / 32 = 1 by omega]
  | succ n ih =>
    have aligned := h.aligned
    have next : (addr + 32).toNat = addr.toNat + 32 :=
      toNat_nextPage (show addr.toNat + 32 < 0x100000000 by omega)
    have page : (addr + 32).toNat / 32 = addr.toNat / 32 + 1 := by omega
    have load : s.step? (.load addr) = some ⟨s.start, s.batch + 1, s.commits⟩ :=
      if_pos ⟨h.here, h.room⟩
    have left : len - pageSize = len - 32 := rfl
    have count' : n = (len - 32 - 1) / 32 := by omega
    have fits' : (addr + 32).toNat + (len - 32) ≤ 0x100000000 := by omega
    have nonempty : len ≠ 0 := by omega
    have nonempty' : len - 32 ≠ 0 := by omega
    rw [pagesPlan, List.cons_append, run?_cons load, left, if_neg nonempty]
    by_cases ends : endsBlock addr = true
    · have commit : (⟨s.start, s.batch + 1, s.commits⟩ : Progress).step? (.commit (batch.getD addr)) =
          some ⟨s.start + 32 * (s.batch + 1), 0, s.commits + 1⟩ :=
        if_pos ⟨Nat.succ_ne_zero _, h.named⟩
      have last : (addr.toNat / 32 + 1) % 32 = 0 := by
        have zero : (addr.toNat + 32) % 1024 = 0 := beq_iff_eq.mp ends
        omega
      rw [if_pos ends, if_pos ends, List.singleton_append, run?_cons commit,
        ih count' fits' (h.flushed next), page, if_neg nonempty',
        batchCommits_flushed last]
      dsimp only
      congr 2
      · omega
      · omega
    · have more : (addr.toNat / 32 + 1) % 32 ≠ 0 := by
        have nonzero : ¬ (addr.toNat + 32) % 1024 = 0 := fun zero => ends (beq_iff_eq.mpr zero)
        omega
      rw [if_neg ends, if_neg ends, List.nil_append, ih count' fits' (h.extended next ends), page,
        if_neg nonempty', batchCommits_extended more]
      congr 2
      omega

/-- A write programs the pages from that of its first byte to that of its last. -/
theorem run?_writePlan {addr : UInt32} {len : Nat} (some : len ≠ 0)
    (fits : addr.toNat + len ≤ 0x100000000) :
    (⟨addr.toNat / 32 * 32, 0, 0⟩ : Progress).run? (writePlan addr len) =
      .some ⟨32 * (lastPage addr len + 1), 0,
        1 + batchCommits (addr.toNat / 32 + 1) (lastPage addr len - addr.toNat / 32 - 1) 0 +
          if addr.toNat / 32 < lastPage addr len then 1 else 0⟩ := by
  have page := toNat_pageOf addr
  have first : (⟨addr.toNat / 32 * 32, 0, 0⟩ : Progress).run? (patchPlan (pageOf addr)) =
      .some ⟨addr.toNat / 32 * 32 + 32, 0, 1⟩ :=
    run?_patchPlan rfl page (pageOf_aligned addr)
  obtain ⟨left, length⟩ : ∃ left, left = len - (32 - addr.toNat % 32) := ⟨_, rfl⟩
  have plan : writePlan addr len =
      patchPlan (pageOf addr) ++ pagesPlan (wholePages left) (pageOf addr + 32) none left := by
    rw [length]
    rfl
  rw [plan, run?_append, first, Option.bind_some]
  by_cases none : left = 0
  · have same : lastPage addr len = addr.toNat / 32 := by
      simp only [lastPage]
      omega
    have done : addr.toNat / 32 * 32 + 32 = 32 * (addr.toNat / 32 + 1) := by omega
    rw [none, same, if_neg (Nat.lt_irrefl _), Nat.sub_self, done]
    rfl
  · have next : (pageOf addr + 32).toNat = (pageOf addr).toNat + 32 :=
      toNat_nextPage (show (pageOf addr).toNat + 32 < 0x100000000 by omega)
    have batch : BatchAt (addr.toNat / 32 * 32 + 32) 0 (pageOf addr + 32) .none := by
      rw [← page, ← next]
      exact .empty (by omega)
    have pages : lastPage addr len = addr.toNat / 32 + (left + 31) / 32 := by
      simp only [lastPage]
      omega
    have whole : wholePages left = lastPage addr len - addr.toNat / 32 - 1 := by
      simp only [wholePages, pageSize]
      omega
    have number : (pageOf addr + 32).toNat / 32 = addr.toNat / 32 + 1 := by omega
    rw [run?_pagesPlan _ rfl (by omega) batch, if_neg none, if_pos (by omega), whole, number]
    congr 2
    omega

theorem card_blocks (first last : Nat) :
    ((Finset.Ioo first last).image (· / 32)).card = batchCommits (first + 1) (last - first - 1) 0 := by
  rw [batchCommits, Nat.add_zero]
  by_cases none : last - first - 1 = 0
  · have empty : Finset.Ioo first last = ∅ := by
      refine Finset.eq_empty_of_forall_notMem fun page mem => ?_
      rw [Finset.mem_Ioo] at mem
      omega
    rw [if_pos none, empty]
    rfl
  · have blocks : (Finset.Ioo first last).image (· / 32) =
        Finset.Icc ((first + 1) / 32) ((last - 1) / 32) := by
      ext block
      simp only [Finset.mem_image, Finset.mem_Ioo, Finset.mem_Icc]
      constructor
      · rintro ⟨page, inside, rfl⟩
        omega
      · intro inside
        exact ⟨max (first + 1) (32 * block), by omega, by omega⟩
    rw [if_neg none, blocks, Nat.card_Icc]
    omega

/-- Calls that pass were made from a progress that describes them. -/
theorem exists_describes {before after : List PageCall}
    (may : (⟨first, 0, 0⟩ : Progress).run? (before ++ after) = some s') :
    ∃ s, Describes first before s ∧ s.run? after = some s' := by
  rw [run?_append] at may
  obtain ⟨s, here, rest⟩ := Option.bind_eq_some_iff.mp may
  exact ⟨s, (Describes.start first).run here, rest⟩

end Progress

/-! ## The calls of a write -/

/-- Calls that program consecutive pages from `first` on. A commit names the first page loaded since
the one before it, and the pages that it programs share a block. -/
structure ProgramsFrom (first : Nat) (calls : List PageCall) : Prop where
  loaded : (loads calls).map UInt32.toNat = List.range' first (loads calls).length 32
  aligned : ∀ page ∈ loads calls, page.toNat % 32 = 0
  named : ∀ before addr after, calls = before ++ .commit addr :: after →
    (pending before).head? = some addr
  oneBlock : ∀ before, before <+: calls → ∀ page ∈ pending before, ∀ other ∈ pending before,
    page.toNat / 1024 = other.toNat / 1024
  few : ∀ before, before <+: calls → (pending before).length ≤ 32

theorem ProgramsFrom.of_run? {first : Nat} (aligned : first % 32 = 0) {calls later : List PageCall}
    {s : Progress} (may : (⟨first, 0, 0⟩ : Progress).run? (calls ++ later) = some s) :
    ProgramsFrom first calls where
  loaded := by
    obtain ⟨_, described, -⟩ := Progress.exists_describes may
    exact described.loaded
  aligned page mem := by
    obtain ⟨_, described, -⟩ := Progress.exists_describes may
    have mem' : page.toNat ∈ List.range' first (loads calls).length 32 :=
      described.loaded ▸ List.mem_map_of_mem mem
    obtain ⟨i, -, here⟩ := List.mem_range'.mp mem'
    omega
  named before addr after parts := by
    rw [parts, List.append_assoc] at may
    obtain ⟨_, described, rest⟩ := Progress.exists_describes may
    obtain ⟨_, commits, -⟩ := Option.bind_eq_some_iff.mp rest
    obtain ⟨⟨some, named⟩, -⟩ := Option.ite_none_right_eq_some.mp commits
    exact described.head?_pending some named
  oneBlock before isPrefix page mem other mem' := by
    obtain ⟨after, rfl⟩ := isPrefix
    rw [List.append_assoc] at may
    obtain ⟨_, described, -⟩ := Progress.exists_describes may
    rw [described.mem_pending mem, described.mem_pending mem']
  few before isPrefix := by
    obtain ⟨after, rfl⟩ := isPrefix
    rw [List.append_assoc] at may
    obtain ⟨_, described, -⟩ := Progress.exists_describes may
    have block := described.block
    rw [described.length_pending]
    omega

/-- Calls that program every page that the `len` bytes at `addr` touch: the first page alone, the
last page alone, and those between them block by block. -/
structure ProgramsAll (addr : UInt32) (len : Nat) (calls : List PageCall) : Prop where
  touched : ∀ page : UInt32, page ∈ loads calls ↔
    page.toNat % 32 = 0 ∧ addr.toNat < page.toNat + 32 ∧ page.toNat < addr.toNat + len
  committed : pending calls = []
  commits : calls.countP PageCall.isCommit =
    1 + ((Finset.Ioo (addr.toNat / 32) (lastPage addr len)).image (· / 32)).card +
      if addr.toNat / 32 < lastPage addr len then 1 else 0

theorem programsAll_writePlan {addr : UInt32} {len : Nat} (some : len ≠ 0)
    (fits : addr.toNat + len ≤ 0x100000000) : ProgramsAll addr len (writePlan addr len) := by
  have described := (Progress.Describes.start _).run (Progress.run?_writePlan some fits)
  rw [List.nil_append] at described
  have count := described.next
  dsimp only at count
  exact
    { touched := fun page => by
        have mem : page ∈ loads (writePlan addr len) ↔ page.toNat ∈
            (loads (writePlan addr len)).map UInt32.toNat := by
          simp only [List.mem_map, UInt32.toNat_inj, exists_eq_right]
        rw [mem, described.loaded, List.mem_range']
        simp only [lastPage] at count
        constructor
        · rintro ⟨i, inside, here⟩
          omega
        · rintro ⟨aligned, low, high⟩
          exact ⟨page.toNat / 32 - addr.toNat / 32, by omega, by omega⟩
      committed := List.eq_nil_of_length_eq_zero described.length_pending
      commits := by rw [described.commits, Progress.card_blocks] }

/-- A write of a range inside the device, whatever its calls answer: pages are programmed in order,
and no call comes after one that fails. A write that works has programmed every page that it touches.
That the calls are recorded changes nothing. -/
theorem programs_of_write {t : TappedDevice PagedRam} {addr : UInt32} {data : List UInt8}
    (fits : t.device.base.toNat + t.device.mem.size < 0x100000000) (some : data ≠ [])
    (cov : t.device.Covers addr data.length) :
    ∃ r t' made, (write addr data).run (RecordedDevice.fresh t) = (r, ⟨t', made⟩) ∧
      (write addr data).run t = (r, t') ∧
      ProgramsFrom (addr.toNat / 32 * 32) (made.map CallRecord.call) ∧
      (∀ record ∈ made.dropLast, record.worked = true) ∧
      (r = .ok () ↔ ∀ record ∈ made, record.worked = true) ∧
      (r = .ok () → ProgramsAll addr data.length (made.map CallRecord.call)) := by
  have nonempty : data.length ≠ 0 := mt List.length_eq_zero_iff.mp some
  have inside : addr.toNat + data.length ≤ 0x100000000 := by
    obtain ⟨low, high⟩ := cov
    omega
  have check : (checkRange addr data.length).run (RecordedDevice.fresh t) =
      (.ok (), RecordedDevice.fresh t) := by
    have range : PageDevice.range (RecordedDevice.fresh t) = PageDevice.range t.device := rfl
    have counted : data.length < 0x100000000 := by
      obtain ⟨low, high⟩ := cov
      omega
    rw [run_checkRange_as range fits addr counted, if_pos cov]
  have calls := triple_write_calls some check
  have same := mirrors_write addr data (RecordedDevice.fresh t)
  have plan := Progress.run?_writePlan nonempty inside
  have aligned : addr.toNat / 32 * 32 % 32 = 0 := Nat.mul_mod_left ..
  rcases run : (write addr data).run (RecordedDevice.fresh t) with ⟨f | done, t', made⟩
  · rw [run] at same
    obtain ⟨made', grown, stopped⟩ := calls.error rfl run
    obtain rfl : made = made' := grown
    obtain ⟨e, rfl⟩ := ((total_write fits addr data).error ⟨rfl, rfl⟩ same).1
    obtain ⟨before, call, after, parts, rfl⟩ := stopped
    refine ⟨_, t', _, rfl, same, ?_, ?_, ?_, nofun⟩
    · rw [parts, List.append_cons] at plan
      rw [List.map_append, calls_worked]
      exact .of_run? aligned plan
    · rw [List.dropLast_concat]
      exact fun _ => worked_of_mem
    · simp
  · rw [run] at same
    obtain rfl : made = worked (writePlan addr data.length) := calls.ok rfl run
    refine ⟨_, t', _, rfl, same, ?_, ?_, ?_, fun _ => ?_⟩
    · rw [calls_worked]
      rw [← List.append_nil (writePlan addr data.length)] at plan
      exact .of_run? aligned plan
    · exact fun _ mem => worked_of_mem (List.mem_of_mem_dropLast mem)
    · exact ⟨fun _ _ => worked_of_mem, fun _ => rfl⟩
    · rw [calls_worked]
      exact programsAll_writePlan nonempty inside

/-- Three pages, of which the first ends a block. -/
def threePages : TappedDevice PagedRam :=
  .clear (.new 992 96 7)

/-- A write over the end of the block takes three commits, of one page each. -/
theorem programs_over_block :
    threePages.device.base.toNat + threePages.device.mem.size < 0x100000000 ∧
      List.replicate 60 (1 : UInt8) ≠ [] ∧ threePages.device.Covers 1000 60 ∧
      ∃ t' made, (write 1000 (List.replicate 60 1)).run (RecordedDevice.fresh threePages) =
          (.ok (), ⟨t', made⟩) ∧
        (write 1000 (List.replicate 60 1)).run threePages = (.ok (), t') ∧
        ProgramsFrom 992 (made.map CallRecord.call) ∧
        (made.map CallRecord.call).countP PageCall.isCommit = 3 := by
  have fits : threePages.device.base.toNat + threePages.device.mem.size < 0x100000000 := by decide
  have cov : threePages.device.Covers 1000 (List.replicate 60 (1 : UInt8)).length := by decide
  have some : List.replicate 60 (1 : UInt8) ≠ [] := by decide
  obtain ⟨r, t', made, run, same, ordered, -, -, whole⟩ := programs_of_write fits some cov
  have works : ((write 1000 (List.replicate 60 1)).run threePages).1.isOk = true := by
    decide +kernel
  rw [same] at works
  cases r with
  | error f => cases works
  | ok done => exact ⟨fits, some, cov, t', made, run, same, ordered, (whole rfl).commits⟩

end Storage

end Coprocessor
