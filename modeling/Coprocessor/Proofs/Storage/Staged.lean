import Coprocessor.Proofs.Act.Run
import Coprocessor.Storage.PagedRam

/-!
The staged pages of a simulated device, seen through `settled`: the contents that the device would
have if everything staged were programmed now. A load changes only this view, by one page, and a
commit makes it the contents.
-/
namespace Coprocessor.Bytes

theorem splice_append (mem : Array UInt8) (i : Nat) (xs ys : List UInt8) :
    splice mem i (xs ++ ys) = splice (splice mem i xs) (i + xs.length) ys := by
  induction xs generalizing mem i with
  | nil => rfl
  | cons b rest ih =>
    simp only [List.cons_append, splice, ih, List.length_cons]
    rw [show i + 1 + rest.length = i + (rest.length + 1) by omega]

end Coprocessor.Bytes

namespace Coprocessor.PagedRam

/-- `mem` after programming `pages`, the device starting at `base`. -/
def programPage (base : UInt32) (mem : Array UInt8) (page : UInt32 × Page) : Array UInt8 :=
  Bytes.splice mem (page.1.toNat - base.toNat) page.2.toList

/-- The contents once everything staged is programmed. -/
def settled (d : PagedRam) : Array UInt8 :=
  d.staged.foldl (programPage d.base) d.mem

/-- Every staged page lies inside the device. -/
def StagedInside (d : PagedRam) : Prop :=
  ∀ page ∈ d.staged, d.Covers page.1 pageSize

/-- Rounded outwards to pages, the `len` bytes at `addr` are inside the device. -/
def HoldsPages (d : PagedRam) (addr : UInt32) (len : Nat) : Prop :=
  d.base.toNat ≤ addr.toNat / 32 * 32 ∧
    (addr.toNat + len + 31) / 32 * 32 ≤ d.base.toNat + d.mem.size

instance (d : PagedRam) (addr : UInt32) (len : Nat) : Decidable (d.HoldsPages addr len) :=
  inferInstanceAs (Decidable (_ ∧ _))

def loaded (d : PagedRam) (addr : UInt32) (page : Page) : PagedRam :=
  { d with staged := d.staged ++ [(addr, page)] }

/-- The device once everything staged is committed. -/
def committed (d : PagedRam) : PagedRam where
  base := d.base
  mem := d.settled
  staged := []
  commits := d.commits + 1
  maxBatch := max d.maxBatch d.staged.length

/-! ## The view -/

theorem size_foldl_programPage (base : UInt32) (pages : List (UInt32 × Page)) (mem : Array UInt8) :
    (pages.foldl (programPage base) mem).size = mem.size := by
  induction pages generalizing mem with
  | nil => rfl
  | cons page rest ih =>
    rw [List.foldl_cons, ih]
    exact Bytes.size_splice ..

@[simp] theorem size_settled (d : PagedRam) : d.settled.size = d.mem.size :=
  size_foldl_programPage ..

theorem settled_of_clean {d : PagedRam} (h : d.staged = []) : d.settled = d.mem := by
  rw [settled, h]
  rfl

theorem settled_loaded (d : PagedRam) (addr : UInt32) (page : Page) :
    (d.loaded addr page).settled = Bytes.splice d.settled (d.index addr) page.toList := by
  simp only [settled, loaded, List.foldl_append, List.foldl_cons, List.foldl_nil]
  rfl

@[simp] theorem size_committed (d : PagedRam) : d.committed.mem.size = d.mem.size :=
  size_settled d

theorem StagedInside.loaded {d : PagedRam} (h : d.StagedInside) {addr : UInt32}
    (cov : d.Covers addr pageSize) (page : Page) : (d.loaded addr page).StagedInside := by
  intro entry mem
  simp only [PagedRam.loaded, List.mem_append, List.mem_singleton] at mem
  rcases mem with mem | rfl
  · exact h entry mem
  · exact cov

theorem StagedInside.committed (d : PagedRam) : d.committed.StagedInside := by
  intro entry mem
  cases mem

/-- Everything staged is inside the device, and the page at `addr` is the first of it. With nothing
staged, any page may become the first. -/
structure StagedFrom (d : PagedRam) (addr : UInt32) : Prop where
  inside : d.StagedInside
  first : ∀ page ∈ d.staged.head?, page.1 = addr

theorem StagedFrom.of_clean {d : PagedRam} (clean : d.staged = []) (addr : UInt32) :
    d.StagedFrom addr where
  inside page mem := by rw [clean] at mem; cases mem
  first page mem := by rw [clean] at mem; cases mem

theorem head?_loaded (d : PagedRam) (addr : UInt32) (page : Page) :
    (d.loaded addr page).staged.head?.map Prod.fst =
      some ((d.staged.head?.map Prod.fst).getD addr) := by
  simp only [loaded]
  cases d.staged <;> rfl

theorem head?_loaded_eq_iff {d : PagedRam} {addr : UInt32} (page : Page) :
    (d.loaded addr page).staged.head?.map Prod.fst = some addr ↔
      ∀ page ∈ d.staged.head?, page.1 = addr := by
  rw [head?_loaded, Option.some_inj]
  cases d.staged.head? <;> simp

/-! ## The calls -/

def bytesAt (d : PagedRam) (addr : UInt32) (len : Nat) : Vector UInt8 len :=
  Vector.ofFn fun i => d.mem[d.index addr + i.val]?.getD 0

theorem getElem?_bytesAt {d : PagedRam} {addr : UInt32} {len : Nat} (h : d.Covers addr len)
    {k : Nat} (hk : k < len) : (d.bytesAt addr len)[k]? = d.mem[d.index addr + k]? := by
  have inside : d.index addr + k < d.mem.size :=
    Nat.lt_of_lt_of_le (Nat.add_lt_add_left hk _) h.2
  rw [Vector.getElem?_eq_getElem hk, Array.getElem?_eq_getElem inside]
  simp only [bytesAt, Vector.getElem_ofFn, Array.getElem?_eq_getElem inside, Option.getD_some]

/-- The contents once everything staged is programmed, the page at `addr` put back as it is
now. -/
def settledAround (d : PagedRam) (addr : UInt32) : Array UInt8 :=
  Bytes.splice d.settled (d.index addr) (d.bytesAt addr pageSize).toList

@[simp] theorem size_settledAround (d : PagedRam) (addr : UInt32) :
    (d.settledAround addr).size = d.mem.size := by
  rw [settledAround, Bytes.size_splice, size_settled]

/-- Around a page the contents are settled, and in the page they are not. -/
theorem getElem?_settledAround {d : PagedRam} {addr : UInt32} (cov : d.Covers addr pageSize)
    (j : Nat) :
    (d.settledAround addr)[j]? =
      if d.index addr ≤ j ∧ j < d.index addr + pageSize then d.mem[j]? else d.settled[j]? := by
  have extent : d.index addr + pageSize ≤ d.mem.size := cov.2
  rw [settledAround, Bytes.getElem?_splice, Vector.length_toList, size_settled]
  by_cases inPage : d.index addr ≤ j ∧ j < d.index addr + pageSize
  · rw [if_pos (by omega), if_pos inPage, Vector.getElem?_toList,
      getElem?_bytesAt cov (by omega), show d.index addr + (j - d.index addr) = j by omega]
  · rw [if_neg (by omega), if_neg inPage]

theorem settledAround_of_clean {d : PagedRam} (clean : d.staged = []) {addr : UInt32}
    (cov : d.Covers addr pageSize) : d.settledAround addr = d.mem := by
  apply Array.ext_getElem?
  intro j
  rw [getElem?_settledAround cov, settled_of_clean clean, ite_self]

/-- A page that replaces the page at `addr` covers whatever is staged for it. -/
theorem splice_settledAround (d : PagedRam) (addr : UInt32) (page : Page) :
    Bytes.splice (d.settledAround addr) (d.index addr) page.toList =
      Bytes.splice d.settled (d.index addr) page.toList := by
  apply Array.ext_getElem?
  intro j
  simp only [settledAround, Bytes.getElem?_splice, Vector.length_toList, Bytes.size_splice]
  split
  · rfl
  · next outside => exact if_neg outside

theorem run_read {d : PagedRam} {addr : UInt32} {len : Nat} (h : d.Covers addr len) :
    (PageDevice.read addr len : Act Error PagedRam _).run d = (.ok (d.bytesAt addr len), d) := by
  change (PagedRam.read addr len).run d = _
  simp only [Act.run, PagedRam.read, dif_pos h, Prod.mk.injEq, Except.ok.injEq, and_true]
  apply Vector.ext
  intro k hk
  have inside : d.index addr + k < d.mem.size :=
    Nat.lt_of_lt_of_le (Nat.add_lt_add_left hk _) h.2
  simp only [bytesAt, Vector.getElem_ofFn, Array.getElem?_eq_getElem inside, Option.getD_some]

theorem run_read_refused {d : PagedRam} {addr : UInt32} {len : Nat} (h : ¬ d.Covers addr len) :
    (PageDevice.read addr len : Act Error PagedRam _).run d = (.error .storage, d) := by
  change (PagedRam.read addr len).run d = _
  simp only [Act.run, PagedRam.read, dif_neg h]

theorem run_load {d : PagedRam} {addr : UInt32} (aligned : addr.toNat % pageSize = 0)
    (cov : d.Covers addr pageSize) (page : Page) :
    (PageDevice.load addr page : Act Error PagedRam _).run d = (.ok (), d.loaded addr page) := by
  change (PagedRam.load addr page).run d = _
  simp only [Act.run, PagedRam.load, if_pos (And.intro aligned cov)]
  rfl

theorem run_load_refused {d : PagedRam} {addr : UInt32}
    (h : ¬ (addr.toNat % pageSize = 0 ∧ d.Covers addr pageSize)) (page : Page) :
    (PageDevice.load addr page : Act Error PagedRam _).run d = (.error .storage, d) := by
  change (PagedRam.load addr page).run d = _
  simp only [Act.run, PagedRam.load, if_neg h]

/-- Programming pages that lie inside the device cannot fail half way. -/
theorem program_eq (d : PagedRam) (pages : List (UInt32 × Page))
    (inside : ∀ page ∈ pages, d.Covers page.1 pageSize) :
    d.program pages =
      (.ok (), { d with mem := pages.foldl (programPage d.base) d.mem, commits := d.commits + 1 }) := by
  induction pages generalizing d with
  | nil => rfl
  | cons page rest ih =>
    obtain ⟨addr, page⟩ := page
    have here : d.Covers addr pageSize := inside (addr, page) (by simp)
    have later : ∀ p ∈ rest, PagedRam.Covers
        { d with mem := programPage d.base d.mem (addr, page) } p.1 pageSize := by
      intro p hp
      have cov := inside p (by simp [hp])
      simp only [Covers, programPage, Bytes.size_splice] at cov ⊢
      exact cov
    rw [program, if_pos here]
    exact ih _ later

theorem startsAt_iff {d : PagedRam} {addr : UInt32} :
    d.startsAt addr = true ↔ d.staged.head?.map Prod.fst = some addr := by
  simp only [startsAt]
  split
  · next first page rest h => simp [h]
  · next h => simp [h]

/-- The device from which everything staged has been taken for a commit. -/
def taken (d : PagedRam) : PagedRam where
  base := d.base
  mem := d.mem
  staged := []
  commits := d.commits
  maxBatch := max d.maxBatch d.staged.length

/-- A commit that names the first page programs the pages that were staged. -/
theorem run_commit_first {d : PagedRam} {addr : UInt32}
    (first : d.staged.head?.map Prod.fst = some addr) :
    (PageDevice.commit addr : Act Error PagedRam _).run d = d.taken.program d.staged := by
  change (PagedRam.commit addr).run d = _
  simp only [Act.run, PagedRam.commit, if_pos (startsAt_iff.mpr first)]
  rfl

theorem run_commit {d : PagedRam} {addr : UInt32} (inside : d.StagedInside)
    (first : d.staged.head?.map Prod.fst = some addr) :
    (PageDevice.commit addr : Act Error PagedRam _).run d = (.ok (), d.committed) := by
  rw [run_commit_first first, program_eq d.taken d.staged inside]
  rfl

theorem run_commit_refused {d : PagedRam} {addr : UInt32}
    (h : d.staged.head?.map Prod.fst ≠ some addr) :
    (PageDevice.commit addr : Act Error PagedRam _).run d = (.error .storage, d) := by
  change (PagedRam.commit addr).run d = _
  simp only [Act.run, PagedRam.commit, if_neg (mt startsAt_iff.mp h)]

end Coprocessor.PagedRam
