import Coprocessor.Proofs.Act.Mirrors
import Coprocessor.Proofs.Storage.StalePages

/-!
Storage with a page left staged. A commit has to name the page that was staged first, so a write
that begins with any other page loads its first page and fails on the commit: nothing is
programmed, and one more page waits behind the first. However many such writes follow, the storage
stays blocked.
-/
namespace Coprocessor

open Act

namespace TappedDevice

variable {δ α : Type}

/-- A tap without faults changes no call. -/
theorem mirrors_clear (k : PageOperation) (call : PageCall) (x : Act Error δ α) :
    Mirrors clear x (guarded k call x) :=
  fun _ => rfl

end TappedDevice

namespace Storage

open TappedDevice

theorem congruence_clear {δ : Type} [PageDevice δ] :
    Congruence fun {α} (x : Act Failure δ α) (y : Act Failure (TappedDevice δ) α) =>
      Mirrors clear x y where
  pure := Mirrors.pure
  fail := Mirrors.fail
  log := Mirrors.log
  checked := Mirrors.ofExcept Failure.trap
  bind := Mirrors.bind
  range := Mirrors.gets fun _ => rfl
  read addr := (mirrors_clear .read (.read addr pageSize) _).mapFailure Failure.error
  load addr _ := (mirrors_clear .load (.load addr) _).mapFailure Failure.error
  commit addr := (mirrors_clear .commit (.commit addr) _).mapFailure Failure.error

/-- Without faults, a write through a tap is a write to the device. -/
theorem run_write_clear {δ : Type} [PageDevice δ] (addr : UInt32) (data : List UInt8) (d : δ) :
    (write addr data).run (clear d) =
      (((write addr data).run d).1, clear ((write addr data).run d).2) :=
  congruence_clear.write addr data d

/-! ## A write that may not begin -/

/-- A write of `len` bytes at `addr` comes as far as its first page: the bytes and that page are
inside the device. -/
def Begins (d : PagedRam) (addr : UInt32) (len : Nat) : Prop :=
  d.Covers addr len ∧ d.Covers (pageOf addr) pageSize

instance (d : PagedRam) (addr : UInt32) (len : Nat) : Decidable (Begins d addr len) :=
  inferInstanceAs (Decidable (_ ∧ _))

/-- With another page staged first, a write stages its first page at most, and fails. -/
theorem run_write_blocked {d : PagedRam} (fits : d.base.toNat + d.mem.size < 0x100000000)
    {addr : UInt32} {data : List UInt8} (some : data ≠ []) (counted : data.length < 0x100000000)
    (blocked : ¬ ∀ page ∈ d.staged.head?, page.1 = pageOf addr) :
    ∃ pages, (write addr data).run d =
        (.error (.error .storage), { d with staged := d.staged ++ pages }) ∧
      pages.map Prod.fst = if Begins d addr data.length then [pageOf addr] else [] := by
  have unchanged : { d with staged := d.staged ++ [] } = d := by rw [List.append_nil]
  by_cases range : d.Covers addr data.length
  · have passed := run_checkRange_as rfl fits addr counted
    rw [if_pos range] at passed
    by_cases cov : d.Covers (pageOf addr) pageSize
    · obtain ⟨merged, run⟩ :=
        run_patchPage_blocked blocked (pageOf_aligned addr) cov (firstLength_fits addr data)
      refine ⟨[(pageOf addr, merged)], run_write passed some ?_, (if_pos ⟨range, cov⟩).symm⟩
      rw [writeFrom_eq]
      exact run_bind_error run _
    · refine ⟨[], run_write passed some ?_, (if_neg fun begins => cov begins.2).symm⟩
      rw [unchanged, writeFrom_eq]
      exact run_bind_error (run_patchPage_refused _ _ cov) _
  · refine ⟨[], ?_, (if_neg fun begins => range begins.1).symm⟩
    rw [unchanged]
    refine run_write_outside fits some counted fun inside => range ?_
    simp only [PagedRam.Covers]
    omega

/-! ## One write after the other -/

/-- The write has failed, and the device is still `d` but for what is staged behind page `f`. -/
structure Attempt.Blocked (d : PagedRam) (f : UInt32) (a : Attempt) : Prop where
  failed : a.result = .error (.error .storage)
  contents : a.after.mem = d.mem
  commits : a.after.commits = d.commits
  first : a.after.staged.head?.map Prod.fst = some f
  /-- One page is staged by a write that comes as far as its first page, and none by any other. -/
  added : ∃ pages, a.after.staged = a.before.staged ++ pages ∧
    pages.map Prod.fst = if Begins d a.addr a.data.length then [pageOf a.addr] else []

/-- A page left staged blocks the storage for every write that does not begin with it: as long as no
other comes, all of them fail, and nothing is ever programmed. -/
theorem blocked_of_staged {d : PagedRam} (fits : d.base.toNat + d.mem.size < 0x100000000)
    {f : UInt32} (first : d.staged.head?.map Prod.fst = some f)
    (writes : List (UInt32 × List UInt8))
    (apart : ∀ w ∈ writes, w.2 ≠ [] ∧ w.2.length < 0x100000000 ∧ pageOf w.1 ≠ f) :
    ∀ a ∈ attempts (clear d) writes, a.Blocked d f := by
  induction writes generalizing d with
  | nil => nofun
  | cons w rest ih =>
    obtain ⟨addr, data⟩ := w
    obtain ⟨some, counted, other⟩ := apart (addr, data) List.mem_cons_self
    obtain ⟨entry, head, rfl⟩ := Option.map_eq_some_iff.mp first
    obtain ⟨pages, run, added⟩ :=
      run_write_blocked fits some counted fun same => other (same entry head).symm
    -- the page that was staged first is still the first when more are staged
    have first' : (d.staged ++ pages).head?.map Prod.fst = .some entry.1 := by
      rw [List.head?_append, head]
      rfl
    have tapped := run_write_clear addr data d
    rw [run] at tapped
    intro a mem
    rw [attempts, tapped] at mem
    rcases List.mem_cons.mp mem with rfl | later
    · exact ⟨rfl, rfl, rfl, first', pages, rfl, added⟩
    · obtain ⟨failed, contents, commits, first'', added'⟩ :=
        ih (d := { d with staged := d.staged ++ pages }) fits first'
          (fun w mem => apart w (List.mem_cons_of_mem _ mem)) a later
      exact ⟨failed, contents, commits, first'', added'⟩

/-- Four pages of which a write cut short has left the second and the third staged. -/
def cutStorage : PagedRam :=
  ((write 0 (List.replicate 97 1)).run fourPages).2.device

/-- A byte of the first page, the two last pages, and bytes of which the last is outside. -/
def lateWrites : List (UInt32 × List UInt8) :=
  [(7, [9]), (64, List.replicate 64 9), (120, List.replicate 9 9)]

/-- Neither a byte of the first page nor the whole rest of the storage can be written any more, and
a write that leaves the storage stages nothing. -/
theorem blocked_of_cut :
    cutStorage.base.toNat + cutStorage.mem.size < 0x100000000 ∧
      cutStorage.staged.head?.map Prod.fst = some 32 ∧
      ∃ a b c : Attempt,
        attempts (clear cutStorage) lateWrites = [a, b, c] ∧ a.Blocked cutStorage 32 ∧
        b.Blocked cutStorage 32 ∧ c.Blocked cutStorage 32 ∧
        c.after.staged.map Prod.fst = [32, 64, 0, 64] := by
  have fits : cutStorage.base.toNat + cutStorage.mem.size < 0x100000000 := by decide +kernel
  have first : cutStorage.staged.head?.map Prod.fst = some 32 := by decide +kernel
  have all := blocked_of_staged fits first lateWrites (by decide +kernel)
  refine ⟨fits, first, _, _, _, rfl, all _ (.head _), all _ (.tail _ (.head _)),
    all _ (.tail _ (.tail _ (.head _))), ?_⟩
  decide +kernel

end Storage

end Coprocessor
