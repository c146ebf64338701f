import Coprocessor.Proofs.Act.Triple
import Coprocessor.Proofs.Storage.WriteSplice
import Coprocessor.Simulation.TappedDevice
import Coprocessor.Storage.WriteWindow

/-!
Writes inside a window change nothing outside it, on a device whose calls may fail at any time.

Pages are written whole and may lie across an end of the window, and a write that fails leaves
pages staged for a later commit. What holds between any two calls is `Confined`: outside the
window the contents are the old ones, and they still would be if everything staged were
programmed now.
-/
namespace Coprocessor

/-- An address that may be written. -/
def WriteWindow.Contains (w : WriteWindow) (addr : Nat) : Prop :=
  w.start.toNat ≤ addr ∧ addr < w.finish.toNat

instance (w : WriteWindow) (addr : Nat) : Decidable (w.Contains addr) :=
  inferInstanceAs (Decidable (_ ∧ _))

/-- Every byte of an admitted write is inside the window. -/
theorem WriteWindow.Admits.contains {w : WriteWindow} {addr len : UInt32} (h : w.Admits addr len)
    {k : Nat} (hk : k < len.toNat) : w.Contains (addr.toNat + k) := by
  obtain ⟨start, -, -, finish⟩ := h
  rw [UInt32.le_iff_toNat_le] at start
  simp only [Contains]
  omega

namespace PagedRam

/-- Outside the window, `d` has the contents of `d₀` now and after its next commit. -/
structure Confined (w : WriteWindow) (d₀ d : PagedRam) : Prop where
  base : d.base = d₀.base
  size : d.mem.size = d₀.mem.size
  inside : d.StagedInside
  kept : ∀ j, ¬ w.Contains (d₀.base.toNat + j) → d.mem[j]? = d₀.mem[j]?
  pending : ∀ j, ¬ w.Contains (d₀.base.toNat + j) → d.settled[j]? = d₀.mem[j]?

/-- Outside the window, a page at `addr` has the contents of `d₀`. -/
def Agrees (w : WriteWindow) (d₀ : PagedRam) (addr : UInt32) (page : Page) : Prop :=
  ∀ k, k < pageSize → ¬ w.Contains (addr.toNat + k) → page[k]? = d₀.mem[d₀.index addr + k]?

variable {w : WriteWindow} {d₀ d : PagedRam}

theorem Confined.refl (clean : d.staged = []) : Confined w d d where
  base := rfl
  size := rfl
  inside page mem := by rw [clean] at mem; cases mem
  kept _ _ := rfl
  pending j _ := by rw [settled_of_clean clean]

theorem Confined.loaded (h : Confined w d₀ d) {addr : UInt32} (cov : d.Covers addr pageSize)
    {page : Page} (agrees : Agrees w d₀ addr page) : Confined w d₀ (d.loaded addr page) where
  base := h.base
  size := h.size
  inside := h.inside.loaded cov page
  kept := h.kept
  pending j outside := by
    have index : d.index addr = d₀.index addr := by rw [PagedRam.index, h.base]; rfl
    rw [settled_loaded, Bytes.getElem?_splice, Vector.length_toList]
    split
    · next inPage =>
      -- a byte of the page that was loaded
      obtain ⟨low, high, -⟩ := inPage
      rw [index] at low high ⊢
      have start : d₀.base.toNat ≤ addr.toNat := h.base ▸ cov.1
      have here := agrees (j - d₀.index addr) (by simp only [pageSize]; omega) (by
        simp only [PagedRam.index] at low ⊢
        rwa [show addr.toNat + (j - (addr.toNat - d₀.base.toNat)) = d₀.base.toNat + j by omega])
      rwa [show d₀.index addr + (j - d₀.index addr) = j by omega,
        ← Vector.getElem?_toList] at here
    · exact h.pending j outside

theorem Confined.committed (h : Confined w d₀ d) : Confined w d₀ d.committed where
  base := h.base
  size := (size_settled d).trans h.size
  inside := StagedInside.committed d
  kept := h.pending
  pending := h.pending

/-! ## The calls of a device -/

open Act

/-- A page that was read agrees with the old contents outside the window. -/
theorem triple_read (addr : UInt32) :
    Triple (Confined w d₀) (PageDevice.read addr pageSize : Act Error PagedRam _)
      (fun page d => Agrees w d₀ addr page ∧ Confined w d₀ d) (fun _ => Confined w d₀) := by
  intro d h
  by_cases cov : d.Covers addr pageSize
  · rw [run_read cov]
    refine ⟨fun k hk outside => ?_, h⟩
    have index : d.index addr = d₀.index addr := by rw [PagedRam.index, h.base]; rfl
    have start : d₀.base.toNat ≤ addr.toNat := h.base ▸ cov.1
    refine (getElem?_bytesAt cov hk).trans ?_
    rw [index]
    apply h.kept
    rwa [PagedRam.index, show d₀.base.toNat + (addr.toNat - d₀.base.toNat + k) =
      addr.toNat + k by omega]
  · rw [run_read_refused cov]
    exact h

theorem keeps_load {addr : UInt32} {page : Page} (agrees : Agrees w d₀ addr page) :
    Keeps (Confined w d₀) (PageDevice.load addr page : Act Error PagedRam _) := by
  intro d h
  by_cases fits : addr.toNat % pageSize = 0 ∧ d.Covers addr pageSize
  · rw [run_load fits.1 fits.2]
    exact h.loaded fits.2 agrees
  · rw [run_load_refused fits]
    exact h

theorem keeps_commit (addr : UInt32) :
    Keeps (Confined w d₀) (PageDevice.commit addr : Act Error PagedRam _) := by
  intro d h
  by_cases first : d.staged.head?.map Prod.fst = some addr
  · rw [run_commit h.inside first]
    exact h.committed
  · rw [run_commit_refused first]
    exact h

end PagedRam

/-! ## Calls that may fail -/

namespace TappedDevice

variable {δ α : Type}

theorem run_strikes (k : PageOperation) (t : TappedDevice δ) :
    (strikes k).run t = (.ok (Fault.strike t.faults k).1, ⟨t.device, (Fault.strike t.faults k).2⟩) :=
  rfl

/-- A call through the tap fails without effect or is the call itself. -/
theorem run_guarded (k : PageOperation) (call : PageCall) (x : Act Error δ α)
    (t : TappedDevice δ) :
    ∃ faults, (guarded k call x).run t = (.error .storage, ⟨t.device, faults⟩) ∨
      (guarded k call x).run t = ((x.run t.device).1, ⟨(x.run t.device).2, faults⟩) := by
  refine ⟨(Fault.strike t.faults k).2, ?_⟩
  rw [guarded, Act.run_emit_bind, Act.run_bind_ok (run_strikes k t)]
  cases (Fault.strike t.faults k).1 with
  | true => exact Or.inl rfl
  | false => exact Or.inr rfl

theorem triple_guarded {P : δ → Prop} {Q : α → δ → Prop} {x : Act Error δ α}
    (h : Act.Triple P x Q fun _ => P) (k : PageOperation) (call : PageCall) :
    Act.Triple (fun t : TappedDevice δ => P t.device) (guarded k call x)
      (fun a t => Q a t.device) (fun _ t => P t.device) := by
  intro t ht
  obtain ⟨faults, failed | passed⟩ := run_guarded k call x t
  · rw [failed]
    exact ht
  · rw [passed]
    rcases hr : x.run t.device with ⟨e | a, d'⟩
    · exact h.error ht hr
    · exact h.ok ht hr

theorem keeps_guarded {P : δ → Prop} {x : Act Error δ α} (h : Act.Keeps P x)
    (k : PageOperation) (call : PageCall) :
    Act.Keeps (fun t : TappedDevice δ => P t.device) (guarded k call x) :=
  (triple_guarded h.triple k call).keeps

/-- Outside the window, the device behind the tap has the contents of `d₀`. -/
def Confined (w : WriteWindow) (d₀ : PagedRam) (t : TappedDevice PagedRam) : Prop :=
  PagedRam.Confined w d₀ t.device

end TappedDevice

/-! ## Writes -/

namespace Storage

open Act

variable {w : WriteWindow} {d₀ : PagedRam}

theorem triple_checked {δ α : Type} {P : δ → Prop} (x : Except Trap α) :
    Triple P (checked x) (fun a d => x = .ok a ∧ P d) (fun _ => P) := by
  intro d hd
  rw [run_checked]
  cases x with
  | error t => exact hd
  | ok a => exact ⟨rfl, hd⟩

/-- What follows on the page at `addr` begins at the page after it, if that has an address. -/
theorem keeps_next {δ α : Type} {P : δ → Prop} {addr : UInt32} {f : UInt32 → Act Failure δ α}
    (h : (addr + 32).toNat = addr.toNat + pageSize → Keeps P (f (addr + 32))) :
    Keeps P (checked (checkedAdd addr 32) >>= f) := by
  refine (Triple.bind (triple_checked _) fun next => Triple.of_fact fun sum => ?_).keeps
  obtain ⟨top, rfl⟩ := checkedAdd_eq_ok_iff.mp sum
  exact (h (toNat_nextPage top)).triple

theorem keeps_load {addr : UInt32} {page : Page} (agrees : PagedRam.Agrees w d₀ addr page) :
    Keeps (TappedDevice.Confined w d₀) (onDevice (PageDevice.load addr page)) :=
  (TappedDevice.keeps_guarded (PagedRam.keeps_load agrees) .load (.load addr)).mapFailure
    Failure.error

theorem keeps_commit (addr : UInt32) :
    Keeps (TappedDevice.Confined w d₀) (onDevice (PageDevice.commit addr)) :=
  (TappedDevice.keeps_guarded (PagedRam.keeps_commit addr) .commit
    (.commit addr)).mapFailure Failure.error

/-- Patching a page changes no byte outside the range that is patched. -/
theorem keeps_patchPage {addr : UInt32} {offset : Nat} {bytes : List UInt8}
    (inWindow : ∀ k, k < bytes.length → w.Contains (addr.toNat + (offset + k))) :
    Keeps (TappedDevice.Confined w d₀) (patchPage addr offset bytes) := by
  have read : Triple (TappedDevice.Confined w d₀) (onDevice (PageDevice.read addr pageSize))
      (fun page t => PagedRam.Agrees w d₀ addr page ∧ TappedDevice.Confined w d₀ t)
      (fun _ => TappedDevice.Confined w d₀) :=
    (TappedDevice.triple_guarded (PagedRam.triple_read addr) .read (.read addr pageSize)).mapFailure
      Failure.error
  refine (Triple.bind read fun page => Triple.of_fact fun agrees => ?_).keeps
  refine Triple.bind (triple_checked _) fun merged => Triple.of_fact fun overlaid => ?_
  -- the page as read agrees outside the window, and the overlay is inside it
  have agrees' : PagedRam.Agrees w d₀ addr merged := by
    intro k hk outside
    rw [Page.getElem?_overlay overlaid hk, if_neg]
    · exact agrees k hk outside
    · rintro ⟨low, high⟩
      apply outside
      rw [show k = offset + (k - offset) by omega]
      exact inWindow (k - offset) (by omega)
  exact ((keeps_load agrees').bind fun _ => keeps_commit addr).triple

/-- The paging loop changes no byte outside the range that is left to write. -/
theorem keeps_writePages (n : Nat) {addr : UInt32} (batch : Option UInt32) {bytes : List UInt8}
    (full : pageSize * n ≤ bytes.length)
    (inWindow : ∀ k, k < bytes.length → w.Contains (addr.toNat + k)) :
    Keeps (TappedDevice.Confined w d₀) (writePages n addr batch bytes) := by
  induction n generalizing addr batch bytes with
  | zero =>
    have last : Keeps (TappedDevice.Confined w d₀)
        (if bytes.isEmpty then pure () else patchPage addr 0 bytes) := by
      refine (Keeps.pure ()).ite (keeps_patchPage fun k hk => ?_)
      rw [Nat.zero_add]
      exact inWindow k hk
    cases batch with
    | none => exact last
    | some first => exact (keeps_commit first).bind fun _ => last
  | succ n ih =>
    have first : pageSize ≤ bytes.length := by
      rw [Nat.mul_succ] at full
      omega
    -- a whole page has no byte outside the window to agree about
    have agrees : PagedRam.Agrees w d₀ addr (Page.ofBytes (bytes.take pageSize)) :=
      fun k hk outside => absurd (inWindow k (Nat.lt_of_lt_of_le hk first)) outside
    rw [writePages_succ]
    refine (keeps_load agrees).bind fun _ => ((keeps_commit _).ite (Keeps.pure ())).bind fun _ => ?_
    refine keeps_next fun next => ih _ ?_ fun k hk => ?_
    · rw [List.length_drop]
      rw [Nat.mul_succ] at full
      omega
    · rw [List.length_drop] at hk
      rw [next, Nat.add_assoc]
      exact inWindow (pageSize + k) (by omega)

theorem keeps_checkRange {δ : Type} [PageDevice δ] {P : δ → Prop} (addr : UInt32) (len : Nat) :
    Keeps P (checkRange addr len) := by
  rw [checkRange]
  refine (Keeps.gets PageDevice.range).bind fun range => ?_
  refine (Keeps.ofExcept Failure.trap range).bind fun ends => ?_
  obtain ⟨start, finish⟩ := ends
  cases checkedAdd addr len.toUInt32 with
  | error t => exact Keeps.fail .storage
  | ok last =>
    exact ((Keeps.log _).bind fun _ => Keeps.fail .storage).ite (Keeps.pure ())

/-- A write changes no byte outside its range, also where it fails. -/
theorem keeps_write {addr : UInt32} {data : List UInt8}
    (inWindow : ∀ k, k < data.length → w.Contains (addr.toNat + k)) :
    Keeps (TappedDevice.Confined w d₀) (write addr data) := by
  cases data with
  | nil => exact Keeps.pure ()
  | cons b rest =>
    have page := toNat_pageOf addr
    have taken := length_take_firstLength addr (b :: rest)
    have first := firstLength_eq addr (b :: rest)
    have leading : Keeps (TappedDevice.Confined w d₀) (patchPage (pageOf addr)
        (addr.toNat % pageSize) ((b :: rest).take (firstLength addr (b :: rest)))) := by
      apply keeps_patchPage
      intro k hk
      rw [page, show addr.toNat / 32 * 32 + (addr.toNat % pageSize + k) = addr.toNat + k by
        simp only [pageSize]; omega]
      exact inWindow k (by omega)
    have others : Keeps (TappedDevice.Confined w d₀) (do
        let next ← checked (checkedAdd (pageOf addr) 32)
        writePages (wholePages ((b :: rest).drop (firstLength addr (b :: rest))).length) next none
          ((b :: rest).drop (firstLength addr (b :: rest)))) := by
      refine keeps_next fun next => keeps_writePages _ none ?_ fun k hk => ?_
      · simp only [wholePages, pageSize]
        omega
      · rw [List.length_drop] at hk
        rw [next, page, show addr.toNat / 32 * 32 + pageSize + k =
          addr.toNat + (firstLength addr (b :: rest) + k) by simp only [pageSize]; omega]
        exact inWindow _ (by omega)
    rw [write]
    refine (keeps_checkRange addr _).bind fun _ => Keeps.bind ?_ fun _ => Keeps.log _
    rw [writeFrom_eq]
    exact leading.bind fun _ => others

end Storage

end Coprocessor
