import Coprocessor.Proofs.Storage.Congruence
import Coprocessor.Proofs.Storage.Totality

/-!
Writes one after the other, on a device whose calls may fail at any time. A write that fails may
leave pages staged, and the device has no way to take them back: they stay until a write begins
with the first of them, and are then programmed with it. A write that works has put its own bytes
in place and kept its first page; the other stale pages are stored with it.
-/
namespace Coprocessor

open Act

/-! ## What works through a tap -/

namespace TappedDevice

variable {δ ε ε' α β : Type}

/-- What works through a tap works without it, and does the same to the device. -/
def Passes (x : Act ε (TappedDevice δ) α) (y : Act ε δ α) : Prop :=
  ∀ t t' a, x.run t = (.ok a, t') → y.run t.device = (.ok a, t'.device)

theorem Passes.pure (a : α) : Passes (Pure.pure a : Act ε (TappedDevice δ) α) (Pure.pure a) := by
  intro t t' b h
  cases h
  rfl

theorem Passes.fail [Raises ε] (e : Error) (y : Act ε δ α) : Passes (Act.fail e) y := by
  intro t t' b h
  cases h

theorem Passes.log (m : Message) : Passes (Act.log m : Act ε (TappedDevice δ) Unit) (Act.log m) := by
  intro t t' b h
  cases h
  rfl

theorem Passes.range [PageDevice δ] :
    Passes (Act.gets PageDevice.range : Act ε (TappedDevice δ) _) (Act.gets PageDevice.range) := by
  intro t t' b h
  cases h
  rfl

theorem Passes.ofExcept (f : ε' → ε) (r : Except ε' α) :
    Passes (Act.ofExcept f r : Act ε (TappedDevice δ) α) (Act.ofExcept f r) := by
  intro t t' b h
  rw [run_ofExcept] at h ⊢
  cases r <;> cases h
  rfl

theorem Passes.bind {x : Act ε (TappedDevice δ) α} {y : Act ε δ α}
    {f : α → Act ε (TappedDevice δ) β} {g : α → Act ε δ β} (first : Passes x y)
    (rest : ∀ a, Passes (f a) (g a)) : Passes (x >>= f) (y >>= g) := by
  intro t t' b h
  obtain ⟨a, t₁, ran, later⟩ := run_bind_eq_ok h
  rw [run_bind_ok (first t t₁ a ran)]
  exact rest a t₁ t' b later

theorem Passes.mapFailure {x : Act ε (TappedDevice δ) α} {y : Act ε δ α} (h : Passes x y)
    (f : ε → ε') : Passes (x.mapFailure f) (y.mapFailure f) := by
  intro t t' b ran
  rw [run_mapFailure] at ran
  rcases hx : x.run t with ⟨e | a, t₁⟩
  · rw [hx] at ran
    cases ran
  · rw [hx] at ran
    cases ran
    rw [run_mapFailure, h t _ _ hx]
    rfl

/-- A fault makes a call fail, so a call that works is one that the device has answered. -/
theorem Passes.guarded (k : PageOperation) (call : PageCall) (x : Act Error δ α) :
    Passes (guarded k call x) x := by
  intro t t' a h
  obtain ⟨faults, failed | passed⟩ := run_guarded k call x t
  · rw [failed] at h
    cases h
  · rw [passed] at h
    rcases hx : x.run t.device with ⟨e | b, d'⟩
    · rw [hx] at h
      cases h
    · rw [hx] at h
      cases h
      rfl

end TappedDevice

namespace Storage

open TappedDevice

section

variable {δ : Type} [PageDevice δ]

theorem congruence_passes :
    Congruence fun {α} (x : Act Failure (TappedDevice δ) α) (y : Act Failure δ α) => Passes x y where
  pure := Passes.pure
  fail e := Passes.fail e _
  log := Passes.log
  checked := Passes.ofExcept Failure.trap
  bind := Passes.bind
  range := Passes.range
  read addr := (Passes.guarded .read (.read addr pageSize) _).mapFailure Failure.error
  load addr _ := (Passes.guarded .load (.load addr) _).mapFailure Failure.error
  commit addr := (Passes.guarded .commit (.commit addr) _).mapFailure Failure.error

/-- A write that no fault has stopped is a write to the device alone. -/
theorem passes_write (addr : UInt32) (data : List UInt8) :
    Passes (write addr data) (write addr data : Act _ δ _) :=
  congruence_passes.write addr data

/-! ## What every call keeps -/

variable {P : δ → Prop}

/-- What outlives every call of the device outlives a write, whatever becomes of it. -/
theorem keeps_write_of_calls (read : ∀ addr, Keeps P (PageDevice.read addr pageSize))
    (load : ∀ addr page, Keeps P (PageDevice.load addr page))
    (commit : ∀ addr, Keeps P (PageDevice.commit addr)) (addr : UInt32) (data : List UInt8) :
    Keeps P (write addr data) := by
  have steps : Congruence fun {α} (x _ : Act Failure δ α) => Keeps P x :=
    { pure := Keeps.pure
      fail := Keeps.fail
      log := Keeps.log
      checked := Keeps.ofExcept Failure.trap
      bind := Keeps.bind
      range := Keeps.gets PageDevice.range
      read := fun addr => (read addr).mapFailure Failure.error
      load := fun addr page => (load addr page).mapFailure Failure.error
      commit := fun addr => (commit addr).mapFailure Failure.error }
  exact steps.write addr data

end

/-! ## Writes to a device with stale pages -/

/-- A device of `size` bytes at `base`, with nothing staged outside it. -/
structure Sound (base : UInt32) (size : Nat) (d : PagedRam) : Prop where
  spans : PagedRam.Spans base size d
  inside : d.StagedInside

variable {base : UInt32} {size : Nat}

theorem Sound.read (addr : UInt32) :
    Keeps (Sound base size) (PageDevice.read addr pageSize : Act Error PagedRam _) := by
  intro d h
  by_cases cov : d.Covers addr pageSize
  · rw [PagedRam.run_read cov]
    exact h
  · rw [PagedRam.run_read_refused cov]
    exact h

theorem Sound.load (addr : UInt32) (page : Page) :
    Keeps (Sound base size) (PageDevice.load addr page : Act Error PagedRam _) := by
  intro d h
  by_cases fits : addr.toNat % pageSize = 0 ∧ d.Covers addr pageSize
  · rw [PagedRam.run_load fits.1 fits.2]
    exact ⟨h.spans, h.inside.loaded fits.2 page⟩
  · rw [PagedRam.run_load_refused fits]
    exact h

theorem Sound.commit (addr : UInt32) :
    Keeps (Sound base size) (PageDevice.commit addr : Act Error PagedRam _) := by
  intro d h
  by_cases first : d.staged.head?.map Prod.fst = some addr
  · rw [PagedRam.run_commit h.inside first]
    exact ⟨⟨h.spans.1, (PagedRam.size_committed d).trans h.spans.2⟩, .committed d⟩
  · rw [PagedRam.run_commit_refused first]
    exact h

theorem Sound.write (addr : UInt32) (data : List UInt8) :
    Keeps (fun t : TappedDevice PagedRam => Sound base size t.device) (write addr data) :=
  keeps_write_of_calls (fun addr => keeps_guarded (Sound.read addr) .read (.read addr pageSize))
    (fun addr page => keeps_guarded (Sound.load addr page) .load (.load addr))
    (fun addr => keeps_guarded (Sound.commit addr) .commit (.commit addr)) addr data

/-- A write that works on a device with stale pages begins with the first of them. -/
theorem run_write_eq_ok {d d' : PagedRam} (fits : d.base.toNat + d.mem.size < 0x100000000)
    (inside : d.StagedInside) {addr : UInt32} {data : List UInt8} (some : data ≠ [])
    (run : (write addr data).run d = (.ok (), d')) :
    d.StagedFrom (pageOf addr) ∧ d.HoldsPages addr data.length ∧ d'.staged = [] ∧
      d'.mem = Bytes.splice (d.settledAround (pageOf addr)) (d.index addr) data := by
  by_cases may : d.StagedFrom (pageOf addr) ∧ d.HoldsPages addr data.length
  · obtain ⟨d₁, works, -, clean, mem⟩ := run_write_over fits may.1 some may.2
    cases run.symm.trans works
    exact ⟨may.1, may.2, clean, mem⟩
  · obtain ⟨d₁, fails⟩ := run_write_barred fits inside some may
    cases run.symm.trans fails

/-! ## One write after the other -/

/-- One write of a sequence, what became of it, and the device before and after. -/
structure Attempt where
  addr : UInt32
  data : List UInt8
  before : PagedRam
  result : Except Failure Unit
  after : PagedRam

/-- Writes one after the other, whatever becomes of each. Calls of the device fail as the faults of
its tap have it: any set of calls is one of faults that strike once. -/
def attempts (t : TappedDevice PagedRam) : List (UInt32 × List UInt8) → List Attempt
  | [] => []
  | (addr, data) :: rest =>
    let out := (write addr data).run t
    ⟨addr, data, t.device, out.1, out.2.device⟩ :: attempts out.2 rest

namespace Attempt

/-- Byte `j` of the device is in the range of the write. -/
def Writes (a : Attempt) (j : Nat) : Prop :=
  a.before.index a.addr ≤ j ∧ j < a.before.index a.addr + a.data.length

/-- Byte `j` of the device is in the page with which the write begins. -/
def Opens (a : Attempt) (j : Nat) : Prop :=
  a.before.index (pageOf a.addr) ≤ j ∧ j < a.before.index (pageOf a.addr) + pageSize

instance (a : Attempt) (j : Nat) : Decidable (a.Writes j) :=
  inferInstanceAs (Decidable (_ ∧ _))

instance (a : Attempt) (j : Nat) : Decidable (a.Opens j) :=
  inferInstanceAs (Decidable (_ ∧ _))

/-- The contents are those before the write with its bytes in their place. -/
def IsSplice (a : Attempt) : Prop :=
  a.after.mem = Bytes.splice a.before.mem (a.before.index a.addr) a.data

end Attempt

/-- Every write of a sequence begins with a sound device, and what it does is a write. -/
theorem attempts_sound {t : TappedDevice PagedRam} (h : Sound base size t.device)
    {writes : List (UInt32 × List UInt8)} {a : Attempt} (mem : a ∈ attempts t writes) :
    Sound base size a.before ∧
      (a.result = .ok () → (write a.addr a.data).run a.before = (.ok (), a.after)) := by
  induction writes generalizing t with
  | nil => cases mem
  | cons next rest ih =>
    obtain ⟨addr, data⟩ := next
    rcases List.mem_cons.mp mem with rfl | later
    · refine ⟨h, fun worked => passes_write addr data t _ () ?_⟩
      exact Prod.ext worked rfl
    · exact ih (Sound.write addr data t h) later

/-- Bytes spliced in where the device holds them: the range has them, and the rest is as before. -/
theorem Attempt.getElem?_splice {a : Attempt} (holds : a.before.HoldsPages a.addr a.data.length)
    {mem : Array UInt8} (size : mem.size = a.before.mem.size) (j : Nat) :
    (Bytes.splice mem (a.before.index a.addr) a.data)[j]? =
      if a.Writes j then a.data[j - a.before.index a.addr]? else mem[j]? := by
  obtain ⟨low, high⟩ := holds
  have extent : a.before.index a.addr + a.data.length ≤ mem.size := by
    rw [size, PagedRam.index]
    omega
  rw [Bytes.getElem?_splice]
  by_cases inside : a.Writes j
  · have range := inside
    simp only [Attempt.Writes] at range
    rw [if_pos inside, if_pos (by omega)]
  · rw [if_neg inside, if_neg]
    rintro ⟨start, finish, -⟩
    exact inside ⟨start, finish⟩

theorem Attempt.getElem?_after {a : Attempt} (some : a.data ≠ [])
    (holds : a.before.HoldsPages a.addr a.data.length)
    (mem : a.after.mem =
      Bytes.splice (a.before.settledAround (pageOf a.addr)) (a.before.index a.addr) a.data)
    (j : Nat) :
    a.after.mem[j]? =
      if a.Writes j then a.data[j - a.before.index a.addr]?
      else if a.Opens j then a.before.mem[j]? else a.before.settled[j]? := by
  rw [mem, Attempt.getElem?_splice holds (PagedRam.size_settledAround ..),
    PagedRam.getElem?_settledAround (covers_pageOf some holds)]
  rfl

/-- A write of a sequence that works puts its bytes in place and leaves nothing staged. The rest of
the page with which it begins stays, and every other byte is what the pages staged before make it:
so nothing but its own bytes changes exactly if those agree with the contents there, as they do
where nothing was staged. -/
theorem stored_around_stale_pages {t : TappedDevice PagedRam}
    (fits : t.device.base.toNat + t.device.mem.size < 0x100000000) (clean : t.device.staged = [])
    {writes : List (UInt32 × List UInt8)} {a : Attempt} (mem : a ∈ attempts t writes)
    (worked : a.result = .ok ()) :
    (a.data = [] → a.after = a.before) ∧
    (a.data ≠ [] → a.after.staged = [] ∧ a.before.StagedFrom (pageOf a.addr) ∧
      ∀ j, a.after.mem[j]? =
        if a.Writes j then a.data[j - a.before.index a.addr]?
        else if a.Opens j then a.before.mem[j]? else a.before.settled[j]?) ∧
    (a.IsSplice ↔ a.data = [] ∨
      ∀ j, ¬ a.Writes j → ¬ a.Opens j → a.before.settled[j]? = a.before.mem[j]?) ∧
    (a.before.staged = [] → a.IsSplice) := by
  have start : Sound t.device.base t.device.mem.size t.device :=
    ⟨⟨rfl, rfl⟩, (PagedRam.StagedFrom.of_clean clean 0).inside⟩
  obtain ⟨⟨⟨base, size⟩, inside⟩, ran⟩ := attempts_sound start mem
  have run := ran worked
  by_cases empty : a.data = []
  · have same : a.after = a.before := by
      rw [empty] at run
      exact (congrArg Prod.snd run).symm
    have splice : a.IsSplice := by
      rw [Attempt.IsSplice, same, empty]
      rfl
    exact ⟨fun _ => same, fun some => absurd empty some, by simp [empty, splice], fun _ => splice⟩
  · have fits' : a.before.base.toNat + a.before.mem.size < 0x100000000 := by
      rw [base, size]
      exact fits
    obtain ⟨staged, holds, clean', stored⟩ := run_write_eq_ok fits' inside empty run
    have bytes := Attempt.getElem?_after empty holds stored
    have splice_iff : a.IsSplice ↔
        ∀ j, ¬ a.Writes j → ¬ a.Opens j → a.before.settled[j]? = a.before.mem[j]? := by
      have before := Attempt.getElem?_splice holds (rfl : a.before.mem.size = a.before.mem.size)
      constructor
      · intro splice j outside around
        have entry := bytes j
        rw [splice, before, if_neg outside, if_neg outside, if_neg around] at entry
        exact entry.symm
      · intro agree
        apply Array.ext_getElem?
        intro j
        rw [bytes, before]
        split
        · rfl
        · next outside =>
          split
          · rfl
          · next around => exact agree j outside around
    refine ⟨fun none => absurd none empty, fun _ => ⟨clean', staged, bytes⟩, ?_, fun none => ?_⟩
    · simp only [empty, false_or, splice_iff]
    · refine splice_iff.mpr fun j _ _ => ?_
      rw [PagedRam.settled_of_clean none]

/-! ## A write that is cut short, and the next one -/

/-- Four pages, on which the second commit fails. -/
def fourPages : TappedDevice PagedRam :=
  ⟨.new 0 128 7, [.plan .commit 1 (some 1)]⟩

/-- A write of which two pages stay staged, and then a byte for the first of them. -/
def byteAfterCut : List (UInt32 × List UInt8) :=
  [(0, List.replicate 97 1), (32, [9])]

/-- The second of the two writes. -/
def overCut : Attempt :=
  let cut := ((write 0 (List.replicate 97 1)).run fourPages).2
  let out := (write 32 [9]).run cut
  ⟨32, [9], cut.device, out.1, out.2.device⟩

theorem overCut_mem : overCut ∈ attempts fourPages byteAfterCut :=
  .tail _ (.head _)

theorem fourPages_fits :
    fourPages.device.base.toNat + fourPages.device.mem.size < 0x100000000 := by
  decide +kernel

theorem overCut_worked : overCut.result = .ok () := by
  have answered : overCut.result.isOk = true := by decide +kernel
  rcases result : overCut.result with e | done
  · rw [result] at answered
    cases answered
  · rfl

/-- The byte is stored, the rest of its page is kept, and nothing stays staged. -/
theorem stored_around_stale_page :
    fourPages.device.base.toNat + fourPages.device.mem.size < 0x100000000 ∧
      fourPages.device.staged = [] ∧ overCut ∈ attempts fourPages byteAfterCut ∧
      overCut.result = .ok () ∧ overCut.before.staged.length = 2 ∧ overCut.after.staged = [] ∧
      overCut.after.mem[32]? = some 9 ∧ overCut.after.mem[40]? = overCut.before.mem[40]? := by
  have spec := (stored_around_stale_pages fourPages_fits rfl overCut_mem overCut_worked).2.1 nofun
  obtain ⟨clean, -, bytes⟩ := spec
  have own := bytes 32
  have page := bytes 40
  have nine : overCut.data[32 - overCut.before.index overCut.addr]? = some 9 := by decide +kernel
  rw [if_pos (by decide +kernel), nine] at own
  rw [if_neg (by decide +kernel), if_pos (by decide +kernel)] at page
  exact ⟨fourPages_fits, rfl, overCut_mem, overCut_worked, by decide +kernel, clean, own, page⟩

/-- A write that works may store more than its bytes: with the byte for the one page goes the other,
which the write before had left staged. -/
theorem stale_page_stored :
    ¬ ∀ (t : TappedDevice PagedRam) (writes : List (UInt32 × List UInt8)),
      t.device.base.toNat + t.device.mem.size < 0x100000000 → t.device.staged = [] →
      ∀ a ∈ attempts t writes, a.result = .ok () → a.IsSplice := by
  intro all
  have splice := all fourPages byteAfterCut fourPages_fits rfl overCut overCut_mem overCut_worked
  have differs : overCut.after.mem[64]? ≠
      (Bytes.splice overCut.before.mem (overCut.before.index overCut.addr) overCut.data)[64]? := by
    decide +kernel
  exact differs (congrArg (fun mem => mem[64]?) splice)

end Storage

end Coprocessor
