import Coprocessor.Proofs.Storage.Confinement

/-!
Writes never trap where the end of the device is an address. Every sum of addresses that the paging
makes is that of a page which the device has just loaded, and a device that ends at an address loads
no page without another address after it. This is all that is used of the device, so it holds also
while calls of the device fail.
-/
namespace Coprocessor

open Act

/-- An error, which the caller of a write answers. -/
def Failure.IsError (f : Failure) : Prop :=
  ∃ e, f = .error e

/-- The address past the page or the bytes that a call is about. -/
def PageCall.stop : PageCall → Nat
  | .read addr len => addr.toNat + len
  | .load addr => addr.toNat + pageSize
  | .commit addr => addr.toNat + pageSize

namespace Storage

/-! ## Any device that ends at an address -/

section

variable {δ α : Type} {P : δ → Prop} {top : Nat}

/-- The call fails or is about bytes before `top`, and `P` outlives it. -/
def StopsBy (P : δ → Prop) (top : Nat) (call : PageCall) (x : Act Error δ α) : Prop :=
  Triple P x (fun _ d => call.stop ≤ top ∧ P d) fun _ => P

/-- The action does not trap, and `P` outlives it. -/
def Total (P : δ → Prop) (x : Act Failure δ α) : Prop :=
  Triple P x (fun _ => P) fun f d => f.IsError ∧ P d

theorem Total.pure (a : α) : Total P (Pure.pure a) :=
  fun _ hd => hd

theorem Total.fail (e : Error) : Total P (Act.fail e : Act Failure δ α) :=
  fun _ hd => ⟨⟨e, rfl⟩, hd⟩

theorem Total.log (m : Message) : Total P (Act.log m) :=
  fun _ hd => hd

/-- The errors of an action that does not trap are values that its caller gets. -/
theorem Total.settle {x : Act Failure δ α} (h : Total P x) :
    Triple P x.settle (fun _ => P) fun _ _ => False := by
  refine (Triple.settle (E := fun f d => f.IsError ∧ P d) h).mono (fun _ hd => hd)
    (fun r d => ?_) fun t d failed => ?_
  · cases r with
    | ok a => exact id
    | error e => exact And.right
  · obtain ⟨⟨e, isError⟩, -⟩ := failed
    cases isError

theorem StopsBy.onDevice {call : PageCall} {x : Act Error δ α} (h : StopsBy P top call x) :
    Triple P (onDevice x) (fun _ d => call.stop ≤ top ∧ P d) fun f d => f.IsError ∧ P d :=
  (h.mono (fun _ hd => hd) (fun _ _ hq => hq) fun e _ hd => ⟨⟨e, rfl⟩, hd⟩).mapFailure Failure.error

variable [PageDevice δ]

/-- In states with `P` the device has a range, and no call about a byte from `top` on works. -/
structure EndsBy (P : δ → Prop) (top : Nat) : Prop where
  range : ∀ d, P d → ∃ ends, PageDevice.range d = .ok ends
  read (addr : UInt32) :
    StopsBy P top (.read addr pageSize) (PageDevice.read addr pageSize : Act Error δ _)
  load (addr : UInt32) (page : Page) :
    StopsBy P top (.load addr) (PageDevice.load addr page : Act Error δ _)
  commit (addr : UInt32) : StopsBy P top (.commit addr) (PageDevice.commit addr : Act Error δ _)

namespace EndsBy

theorem total_commit (h : EndsBy P top) (addr : UInt32) :
    Total P (onDevice (PageDevice.commit addr)) :=
  (h.commit addr).onDevice.post fun _ _ hd => hd.2

/-- A page that was patched lies before `top`. -/
theorem patchPage (h : EndsBy P top) {addr : UInt32} {offset : Nat} {bytes : List UInt8}
    (fits : offset + bytes.length ≤ pageSize) :
    Triple P (patchPage addr offset bytes) (fun _ d => addr.toNat + pageSize ≤ top ∧ P d)
      fun f d => f.IsError ∧ P d := by
  refine Triple.bind (h.read addr).onDevice fun page => Triple.of_fact fun inside => ?_
  obtain ⟨merged, overlaid⟩ : ∃ merged, Page.overlay page offset bytes = .ok merged :=
    ⟨_, Page.overlay_eq_ok fits⟩
  rw [overlaid, checked_ok, pure_bind]
  refine (Triple.bind (h.load addr merged).onDevice fun _ => Triple.of_fact fun _ =>
    h.total_commit addr).post fun _ _ hd => ⟨inside, hd⟩

theorem writePages (h : EndsBy P top) (addressable : top < 0x100000000) (n : Nat) {addr : UInt32}
    (batch : Option UInt32) {bytes : List UInt8} (short : bytes.length ≤ pageSize * (n + 1)) :
    Total P (writePages n addr batch bytes) := by
  induction n generalizing addr batch bytes with
  | zero =>
    have fits : 0 + bytes.length ≤ pageSize := by omega
    have last : Total P (if bytes.isEmpty then Pure.pure () else Storage.patchPage addr 0 bytes) :=
      Triple.ite (Total.pure ()) ((h.patchPage fits).post fun _ _ hd => hd.2)
    cases batch with
    | none => exact last
    | some first => exact Triple.bind (h.total_commit first) fun _ => last
  | succ n ih =>
    have later : (bytes.drop pageSize).length ≤ pageSize * (n + 1) := by
      rw [List.length_drop]
      rw [Nat.mul_succ] at short
      omega
    rw [writePages_succ]
    refine Triple.bind (h.load addr _).onDevice fun _ => Triple.of_fact fun inside => ?_
    refine Triple.bind (Triple.ite (h.total_commit _) (Total.pure ())) fun _ => ?_
    -- the page was loaded, so it lies before `top` and the next one has an address
    have sum : addr.toNat + (32 : UInt32).toNat < 0x100000000 := Nat.lt_of_le_of_lt inside addressable
    rw [checkedAdd_eq_ok sum, checked_ok, pure_bind]
    exact ih _ later

theorem checkRange (h : EndsBy P top) (addr : UInt32) (len : Nat) :
    Total P (checkRange addr len : Act Failure δ Unit) := by
  rw [Storage.checkRange]
  refine Triple.bind (Triple.gets PageDevice.range) fun range => ?_
  rintro d ⟨rfl, hd⟩
  obtain ⟨⟨start, finish⟩, ends⟩ := h.range d hd
  rw [ends, checked_ok, pure_bind]
  cases checkedAdd addr len.toUInt32 with
  | error t => exact Total.fail .storage d hd
  | ok last =>
    have refuses : Total P (do
        Act.log (.writeOutsideDevice addr len)
        Act.fail .storage : Act Failure δ Unit) :=
      Triple.bind (Total.log _) fun _ => Total.fail .storage
    exact Triple.ite refuses (Total.pure ()) d hd

/-- A write ends with a result or with an error. -/
theorem write (h : EndsBy P top) (addressable : top < 0x100000000) (addr : UInt32)
    (data : List UInt8) : Total P (write addr data) := by
  cases data with
  | nil => exact Total.pure ()
  | cons b rest =>
    have paged : Total P (writeFrom addr (b :: rest)) := by
      rw [writeFrom_eq]
      refine Triple.bind (h.patchPage (firstLength_fits addr _)) fun _ =>
        Triple.of_fact fun inside => ?_
      -- the page that was just patched lies before `top`, so the one after it has an address
      have sum : (pageOf addr).toNat + (32 : UInt32).toNat < 0x100000000 :=
        Nat.lt_of_le_of_lt inside addressable
      rw [checkedAdd_eq_ok sum, checked_ok, pure_bind]
      apply h.writePages addressable
      simp only [wholePages, pageSize]
      omega
    rw [Storage.write]
    refine Triple.bind (h.checkRange addr _) fun _ => ?_
    exact Triple.bind paged fun _ => Total.log _

/-- A tap, which lets calls fail, does not move the end of a device. -/
theorem tapped (h : EndsBy P top) : EndsBy (fun t : TappedDevice δ => P t.device) top where
  range t ht := h.range t.device ht
  read addr := TappedDevice.triple_guarded (h.read addr) .read (.read addr pageSize)
  load addr page := TappedDevice.triple_guarded (h.load addr page) .load (.load addr)
  commit addr := TappedDevice.triple_guarded (h.commit addr) .commit (.commit addr)

end EndsBy

end

end Storage

/-! ## Storage in memory -/

namespace PagedRam

/-- A device of `size` bytes at `base`. -/
def Spans (base : UInt32) (size : Nat) (d : PagedRam) : Prop :=
  d.base = base ∧ d.mem.size = size

variable {base : UInt32} {size : Nat}

theorem base_program (d : PagedRam) (pages : List (UInt32 × Page)) :
    (d.program pages).2.base = d.base := by
  induction pages generalizing d with
  | nil => rfl
  | cons page rest ih =>
    obtain ⟨addr, page⟩ := page
    simp only [program]
    split
    · rw [ih]
    · rfl

theorem spans_read (addr : UInt32) :
    Storage.StopsBy (Spans base size) (base.toNat + size) (.read addr pageSize)
      (PageDevice.read addr pageSize : Act Error PagedRam _) := by
  intro d hd
  obtain ⟨rfl, rfl⟩ := hd
  by_cases cov : d.Covers addr pageSize
  · rw [run_read cov]
    obtain ⟨low, high⟩ := cov
    refine ⟨?_, rfl, rfl⟩
    show addr.toNat + pageSize ≤ d.base.toNat + d.mem.size
    omega
  · rw [run_read_refused cov]
    exact ⟨rfl, rfl⟩

theorem spans_load (addr : UInt32) (page : Page) :
    Storage.StopsBy (Spans base size) (base.toNat + size) (.load addr)
      (PageDevice.load addr page : Act Error PagedRam _) := by
  intro d hd
  obtain ⟨rfl, rfl⟩ := hd
  by_cases fits : addr.toNat % pageSize = 0 ∧ d.Covers addr pageSize
  · rw [run_load fits.1 fits.2]
    obtain ⟨-, low, high⟩ := fits
    refine ⟨?_, rfl, rfl⟩
    show addr.toNat + pageSize ≤ d.base.toNat + d.mem.size
    omega
  · rw [run_load_refused fits]
    exact ⟨rfl, rfl⟩

/-- Pages are programmed only if the first of them is inside. -/
theorem covers_of_program {d d' : PagedRam} {addr : UInt32} {page : Page}
    {rest : List (UInt32 × Page)} (h : d.program ((addr, page) :: rest) = (.ok (), d')) :
    d.Covers addr pageSize := by
  rw [program] at h
  split at h
  · assumption
  · cases h

theorem spans_commit (addr : UInt32) :
    Storage.StopsBy (Spans base size) (base.toNat + size) (.commit addr)
      (PageDevice.commit addr : Act Error PagedRam _) := by
  intro d hd
  obtain ⟨rfl, rfl⟩ := hd
  by_cases first : d.staged.head?.map Prod.fst = some addr
  · -- also a commit that stops half way has the extent that it had
    have kept : Spans d.base d.mem.size (d.taken.program d.staged).2 :=
      ⟨base_program _ _, size_program _ _⟩
    rw [run_commit_first first]
    rcases programmed : d.taken.program d.staged with ⟨e | done, d'⟩
    · rw [programmed] at kept
      exact kept
    · rw [programmed] at kept
      obtain ⟨⟨addr', page⟩, head, rfl⟩ := Option.map_eq_some_iff.mp first
      obtain ⟨rest, staged⟩ := List.head?_eq_some_iff.mp head
      rw [staged] at programmed
      obtain ⟨low, high⟩ : d.Covers addr' pageSize := covers_of_program (d := d.taken) programmed
      refine ⟨?_, kept⟩
      show addr'.toNat + pageSize ≤ d.base.toNat + d.mem.size
      omega
  · rw [run_commit_refused first]
    exact ⟨rfl, rfl⟩

theorem endsBy_spans (addressable : base.toNat + size < 0x100000000) :
    Storage.EndsBy (Spans base size) (base.toNat + size) where
  range d hd := by
    obtain ⟨rfl, rfl⟩ := hd
    obtain ⟨finish, ends, -⟩ := Storage.run_range addressable
    exact ⟨_, ends⟩
  read := spans_read
  load := spans_load
  commit := spans_commit

end PagedRam

namespace Storage

/-- A tapped device of `size` bytes at `base`. -/
def Spans (base : UInt32) (size : Nat) (t : TappedDevice PagedRam) : Prop :=
  PagedRam.Spans base size t.device

variable {base : UInt32} {size : Nat}

theorem endsBy_spans (addressable : base.toNat + size < 0x100000000) :
    EndsBy (Spans base size) (base.toNat + size) :=
  (PagedRam.endsBy_spans addressable).tapped

theorem total_write (addressable : base.toNat + size < 0x100000000) (addr : UInt32)
    (data : List UInt8) : Total (Spans base size) (write addr data) :=
  (endsBy_spans addressable).write addressable addr data

end Storage

end Coprocessor
