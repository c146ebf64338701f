import Coprocessor.Proofs.Firmware.WindowConfinement

/-!
Persistent writes on a device without faults. To the peer, storage is an array of bytes: a request
is answered with the number of bytes that it stored, and whatever came before it, these bytes and
no others are new. Pages do not show.
-/
namespace Coprocessor

open Act

/-! ## The bytes of words -/

namespace Word

/-- The bytes of words, one word after the other, each least significant first. -/
def bytes (words : List UInt32) : List UInt8 :=
  words.flatMap fun word => (toBytes word).toList

theorem bytes_cons (word : UInt32) (words : List UInt32) :
    bytes (word :: words) = (toBytes word).toList ++ bytes words :=
  rfl

@[simp] theorem length_bytes (words : List UInt32) : (bytes words).length = 4 * words.length := by
  induction words with
  | nil => rfl
  | cons word words ih =>
    rw [bytes_cons, List.length_append, Vector.length_toList, ih, List.length_cons]
    omega

theorem getElem?_bytes (words : List UInt32) (i : Nat) :
    (bytes words)[i]? = words[i / 4]?.map fun word => byte word i := by
  induction words generalizing i with
  | nil => rfl
  | cons word words ih =>
    rw [bytes_cons]
    by_cases here : i < 4
    · rw [List.getElem?_append_left (by simpa using here), Nat.div_eq_of_lt here,
        List.getElem?_cons_zero, Option.map_some, byte, Vector.getElem?_toList,
        Vector.getElem?_eq_getElem here]
      simp only [Nat.mod_eq_of_lt here]
    · obtain ⟨k, rfl⟩ := Nat.exists_eq_add_of_le (Nat.le_of_not_lt here)
      have later : (4 + k) / 4 = k / 4 + 1 := by omega
      have same : ∀ w, byte w (4 + k) = byte w k := fun w => by
        simp only [byte, Nat.add_mod_left]
      rw [List.getElem?_append_right (by simp), Vector.length_toList, Nat.add_sub_cancel_left, ih,
        later, List.getElem?_cons_succ]
      simp only [same]

end Word

namespace Commands

/-! ## Requests -/

/-- The buffer of a write begins with the bytes of the words. -/
theorem take_writeBuffer {words : List UInt32} {n : Nat} (enough : n ≤ 4 * words.length)
    (room : n ≤ 504) : (writeBuffer words).toList.take n = (Word.bytes words).take n := by
  apply List.ext_getElem?
  intro i
  by_cases inside : i < n
  · rw [List.getElem?_take_of_lt inside, List.getElem?_take_of_lt inside, Word.getElem?_bytes,
      Vector.getElem?_toList, Vector.getElem?_eq_getElem (Nat.lt_of_lt_of_le inside room)]
    have word : i / 4 < words.length := by omega
    simp only [writeBuffer, Vector.getElem_ofFn, List.getElem?_eq_getElem word, Option.map_some]
  · rw [List.getElem?_take_eq_none (by omega), List.getElem?_take_eq_none (by omega)]

theorem parseWrite_of_admits {window : WriteWindow} {addr len : UInt32} {words : List UInt32}
    (admits : window.Admits addr len) (enough : len.toNat ≤ 4 * words.length)
    (room : len.toNat ≤ 504) :
    parseWrite window (addr :: len :: words) = .ok (addr, (Word.bytes words).take len.toNat) := by
  have slices : slice (writeBuffer words).toList 0 len.toNat =
      .ok ((Word.bytes words).take len.toNat) := by
    rw [slice_eq_ok (by rw [Vector.length_toList]; omega), List.drop_zero,
      take_writeBuffer enough room]
  rw [parseWrite, WriteWindow.validate_eq_ok_iff.mpr admits]
  simp only [slices]
  rw [if_neg (by omega)]
  rfl

theorem parseWrite_of_refused {window : WriteWindow} {addr len : UInt32} {words : List UInt32}
    (refused : ¬ (window.Admits addr len ∧ len.toNat ≤ 4 * words.length)) :
    parseWrite window (addr :: len :: words) = .error (.error .validationFailure) := by
  rw [parseWrite]
  by_cases admits : window.Admits addr len
  · have missing : words.length * 4 < len.toNat := by
      rw [Nat.mul_comm]
      exact Nat.lt_of_not_le fun enough => refused ⟨admits, enough⟩
    rw [WriteWindow.validate_eq_ok_iff.mpr admits, if_pos missing]
    rfl
  · rw [WriteWindow.validate_eq_error_iff.mpr ⟨admits, rfl⟩]
    rfl

/-! ## Running one -/

section

variable {δ : Type} [PageDevice δ]

theorem run_persistentWrite_unparsed {c : Commands δ} {request : Packet} {e : Error}
    (parsed : parseWrite c.window request.args = .error (.error e)) :
    (persistentWrite request).run c = (.ok (respond .persistentWrite [0]), c) := by
  have refused : (ofExcept id (parseWrite c.window request.args) :
      Act Failure (Commands δ) _).settle.run c = (.ok (.error e), c) := by
    rw [parsed]
    rfl
  rw [persistentWrite, run_gets_bind, run_bind_ok refused]
  rfl

theorem run_persistentWrite_parsed {c : Commands δ} {request : Packet} {addr : UInt32}
    {data : List UInt8} {d : δ} {r : Except Error Unit}
    (parsed : parseWrite c.window request.args = .ok (addr, data))
    (written : (Storage.write addr data).settle.run c.storage = (.ok r, d)) :
    (persistentWrite request).run c =
      (.ok (respond .persistentWrite
        [match r with | .ok () => data.length.toUInt32 | .error _ => 0]),
        { c with storage := d }) := by
  have passes : (ofExcept id (parseWrite c.window request.args) :
      Act Failure (Commands δ) _).settle.run c = (.ok (.ok (addr, data)), c) := by
    rw [parsed]
    rfl
  have stores : ((Storage.write addr data).settle.within storagePart).run c =
      (.ok r, { c with storage := d }) := run_within_eq written
  rw [persistentWrite, run_gets_bind, run_bind_ok passes]
  dsimp only
  rw [run_bind_ok stores]
  cases r with
  | ok done => rfl
  | error e => rfl

end

end Commands

/-! ## Flat storage -/

/-- Bytes at the addresses from `base` on. -/
structure FlatStorage where
  base : UInt32
  bytes : Array UInt8

/-- The contents of a device. -/
def PagedRam.flat (d : PagedRam) : FlatStorage :=
  ⟨d.base, d.mem⟩

namespace FlatStorage

/-- A request with these arguments is accepted: it is inside the window, it carries its data, and
there is storage for it. -/
def Accepts (s : FlatStorage) (w : WriteWindow) (addr len : UInt32) (words : List UInt32) : Prop :=
  w.start.toNat ≤ addr.toNat ∧ addr.toNat < w.finish.toNat ∧
    len.toNat < w.lengthBound.toNat ∧ addr.toNat + len.toNat ≤ w.finish.toNat ∧
    len.toNat ≤ 4 * words.length ∧
    (len.toNat = 0 ∨
      s.base.toNat ≤ addr.toNat ∧ addr.toNat + len.toNat ≤ s.base.toNat + s.bytes.size)

instance (s : FlatStorage) (w : WriteWindow) (addr len : UInt32) (words : List UInt32) :
    Decidable (s.Accepts w addr len words) :=
  inferInstanceAs (Decidable (_ ∧ _))

/-- How many bytes a request with these arguments stores. -/
def accepted (s : FlatStorage) (w : WriteWindow) : List UInt32 → Nat
  | addr :: len :: words => if s.Accepts w addr len words then len.toNat else 0
  | _ => 0

/-- The storage after a request with these arguments. -/
def store (s : FlatStorage) (w : WriteWindow) : List UInt32 → FlatStorage
  | addr :: len :: words =>
    if s.Accepts w addr len words then
      { s with
        bytes := Bytes.splice s.bytes (addr.toNat - s.base.toNat)
          ((Word.bytes words).take len.toNat) }
    else s
  | _ => s

variable {s : FlatStorage} {w : WriteWindow}

@[simp] theorem base_store (args : List UInt32) : (s.store w args).base = s.base := by
  unfold store
  split
  · split <;> rfl
  · rfl

@[simp] theorem size_store (args : List UInt32) : (s.store w args).bytes.size = s.bytes.size := by
  unfold store
  split
  · split
    · exact Bytes.size_splice ..
    · rfl
  · rfl

/-- What is accepted depends on where storage is, and not on what is in it. -/
theorem accepted_congr {s' : FlatStorage} (base : s'.base = s.base)
    (size : s'.bytes.size = s.bytes.size) (args : List UInt32) :
    s'.accepted w args = s.accepted w args := by
  have same (addr len : UInt32) (words : List UInt32) :
      s'.Accepts w addr len words ↔ s.Accepts w addr len words := by
    rw [Accepts, Accepts, base, size]
  unfold accepted
  split
  · simp only [same]
  · rfl

theorem accepts_iff {addr len : UInt32} {words : List UInt32} :
    s.Accepts w addr len words ↔
      (w.Admits addr len ∧ len.toNat ≤ 4 * words.length) ∧ (len.toNat = 0 ∨
        s.base.toNat ≤ addr.toNat ∧ addr.toNat + len.toNat ≤ s.base.toNat + s.bytes.size) := by
  simp only [Accepts, WriteWindow.Admits, UInt32.le_iff_toNat_le, UInt32.lt_iff_toNat_lt, and_assoc]

theorem accepts_of_accepted {args : List UInt32} (counted : s.accepted w args ≠ 0) :
    ∃ addr len words, args = addr :: len :: words ∧ s.Accepts w addr len words ∧
      s.accepted w args = len.toNat := by
  match args with
  | [] | [_] => exact absurd rfl counted
  | addr :: len :: words =>
    by_cases accepts : s.Accepts w addr len words
    · exact ⟨addr, len, words, rfl, accepts, if_pos accepts⟩
    · exact absurd (if_neg accepts) counted

/-- The bytes of an accepted request are in place, and the others are as before. -/
theorem byteAt_store {d d' : PagedRam} {addr len : UInt32} {words : List UInt32}
    (accepts : d.flat.Accepts w addr len words) (nonempty : len.toNat ≠ 0)
    (flat : d'.flat = d.flat.store w (addr :: len :: words)) (a : Nat) :
    d'.byteAt a =
      if addr.toNat ≤ a ∧ a < addr.toNat + len.toNat then
        words[(a - addr.toNat) / 4]?.map fun word => Word.byte word (a - addr.toNat)
      else d.byteAt a := by
  rw [store, if_pos accepts] at flat
  have base : d'.base = d.base := congrArg FlatStorage.base flat
  have mem : d'.mem = Bytes.splice d.mem (addr.toNat - d.base.toNat)
      ((Word.bytes words).take len.toNat) := congrArg FlatStorage.bytes flat
  obtain ⟨⟨-, enough⟩, inside⟩ := accepts_iff.mp accepts
  obtain ⟨low, high⟩ : d.base.toNat ≤ addr.toNat ∧
      addr.toNat + len.toNat ≤ d.base.toNat + d.mem.size := inside.resolve_left nonempty
  have length : ((Word.bytes words).take len.toNat).length = len.toNat :=
    List.length_take_of_le (by rw [Word.length_bytes]; exact enough)
  simp only [PagedRam.byteAt, base, mem, Bytes.getElem?_splice, length]
  by_cases inRange : addr.toNat ≤ a ∧ a < addr.toNat + len.toNat
  · rw [if_pos inRange, if_pos (by omega), if_pos (by omega),
      show a - d.base.toNat - (addr.toNat - d.base.toNat) = a - addr.toNat by omega,
      List.getElem?_take_of_lt (by omega), Word.getElem?_bytes]
  · rw [if_neg inRange]
    split
    · rw [if_neg (by omega)]
    · rfl

end FlatStorage

/-! ## A device of whole pages is flat storage -/

namespace PagedRam

/-- A device of whole pages that ends at an address, with nothing staged. -/
structure Whole (d : PagedRam) : Prop where
  base : d.base.toNat % 32 = 0
  size : d.mem.size % 32 = 0
  fits : d.base.toNat + d.mem.size < 0x100000000
  clean : d.staged = []

variable {d : PagedRam} {addr : UInt32} {data : List UInt8}

theorem Whole.settle_write (h : d.Whole) (inside : data = [] ∨
      d.base.toNat ≤ addr.toNat ∧ addr.toNat + data.length ≤ d.base.toNat + d.mem.size) :
    ∃ d', (Storage.write addr data).settle.run d = (.ok (.ok ()), d') ∧
      d'.flat = ⟨d.base, Bytes.splice d.mem (d.index addr) data⟩ ∧ d'.staged = [] ∧
      (data = [] → d' = d) := by
  by_cases empty : data = []
  · subst empty
    exact ⟨d, rfl, rfl, h.clean, fun _ => rfl⟩
  · have holds := (Storage.holdsPages_iff h.base h.size addr data.length).mpr
      (inside.resolve_left empty)
    obtain ⟨d', run, base, clean, mem⟩ := Storage.run_write_ok h.fits h.clean empty holds
    refine ⟨d', run_settle_ok run, ?_, clean, fun same => absurd same empty⟩
    rw [flat, base, mem]

theorem Whole.settle_write_outside (h : d.Whole) (counted : data.length < 0x100000000)
    (outside : ¬ (data = [] ∨
      d.base.toNat ≤ addr.toNat ∧ addr.toNat + data.length ≤ d.base.toNat + d.mem.size)) :
    (Storage.write addr data).settle.run d = (.ok (.error .storage), d) := by
  rw [not_or] at outside
  exact run_settle_error (Storage.run_write_outside h.fits outside.1 counted outside.2) rfl

end PagedRam

namespace Commands

/-- A request stores what flat storage accepts of it, and answers how much that is. -/
structure Stores (args : List UInt32) (c c' : Commands PagedRam) : Prop where
  flat : c'.storage.flat = c.storage.flat.store c.window args
  clean : c'.storage.staged = []
  others : c' = { c with storage := c'.storage }
  refused : c.storage.flat.accepted c.window args = 0 → c' = c

theorem Stores.nothing {c : Commands PagedRam} (clean : c.storage.staged = []) {args : List UInt32}
    (refused : ∀ addr len words, args = addr :: len :: words →
      ¬ c.storage.flat.Accepts c.window addr len words) :
    c.storage.flat.accepted c.window args = 0 ∧ Stores args c c := by
  match args with
  | [] | [_] => exact ⟨rfl, rfl, clean, rfl, fun _ => rfl⟩
  | addr :: len :: words =>
    have no := refused addr len words rfl
    exact ⟨if_neg no, (if_neg no).symm, clean, rfl, fun _ => rfl⟩

/-- A request that the window admits writes what fits in the device. -/
theorem run_persistentWrite_admitted {c : Commands PagedRam} (h : c.storage.Whole)
    {request : Packet} {addr len : UInt32} {words : List UInt32}
    (args : request.args = addr :: len :: words) (admits : c.window.Admits addr len)
    (enough : len.toNat ≤ 4 * words.length) :
    ∃ c', (persistentWrite request).run c =
        (.ok (respond .persistentWrite
          [(c.storage.flat.accepted c.window request.args).toUInt32]), c') ∧
      Stores request.args c c' := by
  have room : len.toNat ≤ 504 := by
    have short := request.length_args_le
    simp only [args, List.length_cons, maxArgs] at short
    omega
  have parsed := parseWrite_of_admits admits enough room
  have length : ((Word.bytes words).take len.toNat).length = len.toNat :=
    List.length_take_of_le (by rw [Word.length_bytes]; exact enough)
  have accepts : c.storage.flat.Accepts c.window addr len words ↔
      (Word.bytes words).take len.toNat = [] ∨ c.storage.base.toNat ≤ addr.toNat ∧
        addr.toNat + ((Word.bytes words).take len.toNat).length ≤
          c.storage.base.toNat + c.storage.mem.size := by
    rw [FlatStorage.accepts_iff, ← List.length_eq_zero_iff, length]
    exact and_iff_right ⟨admits, enough⟩
  rw [← args] at parsed
  by_cases inside : c.storage.flat.Accepts c.window addr len words
  · obtain ⟨d, run, flat, clean, same⟩ := h.settle_write (accepts.mp inside)
    have answer := run_persistentWrite_parsed parsed run
    rw [length] at answer
    rw [args, FlatStorage.accepted, if_pos inside]
    refine ⟨{ c with storage := d }, answer, flat.trans (if_pos inside).symm, clean, rfl, ?_⟩
    intro nothing
    rw [FlatStorage.accepted, if_pos inside, ← length, List.length_eq_zero_iff] at nothing
    rw [same nothing]
  · have counted : ((Word.bytes words).take len.toNat).length < 0x100000000 := by
      rw [length]
      exact len.toNat_lt
    have answer := run_persistentWrite_parsed parsed
      (h.settle_write_outside counted (mt accepts.mpr inside))
    have refused : ∀ a l ws, request.args = a :: l :: ws →
        ¬ c.storage.flat.Accepts c.window a l ws := by
      intro a l ws parts
      cases args.symm.trans parts
      exact inside
    obtain ⟨nothing, stores⟩ := Stores.nothing h.clean refused
    rw [nothing]
    exact ⟨c, answer, stores⟩

theorem run_persistentWrite {c : Commands PagedRam} (h : c.storage.Whole) (request : Packet) :
    ∃ c', (persistentWrite request).run c =
        (.ok (respond .persistentWrite
          [(c.storage.flat.accepted c.window request.args).toUInt32]), c') ∧
      Stores request.args c c' := by
  by_cases admitted : ∃ addr len words, request.args = addr :: len :: words ∧
      c.window.Admits addr len ∧ len.toNat ≤ 4 * words.length
  · obtain ⟨addr, len, words, args, admits, enough⟩ := admitted
    exact run_persistentWrite_admitted h args admits enough
  · have refused : parseWrite c.window request.args = .error (.error .validationFailure) := by
      match args : request.args with
      | [] | [_] => rfl
      | addr :: len :: words =>
        exact parseWrite_of_refused fun both => admitted ⟨addr, len, words, args, both⟩
    have unstored : ∀ addr len words, request.args = addr :: len :: words →
        ¬ c.storage.flat.Accepts c.window addr len words :=
      fun addr len words args accepts =>
        admitted ⟨addr, len, words, args, (FlatStorage.accepts_iff.mp accepts).1⟩
    obtain ⟨nothing, stores⟩ := Stores.nothing h.clean unstored
    rw [nothing]
    exact ⟨c, run_persistentWrite_unparsed refused, stores⟩

/-! ## Whole runs -/

theorem Stores.whole {c c' : Commands PagedRam} {args : List UInt32} (h : Stores args c c')
    (start : c.storage.Whole) : c'.storage.Whole := by
  have base : c'.storage.base = c.storage.base :=
    (congrArg FlatStorage.base h.flat).trans (FlatStorage.base_store args)
  have size : c'.storage.mem.size = c.storage.mem.size :=
    (congrArg (fun s => s.bytes.size) h.flat).trans (FlatStorage.size_store args)
  exact
    { base := by rw [base, start.base]
      size := by rw [size, start.size]
      fits := by
        rw [base, size]
        exact start.fits
      clean := h.clean }

/-- Requests are answered one after the other, and replayed on flat storage they leave the same
bytes. -/
theorem run_persistentWrites {c : Commands PagedRam} (h : c.storage.Whole)
    (requests : List Packet) :
    ∃ c', (requests.mapM persistentWrite).run c =
        (.ok (requests.map fun r => respond .persistentWrite
          [(c.storage.flat.accepted c.window r.args).toUInt32]), c') ∧
      c'.storage.Whole ∧
      c'.storage.flat = requests.foldl (fun s r => s.store c.window r.args) c.storage.flat ∧
      c' = { c with storage := c'.storage } ∧
      ∀ args, c'.storage.flat.accepted c'.window args = c.storage.flat.accepted c.window args := by
  induction requests generalizing c with
  | nil => exact ⟨c, rfl, h, rfl, rfl, fun _ => rfl⟩
  | cons request requests ih =>
    obtain ⟨c₁, first, stores⟩ := run_persistentWrite h request
    obtain ⟨c₂, rest, whole, flat, others, same⟩ := ih (stores.whole h)
    have window : c₁.window = c.window := (congrArg Commands.window stores.others).trans rfl
    have same₁ (args : List UInt32) : c₁.storage.flat.accepted c₁.window args =
        c.storage.flat.accepted c.window args := by
      rw [window, stores.flat]
      exact FlatStorage.accepted_congr (FlatStorage.base_store _) (FlatStorage.size_store _) args
    refine ⟨c₂, ?_, whole, ?_, ?_, fun args => (same args).trans (same₁ args)⟩
    · rw [List.mapM_cons, run_bind_ok first, run_bind_ok rest, run_pure]
      simp only [same₁, List.map_cons]
    · rw [flat, window, stores.flat, List.foldl_cons]
    · rw [others, stores.others]

/-- What a request that stores `n` bytes does, with the address and the data words that it carries:
byte `i` of them comes from argument word `2 + i / 4`, and nothing else changes. -/
structure StoresBytes (args : List UInt32) (n : Nat) (c c' : Commands PagedRam) : Prop where
  bytes : ∀ addr, args[0]? = some addr → ∀ i, i < n → ∃ word, args[2 + i / 4]? = some word ∧
    c'.storage.byteAt (addr.toNat + i) = some (Word.byte word (i % 4))
  kept : ∀ addr, args[0]? = some addr → ∀ a, ¬ (addr.toNat ≤ a ∧ a < addr.toNat + n) →
    c'.storage.byteAt a = c.storage.byteAt a
  declared : n ≠ 0 → args[1]?.map UInt32.toNat = some n

theorem Stores.bytes {c c' : Commands PagedRam} {args : List UInt32} (h : Stores args c c') :
    StoresBytes args (c.storage.flat.accepted c.window args) c c' := by
  by_cases nothing : c.storage.flat.accepted c.window args = 0
  · rw [nothing, h.refused nothing]
    exact ⟨fun _ _ _ less => absurd less (Nat.not_lt_zero _), fun _ _ _ _ => rfl, absurd rfl⟩
  obtain ⟨addr, len, words, rfl, accepts, count⟩ := FlatStorage.accepts_of_accepted nothing
  rw [count] at nothing ⊢
  have byte := FlatStorage.byteAt_store accepts nothing h.flat
  refine ⟨?_, ?_, fun _ => rfl⟩
  · rintro _ ⟨⟩ i inside
    have word : i / 4 < words.length := by
      have enough := (FlatStorage.accepts_iff.mp accepts).1.2
      omega
    refine ⟨words[i / 4], ?_, ?_⟩
    · rw [Nat.add_comm, List.getElem?_cons_succ, List.getElem?_cons_succ,
        List.getElem?_eq_getElem word]
    · rw [byte, if_pos (by omega), Nat.add_sub_cancel_left, List.getElem?_eq_getElem word]
      simp only [Option.map_some, Word.byte, Nat.mod_mod]
  · rintro _ ⟨⟩ a outside
    rw [byte, if_neg outside]

/-- Persistent writes on flat storage. After any run of requests the device is the bytes that
replaying them leaves; the next request is answered with the number of bytes that it stores, stores
these, and if it is refused does nothing. -/
theorem persistentWrites_refine_flat {c : Commands PagedRam} (start : c.storage.Whole)
    (requests : List Packet) (next : Packet) :
    ∃ c₁ c₂, (requests.mapM persistentWrite).run c =
        (.ok (requests.map fun r => respond .persistentWrite
          [(c.storage.flat.accepted c.window r.args).toUInt32]), c₁) ∧
      c₁.storage.flat = requests.foldl (fun s r => s.store c.window r.args) c.storage.flat ∧
      c₁.storage.staged = [] ∧ c₁ = { c with storage := c₁.storage } ∧
      (persistentWrite next).run c₁ = (.ok (respond .persistentWrite
        [(c.storage.flat.accepted c.window next.args).toUInt32]), c₂) ∧
      StoresBytes next.args (c.storage.flat.accepted c.window next.args) c₁ c₂ ∧
      (c.storage.flat.accepted c.window next.args = 0 → c₂ = c₁) ∧
      c₂.storage.staged = [] ∧ c₂ = { c₁ with storage := c₂.storage } := by
  obtain ⟨c₁, ran, whole, flat, others, same⟩ := run_persistentWrites start requests
  obtain ⟨c₂, answer, stores⟩ := run_persistentWrite whole next
  have bytes := stores.bytes
  have refused := stores.refused
  rw [same next.args] at answer bytes refused
  exact ⟨c₁, c₂, ran, flat, whole.clean, others, answer, bytes, refused, stores.clean,
    stores.others⟩

/-- Commands on two pages without faults. -/
def ofTwoPages : Commands PagedRam where
  storage := .new 0 64 7
  window := ⟨5, 40, 16⟩
  transform := CosineTransform.transform
  generator := Attractor.generate Attractor.defaultIterations
  arena := ⟨Arena.defaultBase, #[]⟩

theorem ofTwoPages_whole : ofTwoPages.storage.Whole where
  base := rfl
  size := by decide
  fits := by decide
  clean := rfl

/-- Two writes over the end of a page, of which the second leaves one byte of the first. -/
theorem persistentWrites_refine_flat_overlapping :
    ofTwoPages.storage.Whole ∧ ∃ c₁ c₂,
      ([Firmware.writeRequest 30].mapM persistentWrite).run ofTwoPages =
        (.ok [respond .persistentWrite [4]], c₁) ∧
      (persistentWrite (Firmware.writeRequest 31)).run c₁ =
        (.ok (respond .persistentWrite [4]), c₂) ∧
      c₂.storage.byteAt 30 = c₁.storage.byteAt 30 ∧ c₂.storage.byteAt 31 = some 4 := by
  obtain ⟨c₁, c₂, ran, -, -, -, answer, stores, -⟩ :=
    persistentWrites_refine_flat ofTwoPages_whole [Firmware.writeRequest 30]
      (Firmware.writeRequest 31)
  have first : ofTwoPages.storage.flat.accepted ofTwoPages.window
      (Firmware.writeRequest 30).args = 4 := by decide +kernel
  have second : ofTwoPages.storage.flat.accepted ofTwoPages.window
      (Firmware.writeRequest 31).args = 4 := by decide +kernel
  rw [second] at answer stores
  rw [List.map_singleton, first] at ran
  have addr : (Firmware.writeRequest 31).args[0]? = some 31 := by decide +kernel
  obtain ⟨word, carried, stored⟩ := stores.bytes 31 addr 0 (by decide)
  have only : (Firmware.writeRequest 31).args[2 + 0 / 4]? = some 0x01020304 := by decide +kernel
  cases only.symm.trans carried
  exact ⟨ofTwoPages_whole, c₁, c₂, ran, answer, stores.kept 31 addr 30 (by decide), stored⟩

end Commands

end Coprocessor
