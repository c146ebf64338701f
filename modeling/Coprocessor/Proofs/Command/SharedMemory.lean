import Coprocessor.Proofs.Command.Responses

/-!
Images in shared memory. The peer names a place by its address, and the core either writes a whole
image there or leaves the arena alone. Whether the place is inside is decided on addresses and
lengths of fixed width, where a sum can wrap; the decision is the one on natural numbers.
-/
namespace Coprocessor

open Act

namespace Arena

/-! ## Places in the arena -/

/-- The `len` bytes from `addr` on are inside the arena. -/
def Holds (a : Arena) (addr : UInt32) (len : Nat) : Prop :=
  a.base.toNat ≤ addr.toNat ∧ addr.toNat + len ≤ a.base.toNat + a.mem.size

instance (a : Arena) (addr : UInt32) (len : Nat) : Decidable (a.Holds addr len) :=
  inferInstanceAs (Decidable (_ ∧ _))

/-- Index of the byte that the peer sees at `addr`. -/
def index (a : Arena) (addr : UInt32) : Nat :=
  addr.toNat - a.base.toNat

/-- The bytes from index `i` on are `region`. -/
def Shows (a : Arena) (i : Nat) {len : Nat} (region : Vector UInt8 len) : Prop :=
  ∀ k (h : k < len), a.mem[i + k]? = some region[k]

/-- The bytes from index `i` on have become `region`, and nothing else has changed. -/
structure Replaced (a : Arena) (i : Nat) {len : Nat} (region : Vector UInt8 len) (after : Arena) :
    Prop where
  base : after.base = a.base
  size : after.mem.size = a.mem.size
  inside : after.Shows i region
  outside : ∀ j, j < i ∨ i + len ≤ j → after.mem[j]? = a.mem[j]?

section Regions

variable {a : Arena} {addr : UInt32} {len : Nat}

theorem offset?_eq (a : Arena) (addr : UInt32) (len : Nat) :
    a.offset? addr len = if a.Holds addr len then .ok (a.index addr) else .error .outsideArena := by
  by_cases holds : a.Holds addr len
  · obtain ⟨low, high⟩ := holds
    rw [if_pos ⟨low, high⟩, offset?_eq_ok_iff, index]
    omega
  · rw [if_neg holds, offset?, if_neg]
    rintro ⟨low, high⟩
    exact holds ⟨low, by omega⟩

theorem shows_bytes {i : Nat} (fits : i + len ≤ a.mem.size) : a.Shows i (a.bytes i len) := by
  intro k hk
  rw [bytes, Vector.getElem_ofFn, Array.getElem?_eq_getElem (by omega), Option.getD_some]

theorem replaced_place {i : Nat} (fits : i + len ≤ a.mem.size) (region : Vector UInt8 len) :
    a.Replaced i region (a.place i region.toList) where
  base := rfl
  size := Bytes.size_splice ..
  inside k hk := by
    have new : i ≤ i + k ∧ i + k < i + region.toList.length ∧ i + k < a.mem.size := by
      rw [Vector.length_toList]
      omega
    show (Bytes.splice a.mem i region.toList)[i + k]? = _
    rw [Bytes.getElem?_splice, if_pos new, Nat.add_sub_cancel_left,
      List.getElem?_eq_getElem (by rwa [Vector.length_toList]), Vector.getElem_toList]
  outside j hj := by
    have old : ¬ (i ≤ j ∧ j < i + region.toList.length ∧ j < a.mem.size) := by
      rw [Vector.length_toList]
      omega
    show (Bytes.splice a.mem i region.toList)[j]? = _
    rw [Bytes.getElem?_splice, if_neg old]

/-- An action on the `len` bytes at `addr` runs on what is there, and what it makes of these bytes
replaces them. -/
def Exposes (a : Arena) (addr : UInt32) (len : Nat) : Prop :=
  ∃ region : Vector UInt8 len, a.Shows (a.index addr) region ∧
    ∀ {ε α : Type} (x : Act ε (Vector UInt8 len) α), ∃ after,
      (withRegion addr len x).run a = ((x.run region).1.map .ok, after) ∧
        a.Replaced (a.index addr) (x.run region).2 after

theorem exposes_of_holds (holds : a.Holds addr len) : a.Exposes addr len := by
  have fits : a.index addr + len ≤ a.mem.size := by
    obtain ⟨low, high⟩ := holds
    rw [index]
    omega
  refine ⟨a.bytes (a.index addr) len, shows_bytes fits, fun x => ⟨_, ?_, replaced_place fits _⟩⟩
  rw [run_eq_iff, withRegion, offset?_eq, if_pos holds]
  exact ⟨rfl, rfl⟩

/-- Outside the arena nothing runs. -/
theorem run_withRegion_beyond (beyond : ¬ a.Holds addr len) {ε α : Type}
    (x : Act ε (Vector UInt8 len) α) :
    (withRegion addr len x).run a = (.ok (.error .outsideArena), a) := by
  rw [run_eq_iff, withRegion, offset?_eq, if_neg beyond]
  exact ⟨rfl, rfl⟩

end Regions

/-! ## Words of fixed width -/

/-- The difference of two addresses, if it is not negative. -/
def difference? (x y : UInt32) : Option UInt32 :=
  if y ≤ x then some (x - y) else none

/-- The sum of two lengths, if it does not wrap. -/
def sum? (x y : UInt64) : Option UInt64 :=
  if x ≤ x + y then some (x + y) else none

/-- `offset?` computed in words: every step that would leave its width is a refusal. -/
def offsetInWords? (a : Arena) (addr : UInt32) (len : UInt64) : Except Error UInt64 :=
  match difference? addr a.base with
  | none => .error .outsideArena
  | some offset =>
    match sum? offset.toUInt64 len with
    | none => .error .outsideArena
    | some stop => if stop.toNat ≤ a.mem.size then .ok offset.toUInt64 else .error .outsideArena

theorem difference?_eq (x y : UInt32) :
    difference? x y = if y.toNat ≤ x.toNat then some (x - y) else none :=
  rfl

theorem sum?_eq (x y : UInt64) :
    sum? x y = if x.toNat + y.toNat < 0x10000000000000000 then some (x + y) else none := by
  have wraps : x ≤ x + y ↔ x.toNat + y.toNat < 0x10000000000000000 := by
    rw [UInt64.le_iff_toNat_le, UInt64.toNat_add]
    have hx := x.toNat_lt
    have hy := y.toNat_lt
    omega
  simp only [sum?, wraps]

/-- No step of the computation in words refuses a place that is inside, or admits another. -/
theorem offsetInWords?_eq {a : Arena} (small : a.mem.size < 0x10000000000000000) (addr : UInt32)
    (len : UInt64) : (a.offsetInWords? addr len).map UInt64.toNat = a.offset? addr len.toNat := by
  rw [offset?_eq, offsetInWords?, difference?_eq]
  by_cases low : a.base.toNat ≤ addr.toNat
  · have offset : (addr - a.base).toUInt64.toNat = a.index addr := by
      rw [UInt32.toNat_toUInt64, UInt32.toNat_sub_of_le _ _ low, index]
    have holds_iff : a.Holds addr len.toNat ↔ a.index addr + len.toNat ≤ a.mem.size := by
      rw [Holds, index]
      omega
    rw [if_pos low]
    simp only [sum?_eq, offset]
    by_cases narrow : a.index addr + len.toNat < 0x10000000000000000
    · have stop : ((addr - a.base).toUInt64 + len).toNat = a.index addr + len.toNat := by
        rw [UInt64.toNat_add, offset, Nat.mod_eq_of_lt narrow]
      simp only [if_pos narrow, stop]
      by_cases high : a.index addr + len.toNat ≤ a.mem.size
      · rw [if_pos high, if_pos (holds_iff.mpr high), ← offset]
        rfl
      · rw [if_neg high, if_neg fun holds => high (holds_iff.mp holds)]
        rfl
    · -- a sum that wraps is past the end of any memory
      have high : ¬ a.Holds addr len.toNat := fun holds =>
        narrow (Nat.lt_of_le_of_lt (holds_iff.mp holds) small)
      rw [if_neg narrow, if_neg high]
      rfl
  · rw [if_neg low, if_neg fun holds => low holds.1]
    rfl

/-! ## Access -/

/-- The arena gives access to the `len` bytes at `addr` if they are inside, and to no others. -/
structure Guards (a : Arena) (addr : UInt32) (len : Nat) : Prop where
  contains : a.contains addr len = true ↔ a.Holds addr len
  inside : a.Holds addr len → a.Exposes addr len
  outside : ¬ a.Holds addr len → ∀ {ε α : Type} (x : Act ε (Vector UInt8 len) α),
    (withRegion addr len x).run a = (.ok (.error .outsideArena), a)
  /-- Words of the machine decide it in the same way. -/
  words : a.mem.size < 0x10000000000000000 → ∀ count : UInt64, count.toNat = len →
    (a.offsetInWords? addr count).map UInt64.toNat = a.offset? addr len

theorem guards (a : Arena) (addr : UInt32) (len : Nat) : a.Guards addr len where
  contains := contains_iff
  inside := exposes_of_holds
  outside beyond _ _ := run_withRegion_beyond beyond
  words small count same := same ▸ offsetInWords?_eq small addr count

/-- The arena may reach past the last address. -/
example : (Arena.mk 0xFFFFFFF0 (Array.replicate 64 0)).Holds 0xFFFFFFFF 49 := by decide

end Arena

/-! ## Images -/

/-- The image without a point. -/
def Image.white : Image :=
  Vector.replicate 16384 255

theorem Image.whiten_eq (old : Image) : old.whiten = white := by
  rw [whiten, white]
  exact Vector.ext fun i hi => by rw [Vector.getElem_map, Vector.getElem_replicate]

/-- The image of `n` points. -/
def Attractor.image (trig : Trigonometry) (n : Nat) : Image :=
  Image.paint (advance trig) n origin Image.white

/-- What an image held before does not matter. -/
theorem Attractor.run_generateWith (trig : Trigonometry) (n : Nat) (old : Image) :
    (generateWith trig n).run old = (.ok (), image trig n) := by
  rw [image, ← Image.whiten_eq old]
  rfl

namespace Commands

variable {δ : Type}

/-- Commands whose images have `n` points. -/
def drawing (c : Commands δ) (trig : Trigonometry) (n : Nat) : Commands δ :=
  { c with generator := Attractor.generateWith trig n }

/-- The request names a place for an image, at `addr`. -/
def Places (c : Commands δ) (request : Packet) (addr : UInt32) : Prop :=
  request.args.head? = some addr ∧ c.arena.Holds addr 16384

theorem run_sharedMemoryCompute_placed {c : Commands δ} {request : Packet} {addr : UInt32}
    (placed : c.Places request addr) (trig : Trigonometry) (n : Nat) :
    ∃ arena, (sharedMemoryCompute request).run (c.drawing trig n) =
        (.ok (respond .sharedMemoryCompute []), { c.drawing trig n with arena }) ∧
      c.arena.Replaced (c.arena.index addr) (Attractor.image trig n) arena := by
  obtain ⟨first, holds⟩ := placed
  obtain ⟨rest, args⟩ := List.head?_eq_some_iff.mp first
  obtain ⟨region, -, access⟩ := Arena.exposes_of_holds holds
  obtain ⟨arena, run, replaced⟩ := access (ε := Trap) (Attractor.generateWith trig n).sure
  rw [run_sure (Attractor.run_generateWith trig n region)] at run replaced
  refine ⟨arena, ?_, replaced⟩
  rw [sharedMemoryCompute, args]
  simp only [run_log_bind, run_gets_bind]
  rw [run_bind_ok (run_within_eq (t := c.drawing trig n) run)]
  rfl

theorem run_sharedMemoryCompute_unplaced {c : Commands δ} {request : Packet}
    (unplaced : ∀ addr, ¬ c.Places request addr) :
    (sharedMemoryCompute request).run c =
      (.ok (respond .sharedMemoryCompute [refusedImage]), c) := by
  rw [sharedMemoryCompute]
  cases args : request.args with
  | nil => rfl
  | cons addr rest =>
    have first : request.args.head? = some addr := by rw [args, List.head?_cons]
    have beyond : ¬ c.arena.Holds addr 16384 := fun holds => unplaced addr ⟨first, holds⟩
    simp only [run_log_bind, run_gets_bind]
    rw [run_bind_ok (run_within_eq (Arena.run_withRegion_beyond beyond _))]
    rfl

/-- One whole image inside the arena, or nothing: an image with a place is written there over
whatever was there before, and any other request is refused and leaves the arena as it is. The arena
gives access to all places inside it and to no other. So it is with any sine and cosine, those that
images are made with among them. -/
theorem image_placed_or_refused (c : Commands δ) (trig : Trigonometry) (n : Nat)
    (request : Packet) :
    (∃ response arena,
      (sharedMemoryCompute request).run (c.drawing trig n) =
        (.ok response, { c.drawing trig n with arena }) ∧
      response.toResponse = .ok .sharedMemoryCompute ∧
      (∀ addr, c.Places request addr →
        response.argLen = 0 ∧ response.args = [] ∧
          c.arena.Replaced (c.arena.index addr) (Attractor.image trig n) arena) ∧
      ((∀ addr, ¬ c.Places request addr) →
        response.argLen = 1 ∧ response.args = [1] ∧ arena = c.arena)) ∧
    ∀ addr len, c.arena.Guards addr len := by
  refine ⟨?_, c.arena.guards⟩
  by_cases placed : ∃ addr, c.Places request addr
  · obtain ⟨addr, placed⟩ := placed
    obtain ⟨arena, run, replaced⟩ := run_sharedMemoryCompute_placed placed trig n
    refine ⟨_, arena, run, rfl, fun other placed' => ?_, fun unplaced => ?_⟩
    · cases placed.1.symm.trans placed'.1
      exact ⟨rfl, rfl, replaced⟩
    · exact absurd placed (unplaced addr)
  · have unplaced : ∀ addr, ¬ c.Places request addr := not_exists.mp placed
    refine ⟨_, c.arena, run_sharedMemoryCompute_unplaced (c := c.drawing trig n) unplaced, rfl,
      fun addr placed => absurd placed (unplaced addr), fun _ => ⟨rfl, ?_, rfl⟩⟩
    exact args_respond (by decide)

end Commands

end Coprocessor
