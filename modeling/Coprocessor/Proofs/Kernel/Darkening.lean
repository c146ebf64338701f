import Mathlib.Algebra.Order.BigOperators.Group.Finset
import Coprocessor.Proofs.Command.SharedMemory

/-!
How points darken an image, whatever the sequence of points is. A pixel shows how many points have
landed on it, up to fifteen: it begins at 255 and loses 16 for each of them, and from 15 on it keeps
what it has. The points come from floating-point arithmetic, of which nothing is used here, not even
that it stays near the origin: where a point lies outside the image, the range check drops it.
-/
namespace Coprocessor.Image

variable {α : Type}

/-! ## Hits -/

/-- The image after a hit on pixel `i`. -/
def hit (image : Image) : Fin 16384 → Image
  | ⟨i, h⟩ => image.set i (darker image[i]) h

/-- The pixel on which the point after `p` lands, if that is inside the image. -/
def landing? (next : α → α × Int × Int) (p : α) : Option (Fin 16384) :=
  pixel? (next p).2.1 (next p).2.2

/-- The pixels that the `n` points after `p` land on, the first point first. -/
def hits (next : α → α × Int × Int) : Nat → α → List (Fin 16384)
  | 0, _ => []
  | n + 1, p => (landing? next p).toList ++ hits next n (next p).1

/-- The `n`th point after `p`. -/
def pointAfter (next : α → α × Int × Int) : Nat → α → α
  | 0, p => p
  | n + 1, p => pointAfter next n (next p).1

theorem darken_eq (image : Image) (x y : Int) :
    image.darken x y = (pixel? x y).toList.foldl hit image := by
  rw [darken]
  cases pixel? x y <;> rfl

theorem paint_eq_foldl (next : α → α × Int × Int) (n : Nat) (p : α) (image : Image) :
    paint next n p image = (hits next n p).foldl hit image := by
  induction n generalizing p image with
  | zero => rfl
  | succ n ih =>
    show paint next n (next p).1 (image.darken (next p).2.1 (next p).2.2) = _
    rw [ih, darken_eq, hits, List.foldl_append, landing?]

/-- Another point is one more hit, or none. -/
theorem hits_succ (next : α → α × Int × Int) (n : Nat) (p : α) :
    hits next (n + 1) p = hits next n p ++ (landing? next (pointAfter next n p)).toList := by
  induction n generalizing p with
  | zero => exact List.append_nil _
  | succ n ih => rw [hits, ih, ← List.append_assoc, hits, pointAfter]

theorem length_hits_le (next : α → α × Int × Int) (n : Nat) (p : α) :
    (hits next n p).length ≤ n := by
  induction n generalizing p with
  | zero => exact Nat.le_refl 0
  | succ n ih =>
    have rest := ih (next p).1
    have one : (landing? next p).toList.length ≤ 1 := by
      cases landing? next p <;> simp
    rw [hits, List.length_append]
    omega

/-! ## Shades -/

/-- What a white pixel becomes after `k` hits. -/
def shade (k : Nat) : Nat :=
  255 - 16 * min 15 k

theorem shade_mod (k : Nat) : shade k % 16 = 15 := by
  rw [shade]
  omega

theorem shade_bounds (k : Nat) : 15 ≤ shade k ∧ shade k ≤ 255 := by
  rw [shade]
  omega

theorem hits_of_shade_le (k : Nat) : (255 - shade k) / 16 ≤ k := by
  rw [shade]
  omega

/-- The step cannot be taken below zero, so one more hit is one more in the count. -/
theorem toNat_darker {v : UInt8} {k : Nat} (h : v.toNat = shade k) :
    (darker v).toNat = shade (k + 1) := by
  have step_toNat : step.toNat = 16 := rfl
  rw [shade] at h ⊢
  rw [darker]
  split
  · next light =>
    have enough : step.toNat ≤ v.toNat := light
    rw [UInt8.toNat_sub_of_le _ _ light, step_toNat]
    omega
  · next dark =>
    have few : ¬ step.toNat ≤ v.toNat := dark
    omega

theorem get_hit (image : Image) (i j : Fin 16384) :
    (image.hit i).get j = if i = j then darker (image.get j) else image.get j := by
  by_cases same : i = j
  · subst same
    rw [if_pos rfl]
    exact Vector.getElem_set_self i.isLt
  · rw [if_neg same]
    exact Vector.getElem_set_ne i.isLt j.isLt fun h => same (Fin.ext h)

/-- A pixel of shade `k` is of a shade darker by each of its hits. -/
theorem toNat_foldl_hit (hits : List (Fin 16384)) {image : Image} {i : Fin 16384} {k : Nat}
    (h : (image.get i).toNat = shade k) :
    ((hits.foldl hit image).get i).toNat = shade (k + hits.count i) := by
  induction hits generalizing image k with
  | nil => exact h
  | cons j rest ih =>
    rw [List.foldl_cons]
    by_cases here : j = i
    · have darkened : ((image.hit j).get i).toNat = shade (k + 1) := by
        rw [get_hit, if_pos here]
        exact toNat_darker h
      rw [ih darkened, here, List.count_cons_self, Nat.add_right_comm, Nat.add_assoc]
    · have kept : ((image.hit j).get i).toNat = shade k := by
        rw [get_hit, if_neg here]
        exact h
      rw [ih kept, List.count_cons_of_ne here]

/-- A pixel of a painted image shows how many points have landed on it. -/
theorem toNat_get_paint (next : α → α × Int × Int) (n : Nat) (p : α) (first : Image)
    (i : Fin 16384) :
    ((paint next n p first.whiten).get i).toNat = shade ((hits next n p).count i) := by
  have blank : (first.whiten.get i).toNat = shade 0 := by
    have light : white.get i = 255 := Vector.getElem_replicate i.isLt
    rw [whiten_eq, light]
    rfl
  rw [paint_eq_foldl, toNat_foldl_hit _ blank, Nat.zero_add]

/-- Every hit is on one of the pixels. -/
theorem sum_count (hits : List (Fin 16384)) : ∑ i, hits.count i = hits.length := by
  have all := Multiset.sum_count_eq_card (s := Finset.univ) (m := (hits : Multiset (Fin 16384)))
    fun i _ => Finset.mem_univ i
  simpa using all

/-! ## Indices of the machine -/

/-- Index of a pixel in words. -/
def indexInWords (x y : Int32) : UInt64 :=
  x.toInt64.toUInt64 + 128 * y.toInt64.toUInt64

/-- `darken` computed in words, or the trap where the image has no pixel at the index. -/
def darkenInWords (image : Image) (x y : Int32) : Except Trap Image :=
  if (0 ≤ x ∧ x < 128) ∧ (0 ≤ y ∧ y < 128) then
    let i := (indexInWords x y).toNat
    if h : i < 16384 then .ok (image.set i (darker image[i])) else .error .outOfBounds
  else
    .ok image

/-- `paint` computed in words, up to the first trap. -/
def paintInWords (next : α → α × Int32 × Int32) : Nat → α → Image → Except Trap Image
  | 0, _, image => .ok image
  | n + 1, p, image =>
    match next p with
    | (p, x, y) => do paintInWords next n p (← image.darkenInWords x y)

/-- The sequence with its words as integers. -/
def inIntegers (next : α → α × Int32 × Int32) (p : α) : α × Int × Int :=
  ((next p).1, (next p).2.1.toInt, (next p).2.2.toInt)

/-- A coordinate that is not negative keeps its value in words. -/
theorem toNat_widened {x : Int32} (h : 0 ≤ x.toInt) :
    x.toInt64.toUInt64.toNat = x.toInt.toNat := by
  have wide : 0 ≤ x.toInt64 := by
    rw [Int64.le_iff_toInt_le, Int32.toInt_toInt64]
    exact h
  rw [Int64.toNat_toUInt64_of_le wide]
  show x.toInt64.toInt.toNat = x.toInt.toNat
  rw [Int32.toInt_toInt64]

theorem bounds_iff (x : Int32) : 0 ≤ x ∧ x < 128 ↔ 0 ≤ x.toInt ∧ x.toInt < 128 := by
  rw [Int32.le_iff_toInt_le, Int32.lt_iff_toInt_lt]
  rfl

/-- No sum of coordinates inside the image wraps, and their index is one of a pixel. -/
theorem toNat_indexInWords {x y : Int32} (hx : 0 ≤ x.toInt ∧ x.toInt < 128)
    (hy : 0 ≤ y.toInt ∧ y.toInt < 128) :
    (indexInWords x y).toNat = x.toInt.toNat + 128 * y.toInt.toNat := by
  have row : (128 * y.toInt64.toUInt64).toNat = 128 * y.toInt.toNat := by
    rw [UInt64.toNat_mul, toNat_widened hy.1]
    show 128 * y.toInt.toNat % 18446744073709551616 = _
    omega
  rw [indexInWords, UInt64.toNat_add, toNat_widened hx.1, row]
  omega

/-- What the machine does in words is what is done to the image, without a trap. -/
theorem darkenInWords_eq (image : Image) (x y : Int32) :
    image.darkenInWords x y = .ok (image.darken x.toInt y.toInt) := by
  have inside_iff : (0 ≤ x ∧ x < 128) ∧ (0 ≤ y ∧ y < 128) ↔
      (0 ≤ x.toInt ∧ x.toInt < 128) ∧ (0 ≤ y.toInt ∧ y.toInt < 128) := by
    rw [bounds_iff, bounds_iff]
  rw [darkenInWords, darken, pixel?]
  by_cases inside : (0 ≤ x.toInt ∧ x.toInt < 128) ∧ (0 ≤ y.toInt ∧ y.toInt < 128)
  · have index := toNat_indexInWords inside.1 inside.2
    rw [if_pos (inside_iff.mpr inside), dif_pos inside]
    simp only [index]
    rw [dif_pos (by omega)]
    rfl
  · rw [if_neg (mt inside_iff.mp inside), dif_neg inside]

theorem paintInWords_eq (next : α → α × Int32 × Int32) (n : Nat) (p : α) (image : Image) :
    paintInWords next n p image = .ok (paint (inIntegers next) n p image) := by
  induction n generalizing p image with
  | zero => rfl
  | succ n ih =>
    show (image.darkenInWords (next p).2.1 (next p).2.2 >>= paintInWords next n (next p).1) = _
    rw [darkenInWords_eq]
    exact ih _ _

/-! ## Painted images -/

/-- The points of the attractor, their pixels in words. -/
def attractorInWords (trig : Trigonometry) (p : Attractor.Point) :
    Attractor.Point × Int32 × Int32 :=
  (p.next trig, ((p.next trig).x * Attractor.scale + 64.0).round.toInt32,
    ((p.next trig).y * Attractor.scale + 64.0).round.toInt32)

/-- Two images that differ in one pixel at most, and there by one step. -/
def StepApart (image later : Image) : Prop :=
  later = image ∨ ∃ i : Fin 16384, (later.get i).toNat + 16 = (image.get i).toNat ∧
    ∀ j : Fin 16384, j ≠ i → later.get j = image.get j

theorem stepApart_hit (image : Image) (i : Fin 16384) : StepApart image (image.hit i) := by
  have elsewhere : ∀ j : Fin 16384, j ≠ i → (image.hit i).get j = image.get j := by
    intro j other
    rw [get_hit, if_neg (Ne.symm other)]
  by_cases light : image.get i ≥ step
  · have here : (image.hit i).get i = image.get i - step := by
      rw [get_hit, if_pos rfl, darker, if_pos light]
    have enough : 16 ≤ (image.get i).toNat := light
    refine .inr ⟨i, ?_, elsewhere⟩
    rw [here, UInt8.toNat_sub_of_le _ _ light]
    exact Nat.sub_add_cancel enough
  · refine .inl (Vector.ext fun k hk => ?_)
    by_cases same : k = i.val
    · subst same
      show (image.hit i).get i = image.get i
      rw [get_hit, if_pos rfl, darker, if_neg light]
    · exact elsewhere ⟨k, hk⟩ fun h => same (congrArg Fin.val h)

/-- One more point darkens one pixel by a step, or leaves the image as it is. -/
theorem stepApart_paint (next : α → α × Int × Int) (n : Nat) (p : α) (image : Image) :
    StepApart (paint next n p image) (paint next (n + 1) p image) := by
  rw [paint_eq_foldl, paint_eq_foldl, hits_succ, List.foldl_append]
  cases landing? next (pointAfter next n p) with
  | none => exact .inl rfl
  | some i => exact stepApart_hit _ i

/-- All hits together are as many as there are points, at most. -/
theorem sum_steps_paint_le (next : α → α × Int × Int) (n : Nat) (p : α) (first : Image) :
    ∑ i : Fin 16384, (255 - ((paint next n p first.whiten).get i).toNat) / 16 ≤ n := by
  calc ∑ i : Fin 16384, (255 - ((paint next n p first.whiten).get i).toNat) / 16
      ≤ ∑ i, (hits next n p).count i := by
        refine Finset.sum_le_sum fun i _ => ?_
        rw [toNat_get_paint]
        exact hits_of_shade_le _
    _ = (hits next n p).length := sum_count _
    _ ≤ n := length_hits_le next n p

/-- Whatever the points are, an image of `n` of them is painted without leaving its pixels, and from
any image in the same way. Each pixel is as dark as the points that land on it make it, so that it
lies on the grid of steps and above zero; no more steps are taken than there are points, and one
point more takes one step at most. The images of the attractor are those of its own points, with any
sine and cosine. -/
theorem painted_by_any_points (next : α → α × Int32 × Int32) (p : α) (n : Nat) (first : Image) :
    let image := paint (inIntegers next) n p first.whiten
    paintInWords next n p first.whiten = .ok image ∧
      (∀ other : Image, paint (inIntegers next) n p other.whiten = image) ∧
      (∀ i : Fin 16384,
        (image.get i).toNat = shade ((hits (inIntegers next) n p).count i) ∧
        (image.get i).toNat % 16 = 15 ∧ 15 ≤ (image.get i).toNat ∧ (image.get i).toNat ≤ 255) ∧
      ∑ i : Fin 16384, (255 - (image.get i).toNat) / 16 ≤ n ∧
      StepApart image (paint (inIntegers next) (n + 1) p first.whiten) ∧
      ∀ trig : Trigonometry, (Attractor.generateWith trig n).run first =
        (.ok (), paint (inIntegers (attractorInWords trig)) n Attractor.origin first.whiten) := by
  refine ⟨paintInWords_eq next n p _, fun other => ?_, fun i => ?_, ?_, ?_, fun trig => rfl⟩
  · rw [whiten_eq, whiten_eq]
  · rw [toNat_get_paint]
    exact ⟨rfl, shade_mod _, shade_bounds _⟩
  · exact sum_steps_paint_le (inIntegers next) n p first
  · exact stepApart_paint (inIntegers next) n p _

end Coprocessor.Image
