import Coprocessor.Proofs.Interrupt.Urgency

/-!
A vector table in an array of slots. The taken slots come first, in the order of urgency. To
register a vector, the first taken slot that is less urgent is looked up, the slots from there to
the first free one are turned by one place, and the vector goes where the free one has come. No
index leaves the array, and the vectors are those of the table that is a list.
-/
namespace Coprocessor

variable {ε τ : Type}

/-- Slots for vectors, of which the first `used` are taken. -/
structure VectorSlots (ε τ : Type) where
  slots : List (Option (InterruptVector ε τ))
  used : Nat

namespace VectorSlots

/-- Turns the `count` slots from `start` on by one place, so that the last of them comes first, or
the trap where they leave the array. -/
def turned {α : Type} (slots : List α) (start count : Nat) : Except Trap (List α) :=
  match slice slots start count with
  | .ok part => .ok (slots.take start ++ part.rotateRight ++ slots.drop (start + count))
  | .error t => .error t

def empty : VectorSlots ε τ :=
  ⟨List.replicate maxVectors none, 0⟩

/-- The vectors in taken slots, the most urgent first. -/
def vectors (s : VectorSlots ε τ) : List (InterruptVector ε τ) :=
  (s.slots.take s.used).filterMap id

/-- Adds a vector, unless its source has one or no slot is free. -/
def register (s : VectorSlots ε τ) (v : InterruptVector ε τ) : Except Failure (VectorSlots ε τ) :=
  if s.vectors.any (·.source == v.source) then .error (.error .duplicateVector)
  else if s.used = maxVectors then .error (.error .vectorTableFull)
  else
    let place := (s.vectors.findIdx? fun w => v.before w).getD s.used
    match turned s.slots place (s.used + 1 - place) with
    | .error t => .error (.trap t)
    | .ok slots => .ok ⟨slots.set place (some v), s.used + 1⟩

/-- The slots after some calls that each register a vector, or the trap of the first that traps. A
call that is refused leaves the slots as they are. -/
def registerAll (s : VectorSlots ε τ) :
    List (InterruptVector ε τ) → Except Trap (VectorSlots ε τ)
  | [] => .ok s
  | v :: rest =>
    match s.register v with
    | .ok s' => s'.registerAll rest
    | .error (.error _) => s.registerAll rest
    | .error (.trap t) => .error t

/-! ## Slots that hold a table -/

/-- The vectors of the table are in the first slots, and the others are free. -/
structure Holds (s : VectorSlots ε τ) (t : VectorTable ε τ) : Prop where
  slots : s.slots = t.vectors.map some ++ List.replicate (maxVectors - t.vectors.length) none
  used : s.used = t.vectors.length
  room : t.vectors.length ≤ maxVectors

variable {s : VectorSlots ε τ} {t : VectorTable ε τ}

theorem Holds.empty : Holds (empty : VectorSlots ε τ) .empty where
  slots := rfl
  used := rfl
  room := Nat.zero_le maxVectors

theorem Holds.vectors (h : s.Holds t) : s.vectors = t.vectors := by
  have taken : s.slots.take s.used = t.vectors.map some := by
    rw [h.slots, h.used]
    exact List.take_left' (List.length_map some)
  rw [VectorSlots.vectors, taken, List.filterMap_map]
  exact List.filterMap_some

/-- Where a vector is put: before the first that is less urgent, or at the end. -/
theorem insert_eq (v : InterruptVector ε τ) (vectors : List (InterruptVector ε τ)) :
    ∃ before after, vectors = before ++ after ∧ v.insert vectors = before ++ v :: after ∧
      (vectors.findIdx? fun w => v.before w).getD vectors.length = before.length := by
  induction vectors with
  | nil => exact ⟨[], [], rfl, rfl, rfl⟩
  | cons w rest ih =>
    rw [InterruptVector.insert, List.findIdx?_cons]
    by_cases less : v.before w = true
    · exact ⟨[], w :: rest, rfl, if_pos less, by rw [if_pos less]; rfl⟩
    · obtain ⟨before, after, rfl, inserted, place⟩ := ih
      refine ⟨w :: before, after, rfl, ?_, ?_⟩
      · rw [if_neg less, inserted]
        rfl
      · rw [if_neg less, List.length_cons, List.length_cons, ← place]
        cases (before ++ after).findIdx? fun w => v.before w <;> rfl

theorem rotateRight_concat {α : Type} (l : List α) (a : α) : (l ++ [a]).rotateRight = a :: l := by
  cases l with
  | nil => rfl
  | cons b rest =>
    have long : ¬ (b :: rest ++ [a]).length ≤ 1 := by simp
    have last : (b :: rest ++ [a]).length - 1 % (b :: rest ++ [a]).length = (b :: rest).length := by
      rw [Nat.mod_eq_of_lt (Nat.lt_of_not_le long), List.length_append]
      rfl
    rw [List.rotateRight, if_neg long]
    dsimp only
    rw [last, List.drop_left' rfl, List.take_left' rfl]
    rfl

/-- The free slot after the taken ones is turned to the place that was asked for. -/
theorem turned_eq {α : Type} (before after rest : List α) (free : α) :
    turned (before ++ (after ++ free :: rest)) before.length (after.length + 1) =
      .ok (before ++ free :: after ++ rest) := by
  have inside : before.length + (after.length + 1) ≤
      (before ++ (after ++ free :: rest)).length := by
    simp only [List.length_append, List.length_cons]
    omega
  have part : (after ++ free :: rest).take (after.length + 1) = after ++ [free] := by
    rw [List.append_cons]
    exact List.take_left' (by simp)
  have right : (after ++ free :: rest).drop (after.length + 1) = rest := by
    rw [List.append_cons]
    exact List.drop_left' (by simp)
  rw [turned, slice_eq_ok inside]
  dsimp only
  rw [← List.drop_drop, List.drop_left' rfl, List.take_left' rfl, part, right, rotateRight_concat]

/-- A vector for which a slot is free goes where the table has it, and no index is out of bounds. -/
theorem Holds.insert (h : s.Holds t) (free : t.vectors.length ≠ maxVectors)
    (v : InterruptVector ε τ) {place : Nat}
    (found : (t.vectors.findIdx? fun w => v.before w).getD t.vectors.length = place) :
    ∃ slots, turned s.slots place (t.vectors.length + 1 - place) = .ok slots ∧
      Holds ⟨slots.set place (some v), t.vectors.length + 1⟩ ⟨v.insert t.vectors⟩ := by
  -- the place cuts the table in two, and the turn moves the slots of the second part
  obtain ⟨before, after, vectors, inserted, place'⟩ := insert_eq v t.vectors
  obtain rfl := place'.symm.trans found
  have room := h.room
  obtain ⟨n, rest⟩ : ∃ n, maxVectors - t.vectors.length = n + 1 :=
    Nat.exists_eq_succ_of_ne_zero (by omega)
  have slots : s.slots =
      before.map some ++ (after.map some ++ none :: List.replicate n none) := by
    rw [h.slots, rest, vectors, List.map_append, List.append_assoc]
    rfl
  have count : t.vectors.length + 1 - before.length = (after.map some).length + 1 := by
    rw [vectors, List.length_append, List.length_map]
    omega
  have turns := turned_eq (before.map some) (after.map some) (List.replicate n none)
    (none : Option (InterruptVector ε τ))
  rw [← slots, List.length_map some, ← count] at turns
  refine ⟨_, turns, ?_, ?_, ?_⟩
  · have free' : maxVectors - (v.insert t.vectors).length = n := by
      rw [InterruptVector.length_insert]
      omega
    dsimp only
    rw [free', inserted]
    simp
  · exact (InterruptVector.length_insert v t.vectors).symm
  · dsimp only
    rw [InterruptVector.length_insert]
    omega

/-- Registering a vector in slots is registering it in the table that they hold. -/
theorem Holds.register (h : s.Holds t) (v : InterruptVector ε τ) :
    (∃ t' s', t.register v = .ok t' ∧ s.register v = .ok s' ∧ s'.Holds t') ∨
      ∃ e, t.register v = .error e ∧ s.register v = .error (.error e) := by
  rw [VectorTable.register, VectorSlots.register, h.vectors, h.used]
  by_cases old : t.vectors.any (·.source == v.source) = true
  · exact .inr ⟨.duplicateVector, if_pos old, if_pos old⟩
  rw [if_neg old, if_neg old]
  by_cases full : t.vectors.length = maxVectors
  · exact .inr ⟨.vectorTableFull, if_pos full, if_pos full⟩
  rw [if_neg full, if_neg full]
  obtain ⟨slots, turns, holds⟩ := h.insert full v rfl
  dsimp only
  rw [turns]
  exact .inl ⟨_, _, rfl, rfl, holds⟩

/-- Whatever is registered, the slots hold the table that these calls make. -/
theorem Holds.registerAll (h : s.Holds t) (calls : List (InterruptVector ε τ)) :
    ∃ s', s.registerAll calls = .ok s' ∧ s'.Holds (t.registerAll calls) := by
  induction calls generalizing s t with
  | nil => exact ⟨s, rfl, h⟩
  | cons v rest ih =>
    rw [VectorSlots.registerAll, VectorTable.registerAll]
    rcases h.register v with ⟨t', s', made, made', holds⟩ | ⟨e, refused, refused'⟩
    · rw [made, made']
      exact ih holds
    · rw [refused, refused']
      exact ih h

/-- The vectors in slots are those of the table, in its order. -/
theorem vectors_registerAll (calls : List (InterruptVector ε τ)) :
    ∃ s : VectorSlots ε τ, empty.registerAll calls = .ok s ∧
      s.vectors = (VectorTable.empty.registerAll calls).vectors ∧
      s.slots.length = maxVectors := by
  obtain ⟨s, made, holds⟩ := Holds.empty.registerAll calls
  refine ⟨s, made, holds.vectors, ?_⟩
  have room := holds.room
  rw [holds.slots, List.length_append, List.length_map, List.length_replicate]
  omega

end VectorSlots

end Coprocessor
