/-!
Byte arrays changed in place. `splice` puts a list of bytes over part of an array; every other
byte stays, and bytes that would fall past the end are dropped.
-/
namespace Coprocessor.Bytes

/-- `mem` with `bytes` placed from index `i` on. -/
def splice (mem : Array UInt8) (i : Nat) : List UInt8 → Array UInt8
  | [] => mem
  | b :: rest => splice (mem.setIfInBounds i b) (i + 1) rest

@[simp] theorem size_splice (mem : Array UInt8) (i : Nat) (bytes : List UInt8) :
    (splice mem i bytes).size = mem.size := by
  induction bytes generalizing mem i with
  | nil => rfl
  | cons b rest ih => simp [splice, ih]

/-- What `splice` leaves at index `j`: the new byte inside the range, the old one outside. -/
theorem getElem?_splice (mem : Array UInt8) (i j : Nat) (bytes : List UInt8) :
    (splice mem i bytes)[j]? =
      if i ≤ j ∧ j < i + bytes.length ∧ j < mem.size then bytes[j - i]? else mem[j]? := by
  induction bytes generalizing mem i with
  | nil =>
    have : ¬ (i ≤ j ∧ j < i + ([] : List UInt8).length ∧ j < mem.size) := by simp; omega
    rw [if_neg this, splice]
  | cons b rest ih =>
    rw [splice, ih]
    simp only [Array.size_setIfInBounds, List.length_cons]
    by_cases hij : i = j
    · subst hij
      rw [if_neg (by omega)]
      by_cases hj : i < mem.size
      · rw [if_pos (by omega)]
        simp [hj]
      · rw [if_neg (by omega)]
        simp [hj]
    · by_cases h : i + 1 ≤ j ∧ j < i + 1 + rest.length ∧ j < mem.size
      · rw [if_pos h, if_pos (by omega)]
        rw [show j - i = (j - (i + 1)) + 1 by omega, List.getElem?_cons_succ]
      · rw [if_neg h, if_neg (by omega)]
        simp [hij]

end Coprocessor.Bytes
