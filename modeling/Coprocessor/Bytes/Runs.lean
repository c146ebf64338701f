/-!
Where two byte arrays of one size differ: the maximal runs of bytes that changed, lowest first.
-/
namespace Coprocessor.Bytes

/-- Adds a changed byte in front of the runs after it. -/
def extend (i : Nat) (b : UInt8) : List (Nat × List UInt8) → List (Nat × List UInt8)
  | (j, bytes) :: rest => if i + 1 = j then (i, b :: bytes) :: rest else (i, [b]) :: (j, bytes) :: rest
  | [] => [(i, [b])]

/-- Adds a changed byte in front of runs of one value each. -/
def extendUniform (i : Nat) (b : UInt8) : List (Nat × Nat × UInt8) → List (Nat × Nat × UInt8)
  | (j, n, c) :: rest =>
    if i + 1 = j ∧ b = c then (i, n + 1, c) :: rest else (i, 1, b) :: (j, n, c) :: rest
  | [] => [(i, 1, b)]

/-- Goes through the bytes before index `n`, from the last one down, and hands changed ones to
`add`. -/
@[specialize] def scan {α : Type} (add : Nat → UInt8 → α → α) (old new : Array UInt8) :
    Nat → α → α
  | 0, runs => runs
  | i + 1, runs =>
    let b := new.getD i 0
    scan add old new i (if old.getD i 0 = b then runs else add i b runs)

/-- The maximal runs of changed bytes: where each begins, and its new bytes. -/
def changedRuns (old new : Array UInt8) : List (Nat × List UInt8) :=
  scan extend old new new.size []

/-- The maximal runs of changed bytes that share one new value: start, length and value. -/
def uniformRuns (old new : Array UInt8) : List (Nat × Nat × UInt8) :=
  scan extendUniform old new new.size []

end Coprocessor.Bytes
