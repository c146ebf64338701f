/-!
Planned faults. A fault belongs to one kind of access and counts the accesses of that kind from
the moment it is planned; it strikes a run of them. Every fault of a kind counts every access of
that kind, and an access fails if any of them strikes.
-/
namespace Coprocessor

/-- A fault that strikes `count` accesses after the first `after`, or all of them from there on. -/
structure Fault (κ : Type) where
  kind : κ
  after : Nat
  count : Option Nat
  /-- Accesses of this kind so far. -/
  seen : Nat

namespace Fault

variable {κ : Type}

/-- A fault that has seen no access yet. -/
def plan (kind : κ) (after : Nat) (count : Option Nat) : Fault κ where
  kind
  after
  count
  seen := 0

/-- Whether the next access of its kind fails. -/
def isDue (f : Fault κ) : Bool :=
  f.after ≤ f.seen &&
    match f.count with
    | some n => f.seen < f.after + n
    | none => true

/-- Whether an access of kind `k` fails, and the faults after it. -/
def strike [DecidableEq κ] (faults : List (Fault κ)) (k : κ) : Bool × List (Fault κ) :=
  (faults.any fun f => f.kind == k && f.isDue,
    faults.map fun f => if f.kind = k then { f with seen := f.seen + 1 } else f)

end Fault

end Coprocessor
