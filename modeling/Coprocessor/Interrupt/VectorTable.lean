import Coprocessor.Interrupt.Controller

/-!
Vector tables: the handlers of interrupt sources, most urgent first, and the loop that services
pending sources. Sources of equal priority are ordered by interrupt number. A handler has to
clear its source; one that never does is reported rather than serviced for ever.
-/
namespace Coprocessor

/-- States that contain the interrupt controller they are serviced from. -/
class HasController (τ : Type) (κ : outParam Type) where
  controllerPart : τ → κ × (κ → τ)

/-- The handler of a source. -/
structure InterruptVector (ε τ : Type) where
  source : Source
  priority : UInt8
  handler : Act ε τ Unit

/-- Most vectors of a table. -/
def maxVectors : Nat := 8

/-- Vectors, the most urgent first. -/
structure VectorTable (ε τ : Type) where
  vectors : List (InterruptVector ε τ)

namespace InterruptVector

variable {ε τ : Type}

/-- Whether `v` comes before `w`: by priority, then by interrupt number. -/
def before (v w : InterruptVector ε τ) : Bool :=
  v.priority < w.priority || (v.priority == w.priority && v.source.number < w.source.number)

/-- Puts a vector before the first that is less urgent. -/
def insert (v : InterruptVector ε τ) : List (InterruptVector ε τ) → List (InterruptVector ε τ)
  | [] => [v]
  | w :: rest => if v.before w then v :: w :: rest else w :: insert v rest

theorem mem_insert {v w : InterruptVector ε τ} {vectors : List (InterruptVector ε τ)} :
    w ∈ v.insert vectors ↔ w = v ∨ w ∈ vectors := by
  induction vectors with
  | nil => simp [insert]
  | cons head rest ih =>
    simp only [insert]
    split
    · simp
    · simp only [List.mem_cons, ih]
      grind

@[simp] theorem length_insert (v : InterruptVector ε τ) (vectors : List (InterruptVector ε τ)) :
    (v.insert vectors).length = vectors.length + 1 := by
  induction vectors with
  | nil => rfl
  | cons head rest ih =>
    simp only [insert]
    split <;> simp [ih]

end InterruptVector

namespace VectorTable

variable {ε τ : Type}

def empty : VectorTable ε τ := ⟨[]⟩

def size (t : VectorTable ε τ) : Nat :=
  t.vectors.length

def isEmpty (t : VectorTable ε τ) : Bool :=
  t.vectors.isEmpty

/-- Adds a vector, unless its source has one or the table is full. -/
def register (t : VectorTable ε τ) (v : InterruptVector ε τ) :
    Except Error (VectorTable ε τ) :=
  if t.vectors.any (·.source == v.source) then .error .duplicateVector
  else if t.vectors.length = maxVectors then .error .vectorTableFull
  else .ok ⟨v.insert t.vectors⟩

/-! ## Installing -/

section Install

variable {ε' κ : Type} [InterruptController κ]

/-- Sets the priority of each source and enables it. -/
def installAll : List (InterruptVector ε τ) → Act ε' κ Unit
  | [] => pure ()
  | v :: rest => do
    (InterruptController.setPriority v.source v.priority).sure
    (InterruptController.enable v.source).sure
    Act.log (.vectorInstalled v.source v.priority)
    installAll rest

/-- Sets up a controller for the vectors of a table. -/
def install (t : VectorTable ε τ) : Act ε' κ Unit :=
  installAll t.vectors

end Install

/-! ## Servicing -/

variable {κ : Type} [InterruptController κ] [HasController τ κ]

/-- A controller operation, on the controller inside a context. -/
def onController {α : Type} (x : Act Empty κ α) : Act ε τ α :=
  x.sure.within HasController.controllerPart

/-- The first vector whose source is enabled and pending. -/
def findReady : List (InterruptVector ε τ) → Act ε τ (Option (InterruptVector ε τ))
  | [] => pure none
  | v :: rest => do
    if ← onController (InterruptController.isEnabled v.source) then
      if ← onController (InterruptController.isPending v.source) then
        return some v
      else
        findReady rest
    else
      findReady rest

/-- Runs the handler of the most urgent source that is enabled and pending, and gives it. -/
def serviceMostUrgent (t : VectorTable ε τ) : Act ε τ (Option Source) := do
  match ← findReady t.vectors with
  | none => return none
  | some v =>
    Act.log (.sourceServiced v.source)
    onController (InterruptController.acknowledge v.source)
    v.handler
    return some v.source

/-- Services sources until none is ready, and gives the number of handlers run. After `limit`
handlers one more source that is ready is serviced and then reported. -/
def serviceUpTo (t : VectorTable ε τ) (limit : Nat) : Act ε τ (Except Error Nat) := do
  let finished ← Act.firstSome limit 0 fun i => do
    match ← t.serviceMostUrgent with
    | none => return some i
    | some _ => return none
  match finished with
  | some n => return .ok n
  | none =>
    match ← t.serviceMostUrgent with
    | none => return .ok limit
    | some source =>
      Act.log (.sourceUnending source limit)
      return .error .timeout

end VectorTable

end Coprocessor
