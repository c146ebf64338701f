import Coprocessor.Interrupt.VectorTable

/-!
Interrupt handlers that follow a script. Each run of a source's handler takes the next behaviour
of the script; the last behaviour stays, and an empty script does nothing.
-/
namespace Coprocessor

/-- What a scripted handler does to the controller. -/
inductive HandlerDeed where
  | clear
  | trigger
  | clearOther
  | triggerOther
  deriving DecidableEq

/-- One run of a handler: its deeds in order. -/
abbrev Behaviour : Type := List HandlerDeed

structure ScriptedHandlers where
  controller : Lines
  onAvailable : List Behaviour
  onAbort : List Behaviour
  /-- Handlers run so far, the latest first. -/
  runs : List Source

namespace ScriptedHandlers

def controllerPart : ScriptedHandlers → Lines × (Lines → ScriptedHandlers)
  | ⟨controller, onAvailable, onAbort, runs⟩ =>
    (controller, fun controller => ⟨controller, onAvailable, onAbort, runs⟩)

instance : HasController ScriptedHandlers Lines := ⟨controllerPart⟩

/-- The behaviour of the next run, and the script after it. -/
def nextBehaviour : List Behaviour → Behaviour × List Behaviour
  | [] => ([], [])
  | [b] => (b, [b])
  | b :: rest => (b, rest)

/-- Takes the behaviour of the next run of a source's handler. -/
def take (s : Source) : Act Empty ScriptedHandlers Behaviour := fun h =>
  match s with
  | .mailboxAvailable =>
    match nextBehaviour h.onAvailable with
    | (b, rest) => ⟨.ok b, { h with onAvailable := rest, runs := s :: h.runs }, []⟩
  | .mailboxAbort =>
    match nextBehaviour h.onAbort with
    | (b, rest) => ⟨.ok b, { h with onAbort := rest, runs := s :: h.runs }, []⟩

def perform (s : Source) : HandlerDeed → Act Empty Lines Unit
  | .clear => InterruptController.clearPending s
  | .trigger => InterruptController.trigger s
  | .clearOther => InterruptController.clearPending s.other
  | .triggerOther => InterruptController.trigger s.other

/-- Performs the deeds of a behaviour in order. -/
def performAll (s : Source) : Behaviour → Act Empty ScriptedHandlers Unit
  | [] => pure ()
  | deed :: rest => do
    (perform s deed).within controllerPart
    performAll s rest

def handler (s : Source) : Act Trap ScriptedHandlers Unit := Act.sure do
  performAll s (← take s)

end ScriptedHandlers

end Coprocessor
