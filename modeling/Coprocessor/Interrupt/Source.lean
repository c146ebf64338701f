/-!
The two interrupt sources of the core.
-/
namespace Coprocessor

/-- An interrupt source. Both belong to the mailbox. -/
inductive Source where
  /-- The peer has finished writing a packet. -/
  | mailboxAvailable
  /-- The peer has raised an abort. -/
  | mailboxAbort
  deriving DecidableEq

namespace Source

def number : Source → Nat
  | mailboxAvailable => 18
  | mailboxAbort => 19

def name : Source → String
  | mailboxAvailable => "MboxAvailable"
  | mailboxAbort => "MboxAbort"

/-- The source that this one is not. -/
def other : Source → Source
  | mailboxAvailable => mailboxAbort
  | mailboxAbort => mailboxAvailable

theorem number_injective {a b : Source} (h : a.number = b.number) : a = b := by
  cases a <;> cases b <;> first | rfl | exact absurd h (by decide)

end Source

end Coprocessor
