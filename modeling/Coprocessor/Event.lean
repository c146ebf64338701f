import Coprocessor.Message
import Coprocessor.Mailbox.Register

/-!
What an observer sees while the library runs. Nothing in the library reads events back: they
carry no information from one operation to the next.
-/
namespace Coprocessor

/-- One access to a mailbox register, as seen by whoever made it. A failed access has no value
read, or a false flag. -/
inductive Access where
  | read (reg : Register) (value : Option UInt32)
  | write (reg : Register) (value : UInt32) (landed : Bool)
  | barrier
  deriving DecidableEq

/-- The line that a trace shows for an access: failed ones end in an exclamation mark. -/
def Access.line : Access → String
  | read reg (some v) => "r " ++ reg.name ++ " " ++ toString v
  | read reg none => "r " ++ reg.name ++ " !"
  | write reg v true => "w " ++ reg.name ++ " " ++ toString v
  | write reg v false => "w " ++ reg.name ++ " " ++ toString v ++ " !"
  | barrier => "b"

inductive PageCall where
  | read (addr : UInt32) (len : Nat)
  | load (addr : UInt32)
  | commit (addr : UInt32)
  deriving DecidableEq

def PageCall.line : PageCall → String
  | read addr len => "read " ++ toString addr ++ " " ++ toString len
  | load addr => "load " ++ toString addr
  | commit addr => "commit " ++ toString addr

/-- One four-byte access to a remote memory. -/
inductive RemoteCall where
  | read (addr : UInt32)
  | write (addr : UInt32) (bytes : Vector UInt8 4)
  deriving DecidableEq

inductive Event where
  /-- A message was reported. -/
  | message (m : Message)
  /-- A mailbox register was accessed through an instrumented bus. -/
  | access (a : Access)
  /-- A page device was called through an instrumented device. -/
  | page (c : PageCall)
  /-- A remote memory was accessed. -/
  | remote (c : RemoteCall)
  /-- A polling loop waited. -/
  | pause
  /-- Bytes were stored in mapped memory. -/
  | stored (addr : UInt32) (bytes : List UInt8)
  /-- All stores so far have landed. -/
  | fence
  deriving DecidableEq

namespace Event

def message? : Event → Option Message
  | message m => some m
  | _ => none

def access? : Event → Option Access
  | access a => some a
  | _ => none

def page? : Event → Option PageCall
  | page c => some c
  | _ => none

def remote? : Event → Option RemoteCall
  | remote c => some c
  | _ => none

end Event

/-- The log lines among `events` that a log with this threshold keeps. -/
def logLines (threshold : Level) (events : List Event) : List String :=
  (events.filterMap Event.message?).filterMap fun m =>
    if m.isShownAt threshold then some m.line else none

end Coprocessor
