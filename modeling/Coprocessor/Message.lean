import Coprocessor.Word
import Coprocessor.Packet.Opcode
import Coprocessor.Interrupt.Source

/-!
What the library reports while it runs: one constructor for each kind of log line, the level at
which it is reported and its text.
-/
namespace Coprocessor

/-- How severe a message is, from the most severe on. -/
inductive Level where
  | error
  | warn
  | info
  | debug
  | trace
  deriving DecidableEq

namespace Level

/-- Position in the order of severity, the most severe first. -/
def rank : Level → Nat
  | error => 0
  | warn => 1
  | info => 2
  | debug => 3
  | trace => 4

def name : Level → String
  | error => "ERROR"
  | warn => "WARN"
  | info => "INFO"
  | debug => "DEBUG"
  | trace => "TRACE"

end Level

/-- One message. -/
inductive Message where
  | wordWritten (word : UInt32)
  | wordRead (word : UInt32)
  | packetSent (opcode : UInt16) (words : Nat)
  | packetTooLong (opcode argLen : UInt16)
  | surplusWord (word : UInt32)
  | surplusUnending (drained : Nat)
  | packetReceived (opcode : UInt16) (words : Nat)
  | arenaRegistered (base : UInt32) (size : Nat)
  | abortAcknowledged
  | abortUnacknowledged (e : Error)
  | requestFailed (e : Error)
  | requestReceived (opcode argLen : UInt16)
  | requestInvalid
  | requestUnknown (opcode : UInt16)
  | responseFailed (opcode : UInt16) (e : Error)
  | transformShort (needed : Nat) (argLen : UInt16)
  | imageUnaddressed
  | imageStarted (addr : UInt32)
  | imageRefused (addr : UInt32) (e : Error)
  | imageIteration (i : Nat)
  | writeRefused (args : List UInt32)
  | writeFailed (len : Nat) (addr : UInt32) (e : Error)
  | writeOutsideDevice (addr : UInt32) (len : Nat)
  | bytesStored (len : Nat) (addr : UInt32)
  | vectorInstalled (source : Source) (priority : UInt8)
  | sourceServiced (source : Source)
  | sourceUnending (source : Source) (limit : Nat)
  | firmwareReady (vectors : Nat)
  | answerInvalid (opcode : UInt16)
  | answerUnexpected (expected actual : Response)
  | requestStarted (opcode : UInt16)
  | requestUnanswered (polls : Nat)
  | requestCompleted (polls : Nat)
  | abortCompleted
  | abortUnending (polls : Nat)
  deriving DecidableEq

namespace Message

def level : Message → Level
  | wordWritten _ | wordRead _ | imageIteration _ | sourceServiced _ => .trace
  | packetSent .. | packetReceived .. | arenaRegistered .. | requestReceived .. | imageStarted _
  | bytesStored .. | requestStarted _ | requestCompleted _ => .debug
  | abortAcknowledged | vectorInstalled .. | firmwareReady _ | abortCompleted => .info
  | packetTooLong .. | surplusWord _ | requestInvalid | requestUnknown _ | transformShort ..
  | imageUnaddressed | imageRefused .. | writeRefused _ | writeOutsideDevice .. | answerInvalid _
  | answerUnexpected .. | requestUnanswered _ | abortUnending _ => .warn
  | surplusUnending _ | abortUnacknowledged _ | requestFailed _ | responseFailed ..
  | writeFailed .. | sourceUnending .. => .error

/-- The first two arguments of a refused write in hexadecimal, or `None` where there are fewer. -/
def addressAndLength : List UInt32 → String
  | addr :: len :: _ => "Some([" ++ Word.hex addr ++ ", " ++ Word.hex len ++ "])"
  | _ => "None"

def text : Message → String
  | wordWritten w => "Tx " ++ Word.address w
  | wordRead w => "Rx " ++ Word.address w
  | packetSent op n => s!"Sent opcode {op} with {n} words"
  | packetTooLong op n => s!"Rx opcode {op} declared {n} words, too long"
  | surplusWord w => "Extra Rx: " ++ Word.address w
  | surplusUnending n => s!"Rx still available after draining {n} extra words"
  | packetReceived op n => s!"Received opcode {op} with {n} words"
  | arenaRegistered base n => "Shared arena at " ++ Word.address base ++ s!" size {n} bytes"
  | abortAcknowledged => "Abort acknowledged"
  | abortUnacknowledged e => "Failed to acknowledge abort: " ++ e.name
  | requestFailed e => "Rx failure: " ++ e.name
  | requestReceived op n => s!"Rx opcode {op} with {n} words"
  | requestInvalid => "Rx invalid opcode, ignoring"
  | requestUnknown op => s!"Rx unknown opcode {op}, ignoring"
  | responseFailed op e => s!"Tx of opcode {op} failed: " ++ e.name
  | transformShort needed n => s!"Transform needs {needed} words, got {n}"
  | imageUnaddressed => "Shared memory compute without an address"
  | imageStarted addr => "Generating image at " ++ Word.address addr
  | imageRefused addr e => "Image at " ++ Word.address addr ++ " refused: " ++ e.name
  | imageIteration i => s!"Generator iteration {i}"
  | writeRefused args => "Persistent write " ++ addressAndLength args ++ " failed validation"
  | writeFailed n addr e =>
    s!"Persistent write of {n} bytes at " ++ Word.address addr ++ " failed: " ++ e.name
  | writeOutsideDevice addr n => "Storage write " ++ Word.address addr ++ s!"+{n} outside device"
  | bytesStored n addr => s!"Stored {n} bytes at " ++ Word.address addr
  | vectorInstalled source p =>
    "IRQ " ++ toString source.number ++ " installed at priority " ++ toString p
  | sourceServiced source => "Servicing IRQ " ++ toString source.number
  | sourceUnending source limit =>
    "IRQ " ++ toString source.number ++ s!" still pending after {limit} handlers"
  | firmwareReady n => s!"Firmware ready, {n} vectors installed"
  | answerInvalid op => s!"Response with invalid opcode {op}"
  | answerUnexpected expected actual =>
    "Expected response " ++ expected.name ++ ", got " ++ actual.name
  | requestStarted op => s!"Starting request, opcode {op}"
  | requestUnanswered polls => s!"No response after {polls} polls"
  | requestCompleted polls => s!"Request completed after {polls} polls"
  | abortCompleted => "Abort completed"
  | abortUnending polls => s!"Abort still in progress after {polls} polls"

/-- The log line of a message: its level and its text. -/
def line (m : Message) : String :=
  m.level.name ++ " " ++ m.text

/-- Whether a log that keeps messages up to `threshold` keeps this one. -/
def isShownAt (threshold : Level) (m : Message) : Bool :=
  m.level.rank ≤ threshold.rank

end Message

end Coprocessor
