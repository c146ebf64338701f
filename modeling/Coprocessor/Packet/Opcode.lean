import Coprocessor.Failure

/-!
Opcodes of requests, which the peer sends to the core, and of responses, which the core sends
back. A packet carries its opcode as a raw number, so that one without a meaning can still be
received and reported.
-/
namespace Coprocessor

/-- What the peer asks of the core. -/
inductive Request where
  | invalid
  | knock
  | offloadTransform
  | sharedMemoryCompute
  | persistentWrite
  deriving DecidableEq

/-- What the core answers. -/
inductive Response where
  | invalid
  | knock
  | offloadTransform
  | sharedMemoryCompute
  | persistentWrite
  deriving DecidableEq

namespace Request

def code : Request → UInt16
  | invalid => 0
  | knock => 1
  | offloadTransform => 2
  | sharedMemoryCompute => 3
  | persistentWrite => 4

def name : Request → String
  | invalid => "Invalid"
  | knock => "Knock"
  | offloadTransform => "OffloadTransform"
  | sharedMemoryCompute => "SharedMemoryCompute"
  | persistentWrite => "PersistentWrite"

/-- The request with opcode `code`. -/
def ofCode (code : UInt16) : Except Error Request :=
  match code.toNat with
  | 0 => .ok invalid
  | 1 => .ok knock
  | 2 => .ok offloadTransform
  | 3 => .ok sharedMemoryCompute
  | 4 => .ok persistentWrite
  | _ => .error .invalidOpcode

/-- The response that answers a request; an invalid request is never answered. -/
def answer? : Request → Option Response
  | invalid => none
  | knock => some .knock
  | offloadTransform => some .offloadTransform
  | sharedMemoryCompute => some .sharedMemoryCompute
  | persistentWrite => some .persistentWrite

@[simp] theorem ofCode_code (r : Request) : ofCode r.code = .ok r := by
  cases r <;> rfl

end Request

namespace Response

def code : Response → UInt16
  | invalid => 0
  | knock => 128
  | offloadTransform => 129
  | sharedMemoryCompute => 130
  | persistentWrite => 131

def name : Response → String
  | invalid => "Invalid"
  | knock => "RetKnock"
  | offloadTransform => "RetOffloadTransform"
  | sharedMemoryCompute => "RetSharedMemoryCompute"
  | persistentWrite => "RetPersistentWrite"

/-- The response with opcode `code`. -/
def ofCode (code : UInt16) : Except Error Response :=
  match code.toNat with
  | 0 => .ok invalid
  | 128 => .ok knock
  | 129 => .ok offloadTransform
  | 130 => .ok sharedMemoryCompute
  | 131 => .ok persistentWrite
  | _ => .error .invalidOpcode

@[simp] theorem ofCode_code (r : Response) : ofCode r.code = .ok r := by
  cases r <;> rfl

end Response

end Coprocessor
