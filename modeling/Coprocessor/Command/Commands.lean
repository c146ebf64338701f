import Coprocessor.Arena
import Coprocessor.Kernel.Attractor
import Coprocessor.Kernel.Block
import Coprocessor.Packet.Basic
import Coprocessor.Storage.WriteWindow
import Coprocessor.Storage.Write

/-!
The commands of the core. A handler takes the request that was received and gives the response
to send back. It looks at the arguments of the request and at nothing else in it.

| request | arguments | response |
|---|---|---|
| knock | any words | their exclusive or |
| offload transform | 16 words of samples | 32 words of coefficients, or none if samples are missing |
| shared memory compute | image address | none, or a 1 where the image is refused |
| persistent write | address, length, data words | bytes written |

A persistent write that is refused is answered with zero bytes written, like a write of no bytes.
-/
namespace Coprocessor

/-- Argument of a shared memory response when the image was refused. -/
def refusedImage : UInt32 := 1

/-- Most data bytes of a persistent write, which also carries an address and a length. -/
def maxWriteData : Nat := (maxArgs - 2) * 4

/-- What the commands work on. -/
structure Commands (δ : Type) where
  storage : δ
  window : WriteWindow
  transform : Block8 Int8 → Block8 Int16
  generator : Painter
  arena : Arena

namespace Commands

variable {δ : Type}

def storagePart : Commands δ → δ × (δ → Commands δ)
  | ⟨storage, window, transform, generator, arena⟩ =>
    (storage, fun storage => ⟨storage, window, transform, generator, arena⟩)

def arenaPart : Commands δ → Arena × (Arena → Commands δ)
  | ⟨storage, window, transform, generator, arena⟩ =>
    (arena, fun arena => ⟨storage, window, transform, generator, arena⟩)

/-- A response that carries `args`. -/
def respond (r : Response) (args : List UInt32) : Packet :=
  { Packet.ofResponse r with data := Packet.buffer args, argLen := args.length.toUInt16 }

/-! ## The four commands -/

/-- Answers with the exclusive or of the arguments. -/
def knock (request : Packet) : Packet :=
  respond .knock [request.args.foldl (· ^^^ ·) 0]

/-- Transforms a block of samples. -/
def offloadTransform (request : Packet) : Act Trap (Commands δ) Packet := do
  match Block8.samplesOfWords request.args with
  | .error _ =>
    Act.log (.transformShort Block8.sampleWords request.argLen)
    return respond .offloadTransform []
  | .ok block =>
    let transform ← Act.gets Commands.transform
    return respond .offloadTransform (transform block).wordsOfCoefficients.toList

/-- Generates an image at an address inside the arena. -/
def sharedMemoryCompute (request : Packet) : Act Trap (Commands δ) Packet := do
  match request.args with
  | [] =>
    Act.log .imageUnaddressed
    return respond .sharedMemoryCompute [refusedImage]
  | addr :: _ =>
    Act.log (.imageStarted addr)
    let generator ← Act.gets Commands.generator
    match ← (Arena.withRegion addr 16384 generator.sure).within arenaPart with
    | .error e =>
      Act.log (.imageRefused addr e)
      return respond .sharedMemoryCompute [refusedImage]
    | .ok () => return respond .sharedMemoryCompute []

/-- The bytes of the data words of a write, in a buffer with room for the longest. -/
def writeBuffer (words : List UInt32) : Vector UInt8 504 :=
  Vector.ofFn fun i =>
    match words[i.val / 4]? with
    | some word => Word.byte word i.val
    | none => 0

/-- Address and data of a write that the window admits and whose data words are all there. -/
def parseWrite (window : WriteWindow) (args : List UInt32) :
    Except Failure (UInt32 × List UInt8) :=
  match args with
  | addr :: len :: words => do
    (window.validate addr len).mapError .error
    if words.length * 4 < len.toNat then
      .error (.error .validationFailure)
    else
      let data ← (slice (writeBuffer words).toList 0 len.toNat).mapError .trap
      return (addr, data)
  | _ => .error (.error .validationFailure)

/-- Writes bytes to persistent storage. -/
def persistentWrite [PageDevice δ] (request : Packet) : Act Trap (Commands δ) Packet := do
  let window ← Act.gets Commands.window
  match ← (Act.ofExcept id (parseWrite window request.args)).settle with
  | .error _ =>
    Act.log (.writeRefused request.args)
    return respond .persistentWrite [0]
  | .ok (addr, data) =>
    match ← (Storage.write addr data).settle.within storagePart with
    | .ok () => return respond .persistentWrite [data.length.toUInt32]
    | .error e =>
      Act.log (.writeFailed data.length addr e)
      return respond .persistentWrite [0]

/-- The handler of a request; an invalid request has none. -/
def handler? [PageDevice δ] : Request → Option (Packet → Act Trap (Commands δ) Packet)
  | .invalid => none
  | .knock => some fun request => pure (knock request)
  | .offloadTransform => some offloadTransform
  | .sharedMemoryCompute => some sharedMemoryCompute
  | .persistentWrite => some persistentWrite

end Commands

end Coprocessor
