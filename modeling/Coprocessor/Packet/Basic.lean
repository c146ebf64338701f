import Coprocessor.Packet.Opcode

/-!
Packets: what one exchange over the mailbox carries. On the wire a packet is its version word,
a header word with the opcode in the low half and the argument length in the high half, and the
argument words.
-/
namespace Coprocessor

/-- Most argument words of a packet. -/
def maxArgs : Nat := 128

/-- Protocol revision, the first word of every packet that this library makes. -/
def protocolRevision : UInt32 := 0

/-- One packet. Only the first `argLen` words of `data` carry meaning; `argLen` may exceed the
buffer, as a packet made by hand may say anything. -/
structure Packet where
  version : UInt32
  opcode : UInt16
  argLen : UInt16
  data : Vector UInt32 128
  deriving DecidableEq

/-! ## The header word -/

/-- The header word of a packet. -/
def packHeader (opcode argLen : UInt16) : UInt32 :=
  opcode.toUInt32 ||| (argLen.toUInt32 <<< 16)

/-- Opcode and argument length of a header word. -/
def unpackHeader (word : UInt32) : UInt16 × UInt16 :=
  (word.toUInt16, (word >>> 16).toUInt16)

theorem unpackHeader_packHeader (opcode argLen : UInt16) :
    unpackHeader (packHeader opcode argLen) = (opcode, argLen) := by
  simp only [unpackHeader, packHeader, Prod.mk.injEq]
  constructor
  · apply UInt16.toBitVec_inj.1
    apply BitVec.eq_of_getLsbD_eq
    intro i hi
    simp
  · apply UInt16.toBitVec_inj.1
    apply BitVec.eq_of_getLsbD_eq
    intro i hi
    simp
    grind

/-- The number of argument words that a packet declares, if a packet can hold as many. -/
def argCount (argLen : UInt16) : Except Error Nat :=
  if argLen.toNat ≤ maxArgs then .ok argLen.toNat else .error .invalidLength

theorem argCount_eq_ok_iff {argLen : UInt16} {n : Nat} :
    argCount argLen = .ok n ↔ argLen.toNat ≤ maxArgs ∧ argLen.toNat = n := by
  refine ⟨fun h => ?_, fun ⟨fits, count⟩ => count ▸ if_pos fits⟩
  simp only [argCount] at h
  split at h
  · next fits => exact ⟨fits, Except.ok.inj h⟩
  · cases h

namespace Packet

/-- A packet with the current revision, no arguments and a zero buffer. -/
def new (opcode : UInt16) : Packet :=
  { version := protocolRevision, opcode, argLen := 0, data := Vector.replicate 128 0 }

/-- A request without arguments. -/
def ofRequest (r : Request) : Packet := new r.code

/-- A response without arguments. -/
def ofResponse (r : Response) : Packet := new r.code

/-- A packet with every field zero, as a buffer to receive into. -/
def empty : Packet :=
  { version := 0, opcode := 0, argLen := 0, data := Vector.replicate 128 0 }

/-- The buffer that begins with `words` and is zero after them; words past the end are dropped. -/
def buffer (words : List UInt32) : Vector UInt32 128 :=
  Vector.ofFn fun i => words[i.val]?.getD 0

/-- A packet that carries `args`, if they fit. -/
def ofArgs (opcode : UInt16) (args : List UInt32) : Except Error Packet :=
  if args.length ≤ maxArgs then
    .ok { new opcode with data := buffer args, argLen := args.length.toUInt16 }
  else
    .error .invalidLength

/-- The argument words: as many as declared, and never more than the buffer holds. -/
def args (p : Packet) : List UInt32 :=
  p.data.toList.take (min p.argLen.toNat maxArgs)

/-- The header word: opcode in the low half, argument length in the high half. -/
def header (p : Packet) : UInt32 :=
  packHeader p.opcode p.argLen

/-- The opcode as a request. -/
def toRequest (p : Packet) : Except Error Request :=
  Request.ofCode p.opcode

/-- The opcode as a response. -/
def toResponse (p : Packet) : Except Error Response :=
  Response.ofCode p.opcode

/-- The wire form: version, header and argument words. -/
def wire (p : Packet) : List UInt32 :=
  p.version :: p.header :: p.args

/-- The words of the buffer that are not arguments and not zero, with their index. -/
def tail (p : Packet) : List (Nat × UInt32) :=
  (p.data.toList.zipIdx.drop p.args.length).filterMap fun (w, i) =>
    if w = 0 then none else some (i, w)

/-- The packet with the words of `words` placed at the start of its buffer. -/
def setPrefix (p : Packet) (words : List UInt32) : Packet :=
  { p with data := Vector.ofFn fun i => words[i.val]?.getD p.data[i] }

theorem length_args (p : Packet) : p.args.length = min p.argLen.toNat maxArgs := by
  simp [args, maxArgs]

theorem length_args_le (p : Packet) : p.args.length ≤ maxArgs := by
  rw [length_args]
  exact Nat.min_le_right ..

theorem length_wire (p : Packet) : p.wire.length = 2 + min p.argLen.toNat maxArgs := by
  simp [wire, length_args]
  omega

@[simp] theorem args_new (opcode : UInt16) : (new opcode).args = [] :=
  rfl

@[simp] theorem args_empty : empty.args = [] :=
  rfl

/-- Words that fit are found at the start of their buffer. -/
theorem take_buffer {words : List UInt32} (h : words.length ≤ maxArgs) :
    (buffer words).toList.take words.length = words := by
  simp only [maxArgs] at h
  apply List.ext_getElem
  · simp [h]
  · intro i h₁ h₂
    simp [buffer, h₂]

/-- A packet is made only if the arguments fit, and then carries them. -/
theorem args_ofArgs {opcode : UInt16} {words : List UInt32} {p : Packet}
    (h : ofArgs opcode words = .ok p) : p.args = words := by
  simp only [ofArgs] at h
  split at h
  · next fits =>
    cases h
    have small : words.length < 65536 := Nat.lt_of_le_of_lt fits (by decide)
    simp only [args, Nat.toUInt16_eq, UInt16.toNat_ofNat', Nat.mod_eq_of_lt small,
      Nat.min_eq_left fits]
    exact take_buffer fits
  · cases h

theorem ofArgs_eq_error_iff {opcode : UInt16} {words : List UInt32} {e : Error} :
    ofArgs opcode words = .error e ↔ maxArgs < words.length ∧ .invalidLength = e := by
  refine ⟨fun h => ?_, fun ⟨long, cause⟩ => cause ▸ if_neg (Nat.not_le.mpr long)⟩
  simp only [ofArgs] at h
  split at h
  · cases h
  · next long => exact ⟨Nat.not_le.mp long, Except.error.inj h⟩

end Packet

end Coprocessor
