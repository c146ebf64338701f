import Coprocessor.Act
import Coprocessor.Bytes

/-!
Storage that can only be programmed a page at a time: a page is loaded into the device, and
loaded pages are committed together. The pages of one commit lie in one block.
-/
namespace Coprocessor

/-- Bytes of the smallest unit that can be programmed. -/
def pageSize : Nat := 32

/-- Most pages loaded ahead of one commit. -/
def blockPages : Nat := 32

def blockSize : Nat := pageSize * blockPages

abbrev Page : Type :=
  Vector UInt8 32

/-- A page with `bytes` placed at `offset`, or the trap where they leave the page. -/
def Page.overlay (page : Page) (offset : Nat) (bytes : List UInt8) : Except Trap Page :=
  if offset + bytes.length ≤ pageSize then
    .ok (Vector.ofFn fun i =>
      if offset ≤ i.val then bytes[i.val - offset]?.getD page[i] else page[i])
  else
    .error .outOfBounds

/-- The page that starts with `bytes` and is zero after them. -/
def Page.ofBytes (bytes : List UInt8) : Page :=
  Vector.ofFn fun i => bytes[i.val]?.getD 0

class PageDevice (δ : Type) where
  /-- First address, and the address past the last. -/
  range : δ → Except Trap (UInt32 × UInt32)
  /-- Reads bytes at any address. -/
  read : UInt32 → (len : Nat) → Act Error δ (Vector UInt8 len)
  /-- Loads a page at a page address, ready to be committed. -/
  load : UInt32 → Page → Act Error δ Unit
  /-- Programs every page loaded since the last commit. The address is that of the first. -/
  commit : UInt32 → Act Error δ Unit

end Coprocessor
