import Coprocessor.Storage.Device

/-!
Writing bytes of any number to any address of a page device. The first and the last page may be
covered in part, so they are read, overlaid and committed on their own. The whole pages between
them are loaded and committed a block at a time. Nothing makes the sequence atomic: where it
fails, the pages committed so far stay written.
-/
namespace Coprocessor.Storage

variable {δ : Type} [PageDevice δ]

/-- A device operation, which reports errors and cannot trap. -/
def onDevice {α : Type} (x : Act Error δ α) : Act Failure δ α :=
  x.mapFailure .error

/-- A computation that may trap. -/
def checked {α : Type} (x : Except Trap α) : Act Failure δ α :=
  .ofExcept .trap x

/-- Overlays part of one page and commits it at once. -/
def patchPage (pageAddr : UInt32) (offset : Nat) (bytes : List UInt8) : Act Failure δ Unit := do
  let page ← onDevice (PageDevice.read pageAddr pageSize)
  let merged ← checked (Page.overlay page offset bytes)
  onDevice (PageDevice.load pageAddr merged)
  onDevice (PageDevice.commit pageAddr)

/-- Whether the page after `pageAddr` begins a block. -/
def endsBlock (pageAddr : UInt32) : Bool :=
  (pageAddr.toNat + pageSize) % blockSize == 0

/-- Writes `n` whole pages and then the bytes left. `batch` is the first page loaded and not yet
committed. -/
def writePages : Nat → UInt32 → Option UInt32 → List UInt8 → Act Failure δ Unit
  | 0, pageAddr, batch, bytes => do
    match batch with
    | some first => onDevice (PageDevice.commit first)
    | none => pure ()
    if bytes.isEmpty then pure () else patchPage pageAddr 0 bytes
  | n + 1, pageAddr, batch, bytes => do
    onDevice (PageDevice.load pageAddr (Page.ofBytes (bytes.take pageSize)))
    let first := batch.getD pageAddr
    if endsBlock pageAddr then onDevice (PageDevice.commit first)
    let next ← checked (checkedAdd pageAddr 32)
    writePages n next (if endsBlock pageAddr then none else some first) (bytes.drop pageSize)

/-- Whole pages before the last one of `len` bytes that start at a page address. The last page
is never one of them, even when it is full. -/
def wholePages (len : Nat) : Nat :=
  (len - 1) / pageSize

/-- Lets pass a range that fits in 32-bit addresses and lies inside the device. The length is
counted in a word, and wraps where it does not fit in one. -/
def checkRange (addr : UInt32) (len : Nat) : Act Failure δ Unit := do
  let (start, finish) ← checked (← Act.gets PageDevice.range)
  match checkedAdd addr len.toUInt32 with
  | .error _ => Act.fail .storage
  | .ok last =>
    if addr < start ∨ finish < last then
      Act.log (.writeOutsideDevice addr len)
      Act.fail .storage
    else
      pure ()

/-- Writes `data` at `addr` page by page, from the page that holds `addr` on. -/
def writeFrom (addr : UInt32) (data : List UInt8) : Act Failure δ Unit := do
  let offset := addr.toNat % pageSize
  let firstLen := min (pageSize - offset) data.length
  let pageAddr := addr - offset.toUInt32
  let leading ← checked (slice data 0 firstLen)
  patchPage pageAddr offset leading
  let next ← checked (checkedAdd pageAddr 32)
  let rest := data.drop firstLen
  writePages (wholePages rest.length) next none rest

/-- Writes `data` at `addr`. No data is no write. -/
def write (addr : UInt32) (data : List UInt8) : Act Failure δ Unit :=
  match data with
  | [] => pure ()
  | _ :: _ => do
    checkRange addr data.length
    writeFrom addr data
    Act.log (.bytesStored data.length addr)

end Coprocessor.Storage
