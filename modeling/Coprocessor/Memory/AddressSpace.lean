import Coprocessor.Memory.Region

/-!
The address space that the memory-mapped hardware is in, and what an observer of it sees: at each
fence, which of the words under watch have changed since the fence before.
-/
namespace Coprocessor

structure AddressSpace where
  control : Region
  mailbox : Region
  storage : Region
  shared : Region
  interrupts : Region

namespace AddressSpace

def zero : AddressSpace where
  control := .zero 0x40000000 0x1000
  mailbox := .zero 0x40013000 0x1000
  storage := .zero 0x60000000 0x400000
  shared := .zero 0x61000000 0x100000
  interrupts := .zero 0xE000E000 0x1000

/-- The region that holds an address. -/
def region? (m : AddressSpace) (addr : UInt32) : Option Region :=
  if m.control.covers addr then some m.control
  else if m.mailbox.covers addr then some m.mailbox
  else if m.storage.covers addr then some m.storage
  else if m.shared.covers addr then some m.shared
  else if m.interrupts.covers addr then some m.interrupts
  else none

/-- Changes the region that holds an address. -/
def mapRegion (m : AddressSpace) (addr : UInt32) (f : Region → Region) : AddressSpace :=
  match m with
  | ⟨control, mailbox, storage, shared, interrupts⟩ =>
    if control.covers addr then ⟨f control, mailbox, storage, shared, interrupts⟩
    else if mailbox.covers addr then ⟨control, f mailbox, storage, shared, interrupts⟩
    else if storage.covers addr then ⟨control, mailbox, f storage, shared, interrupts⟩
    else if shared.covers addr then ⟨control, mailbox, storage, f shared, interrupts⟩
    else if interrupts.covers addr then ⟨control, mailbox, storage, shared, f interrupts⟩
    else ⟨control, mailbox, storage, shared, interrupts⟩

def peek (m : AddressSpace) (addr : UInt32) (len : Nat) : Array UInt8 :=
  match m.region? addr with
  | some r => r.bytes.extract (r.index addr) (r.index addr + len)
  | none => #[]

def word (m : AddressSpace) (addr : UInt32) : UInt32 :=
  match m.region? addr with
  | some r => r.word (r.index addr)
  | none => 0

def poke (m : AddressSpace) (addr : UInt32) (bytes : List UInt8) : AddressSpace :=
  m.mapRegion addr fun r => r.place (r.index addr) bytes

/-! ## Watching -/

/-- The addresses of `n` words from `addr` on. -/
def wordsFrom (addr : UInt32) (n : Nat) : List UInt32 :=
  (List.range n).map fun k => addr + 4 * k.toUInt32

/-- The words that are always watched: command mode, mailbox registers, interrupt controller. -/
def hardwareWords : List UInt32 :=
  wordsFrom 0x40000000 1 ++ wordsFrom 0x40013000 8 ++ wordsFrom 0xE000E100 256

/-- The words of the storage pages that `[addr, addr + n)` touches. -/
def pageWords (addr : UInt32) (n : Nat) : List UInt32 :=
  if n = 0 then []
  else
    let first := max 0x60000000 (addr.toNat / 32 * 32)
    let last := min 0x60400000 ((addr.toNat + n + 31) / 32 * 32)
    wordsFrom first.toUInt32 ((last - first) / 4)

/-- The words under watch, with the values last seen. -/
structure Watch where
  words : List (UInt32 × UInt32)

def watch (m : AddressSpace) (addrs : List UInt32) : Watch :=
  ⟨addrs.map fun a => (a, m.word a)⟩

/-- The watched words that have changed, with their new values. -/
def changes (m : AddressSpace) (w : Watch) : List (UInt32 × UInt32) :=
  w.words.filterMap fun (a, old) =>
    let new := m.word a
    if new = old then none else some (a, new)

/-- What a watch saw: the changes at each fence, and those after the last. -/
structure Observation where
  fences : List (List (UInt32 × UInt32))
  after : List (UInt32 × UInt32)

def Watch.addresses (w : Watch) : List UInt32 :=
  w.words.map Prod.fst

/-- Carries out the stores among `events`, watching words. -/
def replay (m : AddressSpace) (w : Watch) (seen : List (List (UInt32 × UInt32))) :
    List Event → Observation × AddressSpace
  | [] => (⟨seen.reverse, m.changes w⟩, m)
  | .stored addr bytes :: rest => replay (m.poke addr bytes) w seen rest
  | .fence :: rest => replay m (m.watch w.addresses) (m.changes w :: seen) rest
  | _ :: rest => replay m w seen rest

/-- Carries out the stores among `events` and gives what a watch of `addrs` saw of them. -/
def observe (m : AddressSpace) (addrs : List UInt32) (events : List Event) :
    Observation × AddressSpace :=
  m.replay (m.watch addrs) [] events

end AddressSpace

end Coprocessor
