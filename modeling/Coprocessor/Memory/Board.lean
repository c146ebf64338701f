import Coprocessor.Firmware
import Coprocessor.Kernel.CosineTransform
import Coprocessor.Memory.AddressSpace
import Coprocessor.Memory.MappedMailbox
import Coprocessor.Memory.MappedStorage
import Coprocessor.Memory.Nvic

/-!
The firmware as it is built for the core: over memory-mapped hardware, in an address space.
-/
namespace Coprocessor

structure BoardSettings where
  /-- Priority of both mailbox interrupts. -/
  irqPriority : UInt8
  window : WriteWindow
  arenaBase : UInt32
  arenaSize : Nat

def BoardSettings.default : BoardSettings where
  irqPriority := 1
  window := .default
  arenaBase := Arena.defaultBase
  arenaSize := Arena.defaultSize

/-- The firmware over memory-mapped hardware. -/
abbrev BoardFirmware : Type :=
  Firmware MappedMailbox Nvic MappedStorage

namespace AddressSpace

/-- The `size` bytes from `base` on, as a shared arena. -/
def arena (m : AddressSpace) (base : UInt32) (size : Nat) : Arena :=
  ⟨base, m.peek base size⟩

def mappedMailbox (m : AddressSpace) : MappedMailbox := ⟨m.mailbox⟩

def nvic (m : AddressSpace) : Nvic := ⟨m.interrupts⟩

def mappedStorage (m : AddressSpace) : MappedStorage := ⟨m.control, m.storage⟩

end AddressSpace

namespace BoardFirmware

/-- Firmware for these settings, over the hardware in `m`. -/
def build (settings : BoardSettings) (m : AddressSpace) : BoardFirmware :=
  Firmware.new m.mappedMailbox m.nvic
    { storage := m.mappedStorage
      window := settings.window
      transform := CosineTransform.transform
      generator := Attractor.generate Attractor.defaultIterations
      arena := m.arena settings.arenaBase settings.arenaSize }

/-- The firmware once more over the hardware in `m`, everything else being kept. -/
def attach (f : BoardFirmware) (m : AddressSpace) : BoardFirmware :=
  { f with
    mailbox := m.mappedMailbox
    controller := m.nvic
    commands := { f.commands with
      storage := m.mappedStorage
      arena := m.arena f.commands.arena.base f.commands.arena.mem.size } }

end BoardFirmware

/-! ## Running in the address space -/

namespace AddressSpace

/-- Places bytes at `addr`, as a store that an observer sees. -/
def store (addr : UInt32) (bytes : List UInt8) : Act Empty AddressSpace Unit := do
  Act.emit (.stored addr bytes)
  Act.modify (·.poke addr bytes)

/-- Runs an action on hardware in the address space; what it stores lands there. -/
def onHardware {σ ε α : Type} (hardware : AddressSpace → σ) (x : Act ε σ α) :
    Act ε AddressSpace α := fun m =>
  match x (hardware m) with
  | ⟨result, _, events⟩ => ⟨result, (m.observe [] events).2, events⟩

end AddressSpace

/-- An address space, and the firmware in it once it has been built. -/
structure Board where
  memory : AddressSpace
  firmware : Option BoardFirmware

namespace Board

def zero : Board := ⟨.zero, none⟩

def memoryPart : Board → AddressSpace × (AddressSpace → Board)
  | ⟨memory, firmware⟩ => (memory, fun memory => ⟨memory, firmware⟩)

/-- Runs an action on the firmware, which is built for `settings` at its first use. -/
def onFirmware {ε α : Type} (settings : BoardSettings) (x : Act ε BoardFirmware α) :
    Act ε Board α := fun b =>
  let (firmware, before) := match b.firmware with
    | some f => (BoardFirmware.attach f b.memory, [])
    | none =>
      let f := BoardFirmware.build settings b.memory
      (f, [f.commands.arena.registered])
  match x firmware with
  | ⟨result, firmware, events⟩ =>
    ⟨result, ⟨(b.memory.observe [] events).2, some firmware⟩, before ++ events⟩

end Board

end Coprocessor
