import MachEmu.Controller
import Mathlib.Logic.Function.Basic

/-! The memory and the io controllers that the tests run machines with. A controller
is its own state here; a machine reaches it through the world that holds it. -/

namespace MachEmu

/-- A file that was opened: its size, and the bytes that can be read of it. -/
structure RomFile where
  size : Nat
  content : List Byte
deriving DecidableEq, Repr

structure MemoryController where
  memory : Word → Byte := fun _ => 0

namespace MemoryController

def memorySize : Nat := 1 <<< 16

def uuid : Uuid := #v[0xCD, 0x18, 0xD8, 0x67, 0xDD, 0xBF, 0x4D, 0xAA, 0xAD, 0x5A, 0xBA, 0x1C, 0xEB, 0xAE, 0xB0, 0x31]

def size (_ : MemoryController) : Nat := memorySize

/-- The bytes that were read, from `offset` on. -/
def store (read : List Byte) (offset : Word) (self : MemoryController) : MemoryController where
  memory addr := if offset ≤ addr then read.getD (addr.toNat - offset.toNat) (self.memory addr) else self.memory addr

/-- A program is loaded from a file; there is none where it failed to open. Its size is kept in 16 bits. -/
def load (romFile : Option RomFile) (offset : Word) : EStateM Fault MemoryController Unit := do
  match romFile with
  | none => throw (.exception "The program file failed to open")
  | some file =>
    if file.size > memorySize then throw (.exception "The length of the program is too big")
    let size : Word := BitVec.ofNat 16 file.size
    if size.toNat > memorySize - offset.toNat then
      throw (.exception "The length of the program is too big to fit at the specified offset")
    let read := file.content.take size.toNat
    modify (store read offset)
    if read.length < size.toNat then throw (.exception "The program specified failed to load")

def read (addr : Word) (self : MemoryController) : Byte := self.memory addr

def write (addr : Word) (data : Byte) (self : MemoryController) : MemoryController where
  memory := Function.update self.memory addr data

def clear (_ : MemoryController) : MemoryController where
  memory _ := 0

def serviceInterrupts (_ _ : BitVec 64) (_ : MemoryController) : ISR := .noInterrupt

end MemoryController

/-- The requests that wait for the next service, and the count of cycles at which to save. -/
structure BaseIoController where
  powerOff : Bool := false
  save : Bool := false
  load : Bool := false
  saveCycleCount : BitVec 64 := -1
deriving DecidableEq, Repr

namespace BaseIoController

def write (port : Word) (_ : Byte) (self : BaseIoController) : BaseIoController :=
  { self with powerOff := port == 0xFF, save := port == 0xFE, load := port == 0xFD }

/-- The count of cycles is compared without its sign. -/
def serviceInterrupts (_ cycles : BitVec 64) (self : BaseIoController) : ISR × BaseIoController :=
  if self.powerOff then (.quit, { self with powerOff := false })
  else if self.save || self.saveCycleCount == cycles then (.save, { self with save := false })
  else if self.load then (.load, { self with load := false })
  else (.noInterrupt, self)

end BaseIoController

structure TestIoController extends BaseIoController where
  lastTime : BitVec 64 := 0
  deviceData : Byte := 0xAA
deriving DecidableEq, Repr

namespace TestIoController

def uuid : Uuid := #v[0xD8, 0x62, 0xFA, 0xBD, 0xDE, 0xDD, 0x47, 0xB7, 0x8C, 0x38, 0xD0, 0xDE, 0xB5, 0xCC, 0x45, 0xBE]

def read (deviceNumber : Word) (self : TestIoController) : Byte :=
  if deviceNumber = 0 then self.deviceData else 0

def write (deviceNumber : Word) (value : Byte) (self : TestIoController) : TestIoController :=
  if deviceNumber = 0 then { self with deviceData := value }
  else { self with toBaseIoController := self.toBaseIoController.write deviceNumber value }

/-- `RST 1` every second. The difference of the times has no sign, so that it is never negative. -/
def serviceInterrupts (currTime cycles : BitVec 64) (self : TestIoController) : ISR × TestIoController :=
  let (isr, base) := self.toBaseIoController.serviceInterrupts currTime cycles
  let self := { self with toBaseIoController := base }
  if isr = .noInterrupt then
    let t := currTime - self.lastTime
    if t ≥ 0 then
      if t > 1000000000 then (.one, { self with lastTime := currTime }) else (isr, self)
    else (isr, { self with lastTime := currTime })
  else (isr, self)

end TestIoController

structure CpmIoController extends BaseIoController where
  message : List Byte := []
  printMode : Byte := 0
  addrHi : Byte := 0
deriving DecidableEq, Repr

namespace CpmIoController

def uuid : Uuid := #v[0x32, 0x8C, 0xCF, 0x78, 0x76, 0x1B, 0x48, 0xA4, 0x98, 0x2C, 0x1A, 0xAA, 0x5F, 0x14, 0x31, 0x24]

def read (_ : Word) (_ : CpmIoController) : Byte := 0

/-- The characters from an address up to the next `$`, if there is one among so many. -/
def characters (memory : Word → Byte) : Nat → Word → Option (List Byte)
  | 0, _ => none
  | fuel + 1, addr =>
    let aChar := memory addr
    if aChar = 0x24 then some [] else (aChar :: ·) <$> characters memory fuel (addr + 1)

/-- The bytes of the program come from its memory. Without a `$` in it the message grows until it cannot. -/
def write (memory : Word → Byte) (deviceNumber : Word) (value : Byte) (self : CpmIoController) :
    Except Fault CpmIoController :=
  if deviceNumber = 0 then return { self with printMode := value }
  else if deviceNumber = 1 then return { self with addrHi := value }
  else if deviceNumber = 2 then
    if self.printMode = 9 then
      match characters memory 0x10000 (self.addrHi ++ value) with
      | some text => return { self with message := self.message ++ text }
      | none => throw (.exception "std::bad_alloc")
    else if self.printMode = 2 then return { self with message := self.message ++ [value] }
    else return self
  else return { self with toBaseIoController := self.toBaseIoController.write deviceNumber value }

def serviceInterrupts (currTime cycles : BitVec 64) (self : CpmIoController) : ISR × CpmIoController :=
  let (isr, base) := self.toBaseIoController.serviceInterrupts currTime cycles
  (isr, { self with toBaseIoController := base })

end CpmIoController
end MachEmu
