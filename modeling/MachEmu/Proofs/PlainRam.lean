import MachEmu.Proofs.BusTransactions
import MachEmu.Lib.Isa8080

/-! Instruction steps on a machine whose memory controller is plain RAM: what
each bus transaction does to the memory and to the io devices. -/

namespace MachEmu.Proofs.PlainRam
open Intel8080 BusTransactions

variable {δ : Type}

/-- An io controller that does not throw, over its own state `δ`. -/
structure Ports (δ : Type) where
  read : Word → δ → Byte × δ
  write : Word → Byte → δ → δ

/-- The device seen by the instruction set: ports are the low 256 addresses. -/
def Ports.device (io : Ports δ) : Isa8080.Device δ where
  input port := io.read (port.setWidth 16)
  output port := io.write (port.setWidth 16)

/-- The world of a machine with plain RAM: 64K of memory beside the io devices. -/
structure Ram (δ : Type) where
  mem : Word → Byte
  io : δ

def ramController (uuid : Uuid) : IController (Ram δ) where
  uuid := uuid
  read addr ram := .ok (ram.mem addr) ram
  write addr value ram := .ok () { ram with mem := Function.update ram.mem addr value }
  serviceInterrupts _ _ ram := .ok .noInterrupt ram

def portController (io : Ports δ) : IController (Ram δ) where
  read addr ram := .ok (io.read addr ram.io).1 { ram with io := (io.read addr ram.io).2 }
  write addr value ram := .ok () { ram with io := io.write addr value ram.io }
  serviceInterrupts _ _ ram := .ok .noInterrupt ram

/-- The ports together with a source of interrupts. -/
def deviceController (io : Ports δ) (service : BitVec 64 → BitVec 64 → δ → ISR × δ) : IController (Ram δ) where
  read := (portController io).read
  write := (portController io).write
  serviceInterrupts currTime cycles ram :=
    .ok (service currTime cycles ram.io).1 { ram with io := (service currTime cycles ram.io).2 }

def ramWiring (build : Build) (uuid : Uuid) (io : Ports δ) : Wiring (Ram δ) :=
  wiring build (ramController uuid) (portController io)

variable (build : Build) (uuid : Uuid) (io : Ports δ) (self : Intel8080) (addr location : Word) (data value : Byte)
  (mem : Word → Byte) (state : δ)

@[simp] theorem ram_readFromAddress_memory :
    readFromAddress .memoryRead location (ramWiring build uuid io) ⟨self, ⟨addr, data, 0#8⟩, ⟨mem, state⟩⟩ =
      .ok () ⟨self, ⟨0#16, mem location, 0#8⟩, ⟨mem, state⟩⟩ :=
  BusTransactions.readFromAddress_memory ..

@[simp] theorem ram_writeToAddress_memory :
    writeToAddress .memoryWrite location value (ramWiring build uuid io) ⟨self, ⟨addr, data, 0#8⟩, ⟨mem, state⟩⟩ =
      .ok () ⟨self, ⟨0#16, 0#8, 0#8⟩, ⟨Function.update mem location value, state⟩⟩ :=
  BusTransactions.writeToAddress_memory ..

@[simp] theorem ram_readFromAddress_io :
    readFromAddress .ioRead location (ramWiring build uuid io) ⟨self, ⟨addr, data, 0#8⟩, ⟨mem, state⟩⟩ =
      .ok () ⟨self, ⟨0#16, (io.read location state).1, 0#8⟩, ⟨mem, (io.read location state).2⟩⟩ :=
  BusTransactions.readFromAddress_io ..

@[simp] theorem ram_writeToAddress_io :
    writeToAddress .ioWrite location value (ramWiring build uuid io) ⟨self, ⟨addr, data, 0#8⟩, ⟨mem, state⟩⟩ =
      .ok () ⟨self, ⟨0#16, 0#8, 0#8⟩, ⟨mem, io.write location value state⟩⟩ :=
  BusTransactions.writeToAddress_io ..

end MachEmu.Proofs.PlainRam
