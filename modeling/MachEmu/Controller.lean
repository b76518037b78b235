import MachEmu.SystemBus

/-! Memory and io devices. A controller acts on the world `ω` outside the
emulated cpu, and any of its methods can throw. -/

namespace MachEmu

structure IController (ω : Type) where
  uuid : Uuid := Vector.replicate 16 0
  read : Word → EStateM Fault ω Byte
  write : Word → Byte → EStateM Fault ω Unit
  serviceInterrupts : (currTime cycles : BitVec 64) → EStateM Fault ω ISR

/-- The two controllers of a machine; either pointer can still be null. -/
structure Controllers (ω : Type) where
  memoryController : Option (IController ω) := none
  ioController : Option (IController ω) := none

end MachEmu
