import MachEmu.Base

/-! The three buses that connect the cpu to the controllers. Receiving consumes:
the address and data buses fall back to zero and a control lane is released. -/

namespace MachEmu

inductive Signal where
  | clock | interrupt | powerOn | powerOff | memoryRead | memoryWrite | ioRead | ioWrite
deriving DecidableEq, Repr

/-- The lane of a signal, as an index into `std::bitset<8>`. -/
def Signal.lane : Signal → Nat
  | clock => 0
  | interrupt => 1
  | powerOn => 2
  | powerOff => 3
  | memoryRead => 4
  | memoryWrite => 5
  | ioRead => 6
  | ioWrite => 7

structure SystemBus where
  addressBus : Word := 0
  dataBus : Byte := 0
  controlBus : BitVec 8 := 0
deriving DecidableEq, Repr

namespace AddressBus

def send (addr : Word) (bus : SystemBus) : SystemBus := { bus with addressBus := addr }

def receive (bus : SystemBus) : Word × SystemBus := (bus.addressBus, { bus with addressBus := 0 })

end AddressBus

namespace DataBus

def send (data : Byte) (bus : SystemBus) : SystemBus := { bus with dataBus := data }

def receive (bus : SystemBus) : Byte × SystemBus := (bus.dataBus, { bus with dataBus := 0 })

end DataBus

namespace ControlBus

def send (signal : Signal) (bus : SystemBus) : SystemBus :=
  { bus with controlBus := bus.controlBus ||| 1#8 <<< signal.lane }

def receive (signal : Signal) (bus : SystemBus) : Bool × SystemBus :=
  (bus.controlBus.getLsbD signal.lane, { bus with controlBus := bus.controlBus &&& ~~~(1#8 <<< signal.lane) })

end ControlBus
end MachEmu
