import MachEmu.Cpu

/-! Dispatch of a primed bus to the controllers. -/

namespace MachEmu.Machine

variable {ω : Type}

/-- Call out to a controller, which sees the world but not the buses. -/
def callController {α : Type} (method : EStateM Fault ω α) : EStateM Fault (SystemBus × ω) α := fun (bus, world) =>
  match method world with
  | .ok value world => .ok value (bus, world)
  | .error fault world => .error fault (bus, world)

def onBus {α : Type} (f : SystemBus → α × SystemBus) : EStateM Fault (SystemBus × ω) α := fun (bus, world) =>
  .ok (f bus).1 ((f bus).2, world)

/-- Serve one controller on its read and write lanes. A null controller leaves the lanes as they are. -/
def serve (controller : Option (IController ω)) (readLane writeLane : Signal) :
    EStateM Fault (SystemBus × ω) Unit :=
  match controller with
  | none => return ()
  | some controller => do
    if ← onBus (ControlBus.receive readLane) then
      let addr ← onBus AddressBus.receive
      let data ← callController (controller.read addr)
      onBus fun bus => ((), DataBus.send data bus)
    if ← onBus (ControlBus.receive writeLane) then
      let addr ← onBus AddressBus.receive
      let data ← onBus DataBus.receive
      callController (controller.write addr data)

def processControllers (controllers : Controllers ω) : EStateM Fault (SystemBus × ω) Unit := do
  serve controllers.memoryController .memoryRead .memoryWrite
  serve controllers.ioController .ioRead .ioWrite

end MachEmu.Machine
