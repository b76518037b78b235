import MachEmu.Machine.ProcessControllers

/-! One bus transaction is one controller call. These rules hold for arbitrary
controllers, including ones that throw, and let later proofs execute the
instruction helpers without looking at the buses again. -/

namespace MachEmu.Proofs.BusTransactions
open Intel8080

variable {ω α β : Type}

section Cpu
variable (w : Wiring ω) (s : System ω)

@[simp] theorem bind_run (x : CpuM ω α) (f : α → CpuM ω β) :
    (x >>= f) w s = match x w s with
      | .ok value after => f value w after
      | .error fault after => .error fault after := by
  cases ran : x w s <;> simp [bind, ReaderT.bind, EStateM.bind, ran]

@[simp] theorem pure_run (value : α) : (pure value : CpuM ω α) w s = .ok value s := rfl

@[simp] theorem map_run (f : α → β) (x : CpuM ω α) :
    (f <$> x) w s = match x w s with
      | .ok value after => .ok (f value) after
      | .error fault after => .error fault after := by
  cases ran : x w s <;> simp [Functor.map, EStateM.map, ran]

@[simp] theorem ite_run (c : Prop) [Decidable c] (x y : CpuM ω α) :
    (if c then x else y) w s = if c then x w s else y w s := by
  split <;> rfl

@[simp] theorem cpu_run : (cpu : CpuM ω Intel8080) w s = .ok s.cpu s := rfl

@[simp] theorem modifyCpu_run (f : Intel8080 → Intel8080) :
    (modifyCpu f : CpuM ω Unit) w s = .ok () { s with cpu := f s.cpu } := rfl

@[simp] theorem onBus_run (f : SystemBus → α × SystemBus) :
    (onBus f : CpuM ω α) w s = .ok (f s.bus).1 { s with bus := (f s.bus).2 } := rfl

@[simp] theorem incPc_run :
    (incPc : CpuM ω Word) w s = .ok (s.cpu.pc + 1) { s with cpu := { s.cpu with pc := s.cpu.pc + 1 } } := by
  simp [incPc]

@[simp] theorem nextPc_run :
    (nextPc : CpuM ω Unit) w s = .ok () { s with cpu := { s.cpu with pc := s.cpu.pc + 1 } } := rfl

@[simp] theorem postIncSp_run :
    (postIncSp : CpuM ω Word) w s = .ok s.cpu.sp { s with cpu := { s.cpu with sp := s.cpu.sp + 1 } } := by
  simp [postIncSp]

@[simp] theorem decSp_run :
    (decSp : CpuM ω Word) w s = .ok (s.cpu.sp + 0xFFFF) { s with cpu := { s.cpu with sp := s.cpu.sp + 0xFFFF } } := by
  simp [decSp]

@[simp] theorem setReg_run (r : Register) (value : Byte) :
    (setReg r value : CpuM ω Unit) w s = .ok () { s with cpu := s.cpu.set r value } := rfl

@[simp] theorem receive_run :
    (receive : CpuM ω Byte) w s = .ok s.bus.dataBus { s with bus := { s.bus with dataBus := 0 } } := rfl

end Cpu

section Dispatch
variable (s : SystemBus × ω)

private theorem dispatch_bind_run (x : EStateM Fault (SystemBus × ω) α) (f : α → EStateM Fault (SystemBus × ω) β) :
    (x >>= f) s = match x s with
      | .ok value after => f value after
      | .error fault after => .error fault after := by
  cases ran : x s <;> simp [bind, EStateM.bind, ran]

private theorem dispatch_pure_run (value : α) : (pure value : EStateM Fault (SystemBus × ω) α) s = .ok value s := rfl

end Dispatch

/-- The lanes an instruction drives are all clear. -/
abbrev Quiet (bus : SystemBus) : Prop := bus.controlBus = 0

variable (build : Build) (memory io : IController ω) (self : Intel8080) (addr location : Word) (data value : Byte)
  (world : ω)

def wiring : Wiring ω where
  build := build
  process := Machine.processControllers { memoryController := some memory, ioController := some io }

section Process

theorem process_memoryRead :
    (wiring build memory io).process (⟨addr, data, 1#8 <<< Signal.memoryRead.lane⟩, world) =
      match memory.read addr world with
      | .ok value world => .ok () (⟨0#16, value, 0#8⟩, world)
      | .error fault world => .error fault (⟨0#16, data, 0#8⟩, world) := by
  cases called : memory.read addr world <;>
    simp [wiring, Machine.processControllers, Machine.serve, dispatch_bind_run, dispatch_pure_run, Machine.onBus,
      Machine.callController, ControlBus.receive, AddressBus.receive, DataBus.send, Signal.lane, called]

theorem process_ioRead :
    (wiring build memory io).process (⟨addr, data, 1#8 <<< Signal.ioRead.lane⟩, world) =
      match io.read addr world with
      | .ok value world => .ok () (⟨0#16, value, 0#8⟩, world)
      | .error fault world => .error fault (⟨0#16, data, 0#8⟩, world) := by
  cases called : io.read addr world <;>
    simp [wiring, Machine.processControllers, Machine.serve, dispatch_bind_run, dispatch_pure_run, Machine.onBus,
      Machine.callController, ControlBus.receive, AddressBus.receive, DataBus.send, Signal.lane, called]

theorem process_memoryWrite :
    (wiring build memory io).process (⟨addr, data, 1#8 <<< Signal.memoryWrite.lane⟩, world) =
      match memory.write addr data world with
      | .ok _ world => .ok () (⟨0#16, 0#8, 0#8⟩, world)
      | .error fault world => .error fault (⟨0#16, 0#8, 0#8⟩, world) := by
  cases called : memory.write addr data world <;>
    simp [wiring, Machine.processControllers, Machine.serve, dispatch_bind_run, dispatch_pure_run, Machine.onBus,
      Machine.callController, ControlBus.receive, AddressBus.receive, DataBus.receive, Signal.lane, called]

theorem process_ioWrite :
    (wiring build memory io).process (⟨addr, data, 1#8 <<< Signal.ioWrite.lane⟩, world) =
      match io.write addr data world with
      | .ok _ world => .ok () (⟨0#16, 0#8, 0#8⟩, world)
      | .error fault world => .error fault (⟨0#16, 0#8, 0#8⟩, world) := by
  cases called : io.write addr data world <;>
    simp [wiring, Machine.processControllers, Machine.serve, dispatch_bind_run, dispatch_pure_run, Machine.onBus,
      Machine.callController, ControlBus.receive, AddressBus.receive, DataBus.receive, Signal.lane, called]

/-- From clear lanes, exactly the lane of the transfer is set when the controllers are called. -/
theorem readFromAddress_primed (w : Wiring ω) (lane : Signal) :
    readFromAddress lane location w ⟨self, ⟨addr, data, 0#8⟩, world⟩ =
      process w ⟨self, ⟨location, data, 1#8 <<< lane.lane⟩, world⟩ := by
  simp [readFromAddress, ControlBus.send, AddressBus.send]

theorem writeToAddress_primed (w : Wiring ω) (lane : Signal) :
    writeToAddress lane location value w ⟨self, ⟨addr, data, 0#8⟩, world⟩ =
      process w ⟨self, ⟨location, value, 1#8 <<< lane.lane⟩, world⟩ := by
  simp [writeToAddress, ControlBus.send, AddressBus.send, DataBus.send]

end Process

theorem readFromAddress_memory :
    readFromAddress .memoryRead location (wiring build memory io) ⟨self, ⟨addr, data, 0#8⟩, world⟩ =
      match memory.read location world with
      | .ok value world => .ok () ⟨self, ⟨0#16, value, 0#8⟩, world⟩
      | .error fault world => .error fault ⟨self, ⟨0#16, data, 0#8⟩, world⟩ := by
  rw [readFromAddress_primed, process, process_memoryRead]
  cases memory.read location world <;> rfl

theorem readFromAddress_io :
    readFromAddress .ioRead location (wiring build memory io) ⟨self, ⟨addr, data, 0#8⟩, world⟩ =
      match io.read location world with
      | .ok value world => .ok () ⟨self, ⟨0#16, value, 0#8⟩, world⟩
      | .error fault world => .error fault ⟨self, ⟨0#16, data, 0#8⟩, world⟩ := by
  rw [readFromAddress_primed, process, process_ioRead]
  cases io.read location world <;> rfl

theorem writeToAddress_memory :
    writeToAddress .memoryWrite location value (wiring build memory io) ⟨self, ⟨addr, data, 0#8⟩, world⟩ =
      match memory.write location value world with
      | .ok _ world => .ok () ⟨self, ⟨0#16, 0#8, 0#8⟩, world⟩
      | .error fault world => .error fault ⟨self, ⟨0#16, 0#8, 0#8⟩, world⟩ := by
  rw [writeToAddress_primed, process, process_memoryWrite]
  cases memory.write location value world <;> rfl

theorem writeToAddress_io :
    writeToAddress .ioWrite location value (wiring build memory io) ⟨self, ⟨addr, data, 0#8⟩, world⟩ =
      match io.write location value world with
      | .ok _ world => .ok () ⟨self, ⟨0#16, 0#8, 0#8⟩, world⟩
      | .error fault world => .error fault ⟨self, ⟨0#16, 0#8, 0#8⟩, world⟩ := by
  rw [writeToAddress_primed, process, process_ioWrite]
  cases io.write location value world <;> rfl

end MachEmu.Proofs.BusTransactions
