import MachEmu.Proofs.Calls
import MachEmu.Proofs.Interrupts

/-! A cpu without buses, which calls the controllers itself. From clear lanes an
execution does what this cpu does, so that two executions on controllers that
answer alike are the same. -/

namespace MachEmu.Proofs.DirectCalls
open Machine Intel8080 BusTransactions BusDiscipline InstructionPrograms Programs ErrorState Interrupts Calls

variable {ω ν α : Type} {setup : Setup ω} {other : Setup ν}

def controller (setup : Setup ω) : Device → IController ω
  | .memory => setup.memoryController
  | .io => setup.ioController

def call (method : EStateM Fault ω α) : EStateM Fault (Intel8080 × ω) α := fun s =>
  match method s.2 with
  | .ok value world => .ok value (s.1, world)
  | .error fault world => .error fault (s.1, world)

/-- Bytes are asked from the controllers and told to them, and nothing is in between. -/
def direct (setup : Setup ω) : Interpretation Intel8080 Question Command Byte (EStateM Fault (Intel8080 × ω)) where
  look s := .ok s.1 s
  change f s := .ok () (f s.1, s.2)
  check := if setup.build.ndebug then pure () else throw .assertion
  ask question := call ((controller setup question.device).read question.addr)
  tell command := call ((controller setup command.device).write command.addr command.value)

section Buses

/-- The same registers and the same world, with clear lanes between them. -/
structure Bare (s : System ω) (t : Intel8080 × ω) : Prop where
  cpu : s.cpu = t.1
  world : s.world = t.2
  quiet : Quiet s.bus

theorem process_read (setup : Setup ω) (device : Device) (addr : Word) (data : Byte) (world : ω) :
    setup.wiring.process (⟨addr, data, 1#8 <<< device.readLane.lane⟩, world) =
      match (controller setup device).read addr world with
      | .ok value world => .ok () (⟨0#16, value, 0#8⟩, world)
      | .error fault world => .error fault (⟨0#16, data, 0#8⟩, world) := by
  cases device with
  | memory => exact process_memoryRead setup.build setup.memoryController setup.ioController addr data world
  | io => exact process_ioRead setup.build setup.memoryController setup.ioController addr data world

theorem process_write (setup : Setup ω) (device : Device) (addr : Word) (data : Byte) (world : ω) :
    setup.wiring.process (⟨addr, data, 1#8 <<< device.writeLane.lane⟩, world) =
      match (controller setup device).write addr data world with
      | .ok _ world => .ok () (⟨0#16, 0#8, 0#8⟩, world)
      | .error fault world => .error fault (⟨0#16, 0#8, 0#8⟩, world) := by
  cases device with
  | memory => exact process_memoryWrite setup.build setup.memoryController setup.ioController addr data world
  | io => exact process_ioWrite setup.build setup.memoryController setup.ioController addr data world

theorem ask_direct (question : Question) :
    Simulates Bare ((emulator setup.wiring).ask question) ((direct setup).ask question) := by
  rintro ⟨self, ⟨addr, data, control⟩, world⟩ ⟨_, _⟩ ⟨rfl, rfl, quiet⟩
  obtain rfl : control = 0#8 := quiet
  have primed : readFromAddress question.device.readLane question.addr setup.wiring ⟨self, ⟨addr, data, 0#8⟩, world⟩ =
      process setup.wiring ⟨self, ⟨question.addr, data, 1#8 <<< question.device.readLane.lane⟩, world⟩ :=
    readFromAddress_primed self addr question.addr data world setup.wiring _
  simp only [emulator, direct, call, bind_run, primed, process, process_read]
  cases (controller setup question.device).read question.addr world with
  | ok value world => exact ⟨rfl, rfl, rfl, rfl⟩
  | error fault world => exact ⟨rfl, rfl, rfl, rfl⟩

theorem tell_direct (command : Command) :
    Simulates Bare ((emulator setup.wiring).tell command) ((direct setup).tell command) := by
  rintro ⟨self, ⟨addr, data, control⟩, world⟩ ⟨_, _⟩ ⟨rfl, rfl, quiet⟩
  obtain rfl : control = 0#8 := quiet
  have primed : writeToAddress command.device.writeLane command.addr command.value setup.wiring ⟨self,
      ⟨addr, data, 0#8⟩, world⟩ =
      process setup.wiring ⟨self, ⟨command.addr, command.value, 1#8 <<< command.device.writeLane.lane⟩, world⟩ :=
    writeToAddress_primed self addr command.addr data command.value world setup.wiring _
  simp only [emulator, direct, call, primed, process, process_write]
  cases (controller setup command.device).write command.addr command.value world with
  | ok _ world => exact ⟨trivial, rfl, rfl, rfl⟩
  | error fault world => exact ⟨rfl, rfl, rfl, rfl⟩

theorem emulator_direct (setup : Setup ω) : (emulator setup.wiring).Simulates Bare (direct setup) where
  look _ _ same := ⟨same.cpu, same⟩
  change f _ _ same := ⟨rfl, congrArg f same.cpu, same.world, same.quiet⟩
  check := by
    change Simulates Bare (assert0 setup.wiring) _
    rw [assert0_eq]
    exact Simulates.ite (Simulates.pure ()) (Simulates.throw Fault.assertion)
  ask := ask_direct
  tell := tell_direct

end Buses

section Devices
variable {R : ω → ν → Prop}

/-- Controllers that answer alike, as long as their worlds are related. -/
structure Devices (R : ω → ν → Prop) (setup : Setup ω) (other : Setup ν) : Prop where
  build : setup.build = other.build
  reads : ∀ device addr, Simulates R ((controller setup device).read addr) ((controller other device).read addr)
  writes : ∀ device addr value, Simulates R ((controller setup device).write addr value)
    ((controller other device).write addr value)

def Hearing (R : ω → ν → Prop) (world : Listened ω) (other : Listened ν) : Prop := R world.1 other.1 ∧ world.2 = other.2

theorem heard_hearing (access : Except Fault α → Access) {x : EStateM Fault ω α} {y : EStateM Fault ν α}
    (simulates : Simulates R x y) : Simulates (Hearing R) (heard access x) (heard access y) := by
  rintro ⟨world, calls⟩ ⟨world', _⟩ ⟨related, rfl⟩
  cases ran : x world with
  | ok value after =>
    obtain ⟨last, again, related⟩ := simulates.ok related ran
    rw [heard_ok access calls ran, heard_ok access calls again]
    exact ⟨rfl, related, rfl⟩
  | error fault after =>
    obtain ⟨last, again, related⟩ := simulates.error related ran
    rw [heard_error access calls ran, heard_error access calls again]
    exact ⟨rfl, related, rfl⟩

theorem controller_listening (setup : Setup ω) (device : Device) :
    controller (listening setup) device = listen device (controller setup device) := by
  cases device <;> rfl

theorem Devices.listening (devices : Devices R setup other) : Devices (Hearing R) (listening setup) (listening other) where
  build := devices.build
  reads device addr := by
    rw [controller_listening, controller_listening]
    exact heard_hearing (.read device addr) (devices.reads device addr)
  writes device addr value := by
    rw [controller_listening, controller_listening]
    exact heard_hearing (.write device addr value) (devices.writes device addr value)

def Side (R : ω → ν → Prop) (s : Intel8080 × ω) (t : Intel8080 × ν) : Prop := s.1 = t.1 ∧ R s.2 t.2

theorem call_side {x : EStateM Fault ω α} {y : EStateM Fault ν α} (simulates : Simulates R x y) :
    Simulates (Side R) (call x) (call y) := by
  rintro ⟨self, world⟩ ⟨_, world'⟩ ⟨rfl, related⟩
  unfold call
  cases ran : x world with
  | ok value after =>
    obtain ⟨last, again, related⟩ := simulates.ok related ran
    rw [again]
    exact ⟨rfl, rfl, related⟩
  | error fault after =>
    obtain ⟨last, again, related⟩ := simulates.error related ran
    rw [again]
    exact ⟨rfl, rfl, related⟩

theorem direct_side (devices : Devices R setup other) : (direct setup).Simulates (Side R) (direct other) where
  look _ _ same := ⟨same.1, same⟩
  change f _ _ same := ⟨rfl, congrArg f same.1, same.2⟩
  check := by
    change Simulates _ (if setup.build.ndebug then _ else _) (if other.build.ndebug then _ else _)
    rw [devices.build]
    exact Simulates.ite (Simulates.pure ()) (Simulates.throw Fault.assertion)
  ask question := call_side (devices.reads question.device question.addr)
  tell command := call_side (devices.writes command.device command.addr command.value)

structure Beside (R : ω → ν → Prop) (s : System ω) (t : System ν) : Prop where
  cpu : s.cpu = t.cpu
  world : R s.world t.world
  quiet : Quiet s.bus ∧ Quiet t.bus

theorem dispatch_beside (devices : Devices R setup other) (isr : Option Byte) :
    Simulates (Beside R) (dispatch isr setup.wiring) (dispatch isr other.wiring) := by
  rw [dispatch_eq, dispatch_eq]
  have there := (emulator_direct setup).run (program isr)
  have across := (direct_side devices).run (program isr)
  have back := ((emulator_direct other).run (program isr)).symm
  refine (there.trans (across.trans back)).congr fun s t => ?_
  constructor
  · intro ⟨cpu, world, quiet, quiet'⟩
    exact ⟨(s.cpu, s.world), ⟨rfl, rfl, quiet⟩, (t.cpu, t.world), ⟨cpu, world⟩, rfl, rfl, quiet'⟩
  · intro ⟨_, bare, _, side, bare'⟩
    refine ⟨?_, ?_, bare.quiet, bare'.quiet⟩
    · rw [bare.cpu, bare'.cpu, side.1]
    · rw [bare.world, bare'.world]
      exact side.2

/-- The same registers but for the scratch, and related worlds, each behind clear lanes. -/
structure Facing (R : ω → ν → Prop) (s : System ω) (t : System ν) : Prop where
  cpu : visible s.cpu = visible t.cpu
  world : R s.world t.world
  quiet : Quiet s.bus ∧ Quiet t.bus

/-- The same ticks or the same fault, the same registers, and related worlds. -/
structure Matches (R : ω → ν → Prop) (seen : Observation ω) (again : Observation ν) : Prop where
  ticks : seen.ticks = again.ticks
  cpu : seen.cpu = again.cpu
  world : R seen.world again.world

theorem Simulates.matches {Q : System ω → System ν → Prop} {x : EStateM Fault (System ω) Byte}
    {y : EStateM Fault (System ν) Byte}
    {s : System ω} {t : System ν} (simulates : Simulates Q x y) (related : Q s t) (cpu : ∀ {s t}, Q s t → s.cpu = t.cpu)
    (world : ∀ {s t}, Q s t → R s.world t.world) : Matches R (observe (x s)) (observe (y t)) := by
  cases ran : x s with
  | ok ticks after =>
    obtain ⟨last, again, related⟩ := simulates.ok related ran
    rw [again]
    exact ⟨rfl, congrArg visible (cpu related), world related⟩
  | error fault after =>
    obtain ⟨last, again, related⟩ := simulates.error related ran
    rw [again]
    exact ⟨rfl, congrArg visible (cpu related), world related⟩

/-- Executions on controllers that answer alike match, unless an interrupt is acknowledged in only one. -/
theorem execute_matches (devices : Devices R setup other) {isr again : ISR} {s : System ω} {t : System ν}
    (facing : Facing R s t) (masked : isr.cpuLevel = again.cpuLevel ∨ s.cpu.iff = false) :
    Matches R (observe (execute setup.wiring (interrupted isr s)))
    (observe (execute other.wiring (interrupted again t))) := by
  obtain ⟨cpu, world, quiet, quiet'⟩ := facing
  have alike : Alike t { t with cpu := s.cpu } := ⟨cpu.symm, rfl, quiet', quiet'⟩
  have enabled : (visible s.cpu).iff = (visible t.cpu).iff := congrArg Intel8080.iff cpu
  change s.cpu.iff = t.cpu.iff at enabled
  rw [enabled] at masked
  obtain ⟨same, -⟩ : Agrees (execute other.wiring (interrupted again t))
    (execute other.wiring (interrupted isr { t with cpu := s.cpu })) :=
    execute_agrees alike (masked.imp_left Eq.symm)
  obtain ⟨bus, clear, ran⟩ := execute_interrupted setup.wiring isr quiet
  obtain ⟨bus', clear', ran'⟩ := execute_interrupted other.wiring isr (s := { t with cpu := s.cpu }) quiet'
  rw [same, ran, ran']
  exact Simulates.matches (dispatch_beside devices _) ⟨rfl, world, clear, clear'⟩ Beside.cpu Beside.world

end Devices
end MachEmu.Proofs.DirectCalls
