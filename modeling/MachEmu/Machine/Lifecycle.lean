import MachEmu.Lib.Traces
import MachEmu.Machine.Loop

/-! A machine as it is used from outside: configured, run and waited for. Calls
come one at a time. The loop of an asynchronous run goes on beside them, and the
call that waits for it follows the loop to its end. -/

namespace MachEmu
open SteadyClock

structure Machine (ω : Type) where
  sys : System ω
  clock : CpuClock
  opt : Opt
  memoryController : Option (IController ω) := none
  ioController : Option (IController ω) := none
  ticksPerIsr : Int := 0
  /-- The future of a run is valid while it has the clock readings its loop takes. -/
  fut : Option Host := none
  running : Bool := false
  onLoad : Bool := false
  onSave : Bool := false

/-- Whether a handler can receive the fault. After the others no call follows. -/
def Fault.caught : Fault → Bool
  | .exception _ => true
  | .foreign => true
  | .assertion => false
  | .undefined => false

/-- A conversion from `double` to `int64_t`. -/
def toInt64 (value : Rat) : Except Fault Int :=
  let n := Json.truncate value
  if -2 ^ 63 ≤ n ∧ n < 2 ^ 63 then .ok n else .error .undefined

namespace Machine

variable {ω : Type} (lib : Libraries) (build : Build)

/-- The constructor. If no cpu type is specified the default is set. -/
def make (options : Option String) (maxResolution : Int) (world : ω) : Except Fault (Machine ω) := do
  let opt ← (Opt.init build).setOptions lib build options
  let opt ← if (← opt.cpuType) = "" then opt.setOptions lib build (some "\x7b\"cpu\":\"i8080\"\x7d") else pure opt
  if (← opt.cpuType) = "i8080" then
    return { sys := { world }, clock := CpuClock.make 2000000 maxResolution, opt }
  else throw (.exception "Unsupported cpu type")

def busy : Fault := .exception "The machine is running"

def setOptions (options : Option String) : EStateM Fault (Machine ω) ErrorCode := do
  if (← get).running then throw busy
  let opt ← ofExcept ((← get).opt.setOptions lib build options)
  modify fun m => { m with opt }
  return .noError

def setClockResolution (clockResolution : Int) : EStateM Fault (Machine ω) ErrorCode := do
  if (← get).running then throw busy
  if clockResolution < -1 ∨ clockResolution > 10000000000 then
    throw (.exception "Clock resolution out of range")
  let str := "\x7b\"clockResolution\":" ++ toString clockResolution ++ "\x7d"
  let opt ← ofExcept ((← get).opt.setOptions lib build (some str))
  modify fun m => { m with opt }
  let (err, clock) := (← get).clock.setTickResolution clockResolution
  modify fun m => { m with clock }
  if err = .noError then
    let ticksPerIsr ← ofExcept (toInt64 ((← ofExcept opt.isrFreq) * clock.totalTicks))
    modify fun m => { m with ticksPerIsr }
  return err

def setMemoryController (controller : Option (IController ω)) : EStateM Fault (Machine ω) Unit := do
  if controller.isNone then throw (.exception "Argument 'controller' can not be nullptr")
  if (← get).running then throw busy
  modify fun m => { m with memoryController := controller }

def setIoController (controller : Option (IController ω)) : EStateM Fault (Machine ω) Unit := do
  if controller.isNone then throw (.exception "Argument 'controller' can not be nullptr")
  if (← get).running then throw busy
  modify fun m => { m with ioController := controller }

/-- Of a handler the machine only needs to know whether there is one. -/
def setOnSave (onSave : Bool) : EStateM Fault (Machine ω) Unit := do
  if (← get).running then throw busy
  modify fun m => { m with onSave }

def setOnLoad (onLoad : Bool) : EStateM Fault (Machine ω) Unit := do
  if (← get).running then throw busy
  modify fun m => { m with onLoad }

/-- `Run` up to where the machine is running. -/
def prepare (pc : Word) (epoch : Int) : EStateM Fault (Machine ω) Unit := do
  if (← get).memoryController.isNone then throw (.exception "No memory controller has been set")
  if (← get).ioController.isNone then throw (.exception "No io controller has been set")
  if (← get).running then throw busy
  modify fun m => { m with sys := { m.sys with cpu := m.sys.cpu.reset pc }, clock := m.clock.resetAt epoch }
  let _ ← setClockResolution lib build (← ofExcept (← get).opt.clockResolution)

/-- The launch of the loop, which fails when no thread can be started for it. -/
def launch (threads : Bool) (host : Host) : EStateM Fault (Machine ω) Launch := do
  modify fun m => { m with running := true }
  let policy := launchPolicy (← ofExcept (← get).opt.runAsync)
  if policy = .async ∧ threads = false then throw (.exception "Resource temporarily unavailable")
  modify fun m => { m with fut := some host }
  return policy

def setup (m : Machine ω) : Option (Setup ω) := do
  let memoryController ← m.memoryController
  let ioController ← m.ioController
  return {
    lib, build, opt := m.opt, memoryController, ioController
    ticksPerIsr := m.ticksPerIsr, onLoad := m.onLoad, onSave := m.onSave }

/-- The loop, followed by its moves to where it returns or throws. -/
def machineLoop (moves : List (Loop.Choice ω)) (host : Host) (m : Machine ω) :
    Option (Except Fault Int × System ω × CpuClock) := do
  let setup ← m.setup lib build
  match Loop.start setup m.sys m.clock host with
  | .error fault => return (.error fault, m.sys, m.clock)
  | .ok loop =>
    let (loop, _) ← Traces.run (Loop.step setup) moves loop
    match loop.point with
    | .done => return (.ok loop.currTime, loop.sys, loop.clock)
    | .failed fault => return (.error fault, loop.sys, loop.clock)
    | _ => none

/-- `totalTime = fut_.get(); running_ = false;` -/
def complete (moves : List (Loop.Choice ω)) (m : Machine ω) : Option (EStateM.Result Fault (Machine ω) Int) := do
  let (result, sys, clock) ← m.machineLoop lib build moves (← m.fut)
  let m := { m with fut := none, sys, clock }
  match result with
  | .ok totalTime => return .ok totalTime { m with running := false }
  | .error fault => return .error fault m

/-- The calls, each with what the host does during it. `epoch` and `readings` are the
clock's, and `moves` are those of a loop that ends in the call. -/
inductive Call (ω : Type) where
  | setOptions (options : Option String)
  | setClockResolution (clockResolution : Int)
  | setMemoryController (controller : Option (IController ω))
  | setIoController (controller : Option (IController ω))
  | onLoad (handler : Bool)
  | onSave (handler : Bool)
  | run (pc : Word) (epoch : Int) (readings : List Int) (threads : Bool) (moves : List (Loop.Choice ω))
  | waitForCompletion (moves : List (Loop.Choice ω))

/-- How a call ends. `launched` is the return of an asynchronous `Run`. -/
inductive Reply where
  | returned
  | launched
  | threw (fault : Fault)
deriving DecidableEq, Repr

/-- The total time of a run, with its launch policy. -/
def run (pc : Word) (epoch : Int) (readings : List Int) (threads : Bool) (moves : List (Loop.Choice ω)) (m : Machine ω) :
    Option (EStateM.Result Fault (Machine ω) (Launch × Int)) :=
  match (do prepare lib build pc epoch; launch threads ⟨epoch, readings, []⟩) m with
  | .ok .async m => some (.ok (.async, 0) m)
  | .ok .deferred m => do
    match ← m.complete lib build moves with
    | .ok totalTime m => return .ok (.deferred, totalTime) m
    | .error fault m => return .error fault m
  | .error fault m => some (.error fault m)

def waitForCompletion (moves : List (Loop.Choice ω)) (m : Machine ω) : Option (EStateM.Result Fault (Machine ω) Int) :=
  if m.fut.isSome then m.complete lib build moves else some (.ok 0 m)

def replies {α : Type} (reply : α → Reply) : EStateM.Result Fault (Machine ω) α → Reply × Machine ω
  | .ok value m => (reply value, m)
  | .error fault m => (.threw fault, m)

def answer (call : Call ω) (m : Machine ω) : Option (Reply × Machine ω) :=
  let returns {α : Type} (_ : α) := Reply.returned
  match call with
  | .setOptions options => some (replies returns (setOptions lib build options m))
  | .setClockResolution clockResolution => some (replies returns (setClockResolution lib build clockResolution m))
  | .setMemoryController controller => some (replies returns (setMemoryController controller m))
  | .setIoController controller => some (replies returns (setIoController controller m))
  | .onLoad handler => some (replies returns (setOnLoad handler m))
  | .onSave handler => some (replies returns (setOnSave handler m))
  | .run pc epoch readings threads moves =>
    (m.run lib build pc epoch readings threads moves).map (replies fun (policy, _) =>
      if policy = .async then .launched else .returned)
  | .waitForCompletion moves => (m.waitForCompletion lib build moves).map (replies returns)

/-- A call in the history of a machine. -/
structure Entry (ω : Type) where
  call : Call ω
  before : Machine ω
  reply : Reply

def step (call : Call ω) (m : Machine ω) : Option (Machine ω × List (Entry ω)) := do
  let (reply, after) ← m.answer lib build call
  match reply with
  | .threw fault => if fault.caught then return (after, [⟨call, m, reply⟩]) else none
  | _ => return (after, [⟨call, m, reply⟩])

end Machine
end MachEmu
