import MachEmu.CpuClock
import MachEmu.Lib.Future
import MachEmu.Machine.ProcessControllers
import MachEmu.Machine.State

/-! The machine loop and the handlers that run beside it. The loop thread moves
from one point to the next. Handlers that were launched asynchronously finish,
and other threads touch the world, between any two of its moves. -/

namespace MachEmu.Machine
open SteadyClock

variable {ω : Type}

/-- What a loop runs with. Nothing of it changes while the machine is running. -/
structure Setup (ω : Type) where
  lib : Libraries
  build : Build
  opt : Opt
  memoryController : IController ω
  ioController : IController ω
  ticksPerIsr : Int
  onLoad : Bool
  onSave : Bool

def Setup.wiring (setup : Setup ω) : Wiring ω where
  build := setup.build
  process := processControllers { memoryController := some setup.memoryController, ioController := some setup.ioController }

/-- Where the loop thread is: at the condition of the loop, in the case of an
interrupt, at one of the calls that collect a future, or out of the loop. -/
inductive Point where
  | head
  | serviced (isr : ISR)
  | startedLoad | startedSave
  | reapLoad | reapSave
  | quitLoad | quitSave
  | done
  | failed (fault : Fault)
deriving DecidableEq, Repr

structure Loop (ω : Type) where
  sys : System ω
  clock : CpuClock
  host : Host
  currTime : Int := 0
  totalTicks : Int := 0
  lastTicks : Int := 0
  loadLaunchPolicy : Launch := .deferred
  saveLaunchPolicy : Launch := .deferred
  onLoad : Future Unit (Except Fault String) := .invalid
  onSave : Future String (Except Fault String) := .invalid
  point : Point := .head

inductive Event (ω : Type) where
  | executed
  | ignored (isr : ISR)
  | startedLoad
  | startedSave (sys : System ω) (state : String)
  | refusedSave
  | returned (result : Except Fault String)
  | applied (str : String)
  | called (state : String)

/-- The task behind a load: a copy of what the handler returns, or nothing. -/
def loadTask (onLoad : Except Fault (Option String)) : Except Fault String :=
  match onLoad with
  | .ok (some json) => .ok json
  | .ok none => .ok ""
  | .error (.exception _) => .ok ""
  | .error fault => .error fault

/-- The task behind a save, which returns an empty string. -/
def saveTask (onSave : Except Fault Unit) : Except Fault String :=
  match onSave with
  | .ok () => .ok ""
  | .error (.exception _) => .ok ""
  | .error fault => .error fault

def launchPolicy (async : Bool) : Launch := if async then .async else .deferred

namespace Loop

/-- The loop as it is entered on a machine, with the launch policies read from the options. -/
def start (setup : Setup ω) (sys : System ω) (clock : CpuClock) (host : Host) : Except Fault (Loop ω) := do
  let loadAsync ← setup.opt.loadAsync
  let saveAsync ← setup.opt.saveAsync
  return { sys, clock, host, loadLaunchPolicy := launchPolicy loadAsync, saveLaunchPolicy := launchPolicy saveAsync }

def goto (point : Point) (loop : Loop ω) : Loop ω := { loop with point }

def fail (fault : Fault) : Loop ω → Loop ω := goto (.failed fault)

/-- The end of the switch. -/
def finish (loop : Loop ω) : Loop ω := { loop with lastTicks := loop.totalTicks, point := .head }

/-- A cpu level interrupt, put on the control and data buses. -/
def signal (isr : Byte) (bus : SystemBus) : SystemBus := DataBus.send isr (ControlBus.send .interrupt bus)

variable (setup : Setup ω)

/-- One pass of the loop up to the switch; `none` while the clock still waits. -/
def instruction (loop : Loop ω) : Option (Loop ω × List (Event ω)) :=
  let (powerOff, bus) := ControlBus.receive .powerOff loop.sys.bus
  let loop := { loop with sys := { loop.sys with bus } }
  if powerOff then some (loop.goto .done, [])
  else match Intel8080.execute setup.wiring loop.sys with
    | .error fault sys => some ({ loop with sys }.fail fault, [])
    | .ok ticks sys => do
      let (clock, host) ← loop.clock.tick (ticks.setWidth 64) loop.host
      let totalTicks := loop.totalTicks + ticks.toNat
      let loop := { loop with sys, clock, host, currTime := clock.time, totalTicks }
      if totalTicks - loop.lastTicks ≥ setup.ticksPerIsr then
        match setup.ioController.serviceInterrupts (BitVec.ofInt 64 loop.currTime)
          (BitVec.ofInt 64 totalTicks) sys.world with
        | .ok isr world => some ({ loop with sys := { sys with world }, point := .serviced isr }, [.executed])
        | .error fault world => some ({ loop with sys := { sys with world } }.fail fault, [.executed])
      else some (loop, [.executed])

/-- A user defined callback is set and we are not processing a load or save request. -/
def accepts (handler : Bool) (loop : Loop ω) : Bool := handler && !loop.onLoad.valid && !loop.onSave.valid

def load (loop : Loop ω) : Loop ω × List (Event ω) :=
  if loop.accepts setup.onLoad then
    ({ loop with onLoad := .launch loop.loadLaunchPolicy (), point := .startedLoad }, [.startedLoad])
  else (loop.finish, [.ignored .load])

/-- The state is captured here, whatever executes before the handler gets it. -/
def save (loop : Loop ω) : Option (Loop ω × List (Event ω)) :=
  if loop.accepts setup.onSave then
    match saveState setup.lib setup.build setup.opt setup.memoryController loop.sys.cpu loop.sys.world with
    | .ok (some state) world => some
      ({ loop with
          sys := { loop.sys with world }
          onSave := .launch loop.saveLaunchPolicy state
          point := .startedSave }, [.startedSave loop.sys state])
    | .ok none _ => none
    | .error (.exception _) world => some ({ loop with sys := { loop.sys with world } }.finish, [.refusedSave])
    | .error fault world => some ({ loop with sys := { loop.sys with world } }.fail fault, [])
  else some (loop.finish, [.ignored .save])

/-- The cases of the switch. -/
def service (isr : ISR) (loop : Loop ω) : Option (Loop ω × List (Event ω)) :=
  match isr with
  | .load => some (loop.load setup)
  | .save => loop.save setup
  | .quit => some (loop.goto .quitLoad, [])
  | .noInterrupt => some (loop.goto .reapLoad, [])
  | isr => match isr.cpuLevel with
    | some isr => some ({ loop with sys := { loop.sys with bus := signal isr loop.sys.bus } }.finish, [])
    | none => some (loop.finish, [])

/-- `loadMachineState` on the string of a future; there is none to collect when `result` is `none`. -/
def loadFrom (result : Option (Except Fault String)) (next : Loop ω → Loop ω) (loop : Loop ω) :
    Loop ω × List (Event ω) :=
  match result with
  | none => (next loop, [])
  | some (.error fault) => (loop.fail fault, [])
  | some (.ok str) =>
    match loadMachineState setup.lib setup.build setup.opt setup.memoryController str loop.sys with
    | .ok () sys => (next { loop with sys }, [.applied str])
    | .error fault sys => ({ loop with sys }.fail fault, [.applied str])

/-- Drop the string of a save future. -/
def discard (result : Option (Except Fault String)) (next : Loop ω → Loop ω) (loop : Loop ω) : Loop ω :=
  match result with
  | some (.error fault) => loop.fail fault
  | _ => next loop

/-- `loadMachineState(checkHandler(onLoad))` -/
def checkLoad (onLoad : Except Fault (Option String)) (next : Loop ω → Loop ω) (loop : Loop ω) :
    Loop ω × List (Event ω) :=
  let run := fun _ => loadTask onLoad
  let (result, future) := loop.onLoad.poll run
  let (after, events) := { loop with onLoad := future }.loadFrom setup result next
  (after, (loop.onLoad.runs.map run).map .returned ++ events)

/-- `checkHandler(onSave)` -/
def checkSave (onSave : Except Fault Unit) (next : Loop ω → Loop ω) (loop : Loop ω) : Loop ω × List (Event ω) :=
  let (result, future) := loop.onSave.poll fun _ => saveTask onSave
  ({ loop with onSave := future }.discard result next, loop.onSave.runs.map .called)

/-- We are quitting, wait for the onLoad handler to complete; `none` while it has not. -/
def quitLoad (onLoad : Except Fault (Option String)) (loop : Loop ω) : Option (Loop ω × List (Event ω)) :=
  if loop.onLoad.valid then do
    let run := fun _ => loadTask onLoad
    let result ← loop.onLoad.get run
    let (after, events) := { loop with onLoad := .invalid }.loadFrom setup (some result) (goto .quitSave)
    return (after, (loop.onLoad.runs.map run).map .returned ++ events)
  else some (loop.goto .quitSave, [])

def powerOff (loop : Loop ω) : Loop ω :=
  { loop with sys := { loop.sys with bus := ControlBus.send .powerOff loop.sys.bus } }.finish

/-- We are quitting, wait for the onSave handler to complete. -/
def quitSave (onSave : Except Fault Unit) (loop : Loop ω) : Option (Loop ω × List (Event ω)) :=
  if loop.onSave.valid then do
    let result ← loop.onSave.get fun _ => saveTask onSave
    return ({ loop with onSave := .invalid }.discard (some result) powerOff, loop.onSave.runs.map .called)
  else some (loop.powerOff, [])

/-- What happens next. The loop thread takes a turn, with the outcomes of the handlers
should it run one itself; a handler that runs elsewhere finishes; or the world
changes for reasons outside the machine. -/
inductive Choice (ω : Type) where
  | turn (onLoad : Except Fault (Option String)) (onSave : Except Fault Unit)
  | loaded (onLoad : Except Fault (Option String))
  | saved (onSave : Except Fault Unit)
  | outside (world : ω)

def turn (onLoad : Except Fault (Option String)) (onSave : Except Fault Unit) (loop : Loop ω) :
    Option (Loop ω × List (Event ω)) :=
  match loop.point with
  | .head => loop.instruction setup
  | .serviced isr => loop.service setup isr
  | .startedLoad => some (loop.checkLoad setup onLoad finish)
  | .startedSave => some (loop.checkSave onSave finish)
  | .reapLoad => some (loop.checkLoad setup onLoad (goto .reapSave))
  | .reapSave => some (loop.checkSave onSave finish)
  | .quitLoad => loop.quitLoad setup onLoad
  | .quitSave => loop.quitSave onSave
  | .done => none
  | .failed _ => none

def step (choice : Choice ω) (loop : Loop ω) : Option (Loop ω × List (Event ω)) :=
  match choice with
  | .turn onLoad onSave => loop.turn setup onLoad onSave
  | .loaded onLoad =>
    match loop.onLoad with
    | .running () => some ({ loop with onLoad := .ready (loadTask onLoad) }, [.returned (loadTask onLoad)])
    | _ => none
  | .saved onSave =>
    match loop.onSave with
    | .running state => some ({ loop with onSave := .ready (saveTask onSave) }, [.called state])
    | _ => none
  | .outside world => some ({ loop with sys := { loop.sys with world } }, [])

end Loop
end MachEmu.Machine
