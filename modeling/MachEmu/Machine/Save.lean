import MachEmu.Machine.Lifecycle

/-! The state of a machine that is not running, as its owner asks for it. -/

namespace MachEmu.Machine

variable {ω α : Type} (lib : Libraries) (build : Build)

/-- A controller call from outside the loop: of the machine it sees the world only. -/
def onMachine (call : EStateM Fault ω α) : EStateM Fault (Machine ω) α := fun m =>
  match call m.sys.world with
  | .ok value world => .ok value { m with sys := { m.sys with world } }
  | .error fault world => .error fault { m with sys := { m.sys with world } }

/-- `Save`; `none` when the call does not return. -/
def saveMachine : EStateM Fault (Machine ω) (Option String) := do
  if (← get).running then throw busy
  match (← get).memoryController with
  | none => throw (.exception "memory controller not set!")
  | some memoryController => onMachine (save lib build (← get).opt memoryController (← get).sys.cpu)

/-- `GetState`, the registers of the cpu. -/
def getState : EStateM Fault (Machine ω) (List Byte) := do
  if (← get).running then throw busy
  return (← get).sys.cpu.getState

end MachEmu.Machine
