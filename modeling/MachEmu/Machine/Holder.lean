import MachEmu.Machine.Lifecycle

/-! The machine that Python holds. Every call goes on to the machine as it is, but one. -/

namespace MachEmu.MachineHolder

variable {ω : Type} (lib : Libraries) (build : Build)

/-- The resolution is only stored as an option. -/
def setClockResolution (clockResolution : Int) : EStateM Fault (Machine ω) ErrorCode :=
  Machine.setOptions lib build (some ("\x7b\"clockResolution\":" ++ toString clockResolution ++ "\x7d"))

end MachEmu.MachineHolder
