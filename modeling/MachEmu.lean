import MachEmu.Proofs.InstructionSet
import MachEmu.Proofs.Codec
import MachEmu.Proofs.SaveLoad
import MachEmu.Proofs.Pacing
import MachEmu.Proofs.Requests
import MachEmu.Proofs.FinishedHandlers
import MachEmu.Proofs.Lifecycle
import MachEmu.Proofs.Interrupts
import MachEmu.Proofs.Resume
import MachEmu.Proofs.ClockReset
import MachEmu.Proofs.ServiceCadence
import MachEmu.Proofs.Starvation
import MachEmu.Proofs.Adjustments
import MachEmu.Proofs.Options
import MachEmu.Proofs.Threshold
import MachEmu.Proofs.StatusInvariant
import MachEmu.Proofs.Deliveries
import MachEmu.Proofs.DirectCalls
import MachEmu.Proofs.Transactions
import MachEmu.Proofs.Lockstep
import MachEmu.Proofs.Decimal
import MachEmu.Proofs.Halt
import MachEmu.Proofs.Cycles
import MachEmu.Proofs.OptionHistory
import MachEmu.Proofs.Deprecated
import MachEmu.Proofs.Layouts
import MachEmu.Proofs.StackDiscipline
import MachEmu.Proofs.EnableInterrupts
import MachEmu.Proofs.Exceptions
import MachEmu.Proofs.Configurations
import MachEmu.Proofs.SavedLayouts
import MachEmu.Proofs.Documents
import MachEmu.Proofs.SleepRequests
import MachEmu.Lib.Isa8080Board
import MachEmu.Proofs.Reference
import MachEmu.Proofs.Survival
import MachEmu.Proofs.Termination
import MachEmu.Proofs.Synchronous
import MachEmu.Machine.Save
import MachEmu.Proofs.IdleSave
import MachEmu.Proofs.Times
import MachEmu.TestControllers
import MachEmu.Proofs.Conversations
import MachEmu.Proofs.Signals
import MachEmu.Lib.Alarm
import MachEmu.Proofs.Seconds
import MachEmu.Lib.Isa8080Logic
import MachEmu.Proofs.Guests
import MachEmu.Proofs.Delays
import MachEmu.Proofs.Consoles
import MachEmu.Proofs.Timeless
import MachEmu.Machine.Holder
import MachEmu.Proofs.Holders
