import MachEmu.Machine.Lifecycle
import MachEmu.Proofs.Requests

/-! The control bus between instructions. All lanes are clear there, except that
the loop goes round with the one signal it may have raised. -/

namespace MachEmu.Proofs.Boundaries
open Machine Loop Traces BusTransactions BusDiscipline Requests

variable {ω : Type} {setup : Setup ω} {loop after start : Loop ω} {events trace : List (Event ω)}

/-- At most the signal of an interrupt or of the power switch is on the bus. -/
def Raised (bus : SystemBus) : Prop :=
  bus.controlBus = 0 ∨ bus.controlBus = 1#8 <<< Signal.interrupt.lane ∨ bus.controlBus = 1#8 <<< Signal.powerOff.lane

def Settled (loop : Loop ω) : Prop :=
  match loop.point with
  | .head => Raised loop.sys.bus
  | .failed _ => True
  | _ => Quiet loop.sys.bus

instance wiring_quiet (setup : Setup ω) : Transacts Quiet setup.wiring :=
  quiet_transacts setup.build setup.memoryController setup.ioController

theorem raised_received {bus : SystemBus} (raised : Raised bus) :
    Quiet (ControlBus.receive .interrupt (ControlBus.receive .powerOff bus).2).2 := by
  unfold Quiet ControlBus.receive
  rcases raised with clear | interrupt | off
  · simp only [clear]; decide
  · simp only [interrupt]; decide
  · simp only [off]; decide

theorem raised_off {bus : SystemBus} (raised : Raised bus) (off : ¬ PoweredOn bus) :
    Quiet (ControlBus.receive .powerOff bus).2 := by
  unfold PoweredOn at off
  unfold Quiet ControlBus.receive
  rcases raised with clear | interrupt | off'
  · rw [clear] at off
    exact absurd rfl off
  · rw [interrupt] at off
    exact absurd rfl off
  · simp only [off']; decide

theorem signal_raised {bus : SystemBus} (quiet : Quiet bus) (level : Byte) : Raised (signal level bus) := by
  refine .inr (.inl ?_)
  change bus.controlBus ||| 1#8 <<< Signal.interrupt.lane = _
  rw [show bus.controlBus = 0#8 from quiet, BitVec.zero_or]

theorem powerOff_raised {bus : SystemBus} (quiet : Quiet bus) : Raised (ControlBus.send .powerOff bus) := by
  refine .inr (.inr ?_)
  change bus.controlBus ||| 1#8 <<< Signal.powerOff.lane = _
  rw [show bus.controlBus = 0#8 from quiet, BitVec.zero_or]

theorem Settled.quiet (settled : Settled loop) {point : Point} (here : loop.point = point)
    (inside : point ≠ .head ∧ ∀ fault, point ≠ .failed fault) : Quiet loop.sys.bus := by
  unfold Settled at settled
  rw [here] at settled
  split at settled
  next => exact absurd rfl inside.1
  next fault => exact absurd rfl (inside.2 fault)
  next => exact settled

theorem settled_of_quiet (quiet : Quiet loop.sys.bus) : Settled loop := by
  unfold Settled
  split
  next => exact .inl quiet
  next => trivial
  next => exact quiet

theorem settled_head (there : loop.point = .head) (raised : Raised loop.sys.bus) : Settled loop := by
  unfold Settled
  rw [there]
  exact raised

theorem step_settled {choice : Choice ω} (settled : Settled loop)
    (moved : Loop.step setup choice loop = some (after, events)) : Settled after := by
  cases step_advances moved with
  | failed there on =>
    unfold Settled
    rw [there]
    trivial
  | beside there bus load save silent =>
    unfold Settled at settled ⊢
    rw [there, bus]
    exact settled
  | ended here off there silent bus load save =>
    unfold Settled at settled
    rw [here] at settled
    refine settled_of_quiet ?_
    rw [bus]
    exact raised_off settled off
  | passed here on carried there =>
    unfold Settled at settled
    rw [here] at settled
    exact settled_of_quiet (carried Quiet (raised_received settled))
  | serviced isr here bus there =>
    refine settled_of_quiet ?_
    rw [bus]
    exact settled.quiet here ⟨by simp, by simp⟩
  | raised isr level here request there bus =>
    refine settled_head there ?_
    rw [bus]
    exact signal_raised (settled.quiet here ⟨by simp, by simp⟩) level
  | collected here there bus =>
    refine settled_of_quiet ?_
    rw [bus]
    refine settled.quiet rfl ⟨?_, ?_⟩
    · intro head
      simp [head] at here
    · intro fault failed
      simp [failed] at here
  | quitLoad here there bus load =>
    refine settled_of_quiet ?_
    rw [bus]
    exact settled.quiet here ⟨by simp, by simp⟩
  | quitSave here there bus load save =>
    refine settled_head there ?_
    rw [bus]
    exact powerOff_raised (settled.quiet here ⟨by simp, by simp⟩)

theorem start_settled {sys : System ω} {clock : CpuClock} {host : SteadyClock.Host}
    (entered : Loop.start setup sys clock host = .ok start) (quiet : Quiet sys.bus) : Settled start := by
  unfold Loop.start at entered
  obtain ⟨loadAsync, -, entered⟩ := ErrorState.except_bind_ok_iff.mp entered
  obtain ⟨saveAsync, -, entered⟩ := ErrorState.except_bind_ok_iff.mp entered
  cases entered
  exact settled_of_quiet quiet

theorem run_settled (settled : Settled start) (run : Run (Loop.step setup) start trace loop) : Settled loop :=
  run.invariant (fun _ loop => Settled loop) settled fun settled moved => step_settled settled moved

/-- A loop that returns leaves the lanes clear for the next one. -/
theorem machineLoop_quiet {lib : Libraries} {build : Build} {moves : List (Choice ω)} {host : SteadyClock.Host}
    {m : Machine ω} {totalTime : Int} {sys : System ω} {clock : CpuClock}
    (looped : m.machineLoop lib build moves host = some (.ok totalTime, sys, clock)) (quiet : Quiet m.sys.bus) :
    Quiet sys.bus := by
  obtain ⟨setup, -, looped⟩ := Option.bind_eq_some_iff.mp looped
  split at looped
  next => cases looped
  next first entered =>
    obtain ⟨⟨last, trace⟩, ran, looped⟩ := Option.bind_eq_some_iff.mp looped
    have settled := run_settled (start_settled entered quiet) (Run.of_run ran)
    dsimp only at looped
    split at looped
    next done =>
      cases looped
      exact settled.quiet done ⟨by simp, by simp⟩
    next => cases looped
    next => cases looped

end MachEmu.Proofs.Boundaries
