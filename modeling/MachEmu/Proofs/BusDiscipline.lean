import MachEmu.Lib.ErrorState
import MachEmu.Proofs.InstructionSet

/-! What an execution does to the buses, for arbitrary controllers. A property of
the buses that every transaction keeps is kept by every instruction; instance
search follows the text of each helper. -/

namespace MachEmu.Proofs.BusDiscipline
open Intel8080 BusTransactions Instructions InstructionSet

variable {ω α β : Type} (P : SystemBus → Prop) (w : Wiring ω)

/-- A computation that returns leaves `P` true of the buses. -/
class Keeps (x : CpuM ω α) : Prop where
  kept : ∀ {s value after}, P s.bus → x w s = .ok value after → P after.bus

/-- The transactions an instruction is made of keep `P`. -/
class Transacts : Prop where
  receive : Keeps P w receive
  memoryRead : ∀ addr, Keeps P w (readFromAddress .memoryRead addr)
  memoryWrite : ∀ addr value, Keeps P w (writeToAddress .memoryWrite addr value)
  ioRead : ∀ addr, Keeps P w (readFromAddress .ioRead addr)
  ioWrite : ∀ addr value, Keeps P w (writeToAddress .ioWrite addr value)

attribute [instance] Transacts.receive Transacts.memoryRead Transacts.memoryWrite Transacts.ioRead Transacts.ioWrite

section Combinators

instance keeps_bind (x : CpuM ω α) (f : α → CpuM ω β) [first : Keeps P w x] [rest : ∀ value, Keeps P w (f value)] :
    Keeps P w (x >>= f) := by
  constructor
  intro s result after holds ran
  rw [bind_run] at ran
  cases begun : x w s with
  | error fault mid => simp [begun] at ran
  | ok value mid =>
    simp only [begun] at ran
    exact (rest value).kept (first.kept holds begun) ran

instance keeps_ite (c : Prop) [Decidable c] (x y : CpuM ω α) [first : Keeps P w x] [second : Keeps P w y] :
    Keeps P w (if c then x else y) := by
  split
  · exact first
  · exact second

instance keeps_pure (value : α) : Keeps P w (pure value) := by
  constructor
  intro s result after holds ran
  cases ran
  exact holds

instance keeps_cpu : Keeps P w cpu := by
  constructor
  intro s result after holds ran
  cases ran
  exact holds

instance keeps_modifyCpu (f : Intel8080 → Intel8080) : Keeps P w (modifyCpu f) := by
  constructor
  intro s result after holds ran
  cases ran
  exact holds

instance keeps_assert0 : Keeps P w assert0 := by
  constructor
  intro s result after holds ran
  have wiring : (read : CpuM ω (Wiring ω)) w s = .ok w s := rfl
  unfold assert0 at ran
  rw [bind_run, wiring] at ran
  dsimp only at ran
  rw [ite_run] at ran
  split at ran
  next => cases ran
  next =>
    cases ran
    exact holds

end Combinators

section Helpers
set_option synthInstance.maxSize 1024
variable [Transacts P w]

instance : Keeps P w incPc := by simp only [incPc]; infer_instance
instance : Keeps P w nextPc := by simp only [nextPc]; infer_instance
instance : Keeps P w postIncSp := by simp only [postIncSp]; infer_instance
instance : Keeps P w decSp := by simp only [decSp]; infer_instance
instance (r value) : Keeps P w (setReg r value) := by simp only [setReg]; infer_instance
instance (lhs rhs carry setCarryFlag) : Keeps P w (add lhs rhs carry setCarryFlag) := by simp only [add]; infer_instance
instance (r withCarry) : Keeps P w (sub r withCarry) := by simp only [sub]; infer_instance
instance : Keeps P w logicFlags := by simp only [logicFlags]; infer_instance
instance (r) : Keeps P w (ana r) := by simp only [ana]; infer_instance
instance (r) : Keeps P w (xra r) := by simp only [xra]; infer_instance
instance (r) : Keeps P w (ora r) := by simp only [ora]; infer_instance
instance : Keeps P w operandAddress := by simp only [operandAddress]; infer_instance
instance (addr) : Keeps P w (pushPcAndJump addr) := by simp only [pushPcAndJump]; infer_instance
instance (restart) : Keeps P w (rstInterrupt restart) := by simp only [rstInterrupt]; infer_instance
instance : Keeps P w fetch := by simp only [fetch]; infer_instance
instance : Keeps P w notImplemented := by simp only [notImplemented]; infer_instance

instance perform_keeps (self : Intel8080) (instr : Isa8080.Instr) : Keeps P w (perform self instr) := by
  unfold perform
  split
  all_goals
    simp only [nop, lxi, lxiSp, dad, dadSp, stax, ldax, shld, lhld, sta, lda, inx, inxSp, dcx, dcxSp, inr, inrM, dcr,
      dcrM, mvi, mviM, rlc, rrc, ral, rar, daa, cma, stc, cmc, mov, movToM, movFromM, hlt, addR, addM, adcR, adcM,
      subR, subM, sbbR, sbbM, anaR, anaM, xraR, xraM, oraR, oraM, cmpR, cmpM, retOnFlag, jmpOnFlag, callOnFlag, push,
      pop, rst, out, in_, xthl, pchl, sphl, xchg, di, ei]
    infer_instance

instance switch_keeps (self : Intel8080) : Keeps P w (switch self) := by
  rw [switch_eq]
  split
  · infer_instance
  · infer_instance

/-- What an execution runs: the entry of an interrupt, or the next instruction. -/
def dispatch : Option Byte → CpuM ω Byte
  | none => do
    fetch
    switch (← cpu)
  | some isr => do
    modifyCpu fun cpu => { cpu with opcode := 0xC7 ||| isr <<< 3 }
    rstInterrupt (← cpu).opcode

instance dispatch_keeps (isr : Option Byte) : Keeps P w (dispatch isr) := by
  cases isr with
  | none => simp only [dispatch]; infer_instance
  | some isr => simp only [dispatch]; infer_instance

end Helpers

/-- The interrupt line and the number beside it are consumed. Only a set flip-flop makes a difference. -/
theorem execute_run (s : System ω) :
    execute w s =
      if s.bus.controlBus.getLsbD Signal.interrupt.lane then
        if s.cpu.iff then
          dispatch (some s.bus.dataBus) w
            { s with
              cpu := { s.cpu with iff := false }
              bus := (DataBus.receive (ControlBus.receive .interrupt s.bus).2).2 }
        else dispatch none w { s with bus := (DataBus.receive (ControlBus.receive .interrupt s.bus).2).2 }
      else dispatch none w { s with bus := (ControlBus.receive .interrupt s.bus).2 } := by
  unfold execute execute.acknowledge
  cases pending : s.bus.controlBus.getLsbD Signal.interrupt.lane with
  | false => simp [ControlBus.receive, pending, dispatch]
  | true =>
    cases enabled : s.cpu.iff with
    | false => simp [ControlBus.receive, DataBus.receive, pending, enabled, dispatch]
    | true => simp [ControlBus.receive, DataBus.receive, pending, enabled, dispatch]

/-- Past the interrupt line, an execution keeps what its transactions keep. -/
theorem execute_keeps [transacts : Transacts P w] {s after : System ω} {ticks : Byte}
    (holds : P (ControlBus.receive .interrupt s.bus).2) (ran : execute w s = .ok ticks after) : P after.bus := by
  have consumed : P (DataBus.receive (ControlBus.receive .interrupt s.bus).2).2 :=
    transacts.receive.kept (s := { s with bus := (ControlBus.receive .interrupt s.bus).2 }) holds rfl
  rw [execute_run] at ran
  split at ran
  next =>
    split at ran
    next => exact (dispatch_keeps P w _).kept consumed ran
    next => exact (dispatch_keeps P w none).kept consumed ran
  next => exact (dispatch_keeps P w none).kept holds ran

section Controllers
variable (build : Build) (memory io : IController ω)

/-- All lanes are clear again after each transaction. -/
instance quiet_transacts : Transacts Quiet (wiring build memory io) := by
  constructor
  · constructor
    intro s value after quiet ran
    cases ran
    exact quiet
  · intro addr
    constructor
    rintro ⟨self, ⟨address, data, control⟩, world⟩ value after quiet ran
    obtain rfl : control = 0#8 := quiet
    rw [readFromAddress_memory] at ran
    split at ran
    next => cases ran; rfl
    next => cases ran
  · intro addr byte
    constructor
    rintro ⟨self, ⟨address, data, control⟩, world⟩ value after quiet ran
    obtain rfl : control = 0#8 := quiet
    rw [writeToAddress_memory] at ran
    split at ran
    next => cases ran; rfl
    next => cases ran
  · intro addr
    constructor
    rintro ⟨self, ⟨address, data, control⟩, world⟩ value after quiet ran
    obtain rfl : control = 0#8 := quiet
    rw [readFromAddress_io] at ran
    split at ran
    next => cases ran; rfl
    next => cases ran
  · intro addr byte
    constructor
    rintro ⟨self, ⟨address, data, control⟩, world⟩ value after quiet ran
    obtain rfl : control = 0#8 := quiet
    rw [writeToAddress_io] at ran
    split at ran
    next => cases ran; rfl
    next => cases ran

end Controllers

section PowerOff
set_option synthInstance.maxSize 512

abbrev PoweredOn (bus : SystemBus) : Prop := bus.controlBus.getLsbD Signal.powerOff.lane = false

theorem received_poweredOn (signal : Signal) {bus : SystemBus} (on : PoweredOn bus) :
    PoweredOn (ControlBus.receive signal bus).2 := by
  rw [PoweredOn, ControlBus.receive, BitVec.getLsbD_and, on, Bool.false_and]

class StaysOn (x : EStateM Fault (SystemBus × ω) α) : Prop where
  stays : ∀ {s value after}, PoweredOn s.1 → x s = .ok value after → PoweredOn after.1

instance staysOn_bind (x : EStateM Fault (SystemBus × ω) α) (f : α → EStateM Fault (SystemBus × ω) β)
    [first : StaysOn x] [rest : ∀ value, StaysOn (f value)] : StaysOn (x >>= f) := by
  constructor
  intro s result after on ran
  obtain ⟨value, mid, begun, finished⟩ := ErrorState.bind_ok_iff.mp ran
  exact (rest value).stays (first.stays on begun) finished

instance staysOn_pure (value : α) : StaysOn (pure value : EStateM Fault (SystemBus × ω) α) := by
  constructor
  intro s result after on ran
  cases ran
  exact on

instance staysOn_ite (c : Prop) [Decidable c] (x y : EStateM Fault (SystemBus × ω) α) [first : StaysOn x]
    [second : StaysOn y] : StaysOn (if c then x else y) := by
  split
  · exact first
  · exact second

instance staysOn_call (method : EStateM Fault ω α) : StaysOn (Machine.callController method) := by
  constructor
  rintro ⟨bus, world⟩ result after on ran
  dsimp only [Machine.callController] at ran
  split at ran
  next => cases ran; exact on
  next => cases ran

instance staysOn_address : StaysOn (Machine.onBus AddressBus.receive : EStateM Fault (SystemBus × ω) Word) := by
  constructor
  intro s result after on ran
  cases ran
  exact on

instance staysOn_data : StaysOn (Machine.onBus DataBus.receive : EStateM Fault (SystemBus × ω) Byte) := by
  constructor
  intro s result after on ran
  cases ran
  exact on

instance staysOn_sendData (data : Byte) :
    StaysOn (Machine.onBus fun bus => ((), DataBus.send data bus) : EStateM Fault (SystemBus × ω) Unit) := by
  constructor
  intro s result after on ran
  cases ran
  exact on

instance staysOn_control (signal : Signal) :
    StaysOn (Machine.onBus (ControlBus.receive signal) : EStateM Fault (SystemBus × ω) Bool) := by
  constructor
  intro s result after on ran
  cases ran
  exact received_poweredOn signal on

instance staysOn_serve (controller : Option (IController ω)) (readLane writeLane : Signal) :
    StaysOn (Machine.serve controller readLane writeLane) := by
  cases controller with
  | none => exact staysOn_pure ()
  | some controller => simp only [Machine.serve]; infer_instance

instance staysOn_processControllers (controllers : Controllers ω) : StaysOn (Machine.processControllers controllers) := by
  simp only [Machine.processControllers]
  infer_instance

variable (build : Build) (controllers : Controllers ω)

instance staysOn_process : Keeps PoweredOn ⟨build, Machine.processControllers controllers⟩ process := by
  constructor
  intro s value after on ran
  unfold process at ran
  split at ran
  next dispatched =>
    cases ran
    exact (staysOn_processControllers controllers).stays on dispatched
  next => cases ran

theorem keeps_onBus {f : SystemBus → α × SystemBus} (kept : ∀ {bus}, P bus → P (f bus).2) : Keeps P w (onBus f) := by
  constructor
  intro s value after holds ran
  cases ran
  exact kept holds

theorem send_staysOn {signal : Signal} (other : signal ≠ .powerOff) {bus : SystemBus} (on : PoweredOn bus) :
    PoweredOn (ControlBus.send signal bus) := by
  have apart : (1#8 <<< signal.lane).getLsbD Signal.powerOff.lane = false := by
    cases signal <;> first | exact absurd rfl other | rfl
  rw [PoweredOn, ControlBus.send, BitVec.getLsbD_or, on, apart, Bool.or_false]

theorem read_staysOn {lane : Signal} (other : lane ≠ .powerOff) (addr : Word) :
    Keeps PoweredOn ⟨build, Machine.processControllers controllers⟩ (readFromAddress lane addr) := by
  have primed := keeps_onBus (P := PoweredOn) (w := ⟨build, Machine.processControllers controllers⟩)
    (f := fun bus => ((), ControlBus.send lane bus)) (send_staysOn other)
  have addressed := keeps_onBus (P := PoweredOn) (w := ⟨build, Machine.processControllers controllers⟩)
    (f := fun bus => ((), AddressBus.send addr bus)) id
  simp only [readFromAddress]
  infer_instance

theorem write_staysOn {lane : Signal} (other : lane ≠ .powerOff) (addr : Word) (value : Byte) :
    Keeps PoweredOn ⟨build, Machine.processControllers controllers⟩ (writeToAddress lane addr value) := by
  have primed := keeps_onBus (P := PoweredOn) (w := ⟨build, Machine.processControllers controllers⟩)
    (f := fun bus => ((), ControlBus.send lane bus)) (send_staysOn other)
  have addressed := keeps_onBus (P := PoweredOn) (w := ⟨build, Machine.processControllers controllers⟩)
    (f := fun bus => ((), AddressBus.send addr bus)) id
  have loaded := keeps_onBus (P := PoweredOn) (w := ⟨build, Machine.processControllers controllers⟩)
    (f := fun bus => ((), DataBus.send value bus)) id
  simp only [writeToAddress]
  infer_instance

/-- Whatever else is on the control bus, no transaction powers off. -/
instance poweredOn_transacts : Transacts PoweredOn ⟨build, Machine.processControllers controllers⟩ where
  receive := keeps_onBus _ _ id
  memoryRead := read_staysOn build controllers (by decide)
  memoryWrite := write_staysOn build controllers (by decide)
  ioRead := read_staysOn build controllers (by decide)
  ioWrite := write_staysOn build controllers (by decide)

end PowerOff
end MachEmu.Proofs.BusDiscipline
