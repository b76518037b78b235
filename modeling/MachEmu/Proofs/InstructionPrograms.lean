import MachEmu.Lib.Programs
import MachEmu.Proofs.BusDiscipline

/-! Every execution is a program that asks a controller for a byte or tells it to
take one, whatever the controllers are. Instance search follows the text of each helper. -/

namespace MachEmu.Proofs.InstructionPrograms
open Intel8080 BusTransactions BusDiscipline Instructions InstructionSet Programs

inductive Device where
  | memory | io
deriving DecidableEq, Repr

def Device.readLane : Device → Signal
  | memory => .memoryRead
  | io => .ioRead

def Device.writeLane : Device → Signal
  | memory => .memoryWrite
  | io => .ioWrite

structure Question where
  device : Device
  addr : Word
deriving DecidableEq, Repr

structure Command where
  device : Device
  addr : Word
  value : Byte
deriving DecidableEq, Repr

abbrev CpuProgram (α : Type) := Program Intel8080 Question Command Byte α

variable {ω α β : Type}

/-- What the steps are in the emulator. The byte is received once the controllers were called. -/
def emulator (w : Wiring ω) : Interpretation Intel8080 Question Command Byte (EStateM Fault (System ω)) where
  look := cpu w
  change f := modifyCpu f w
  check := assert0 w
  ask question := (do readFromAddress question.device.readLane question.addr; receive) w
  tell command := writeToAddress command.device.writeLane command.addr command.value w

/-- A computation of the cpu that is a program of questions and commands. -/
class Written (x : ∀ ω, CpuM ω α) : Prop where
  written : ∃ p : CpuProgram α, ∀ ω (w : Wiring ω), x ω w = (emulator w).run p

section Combinators

instance written_bind (x : ∀ ω, CpuM ω α) (f : ∀ ω, α → CpuM ω β) [first : Written x]
    [rest : ∀ value, Written fun ω => f ω value] : Written fun ω => x ω >>= f ω := by
  constructor
  obtain ⟨p, first⟩ := first.written
  choose q rest using fun value => (rest value).written
  refine ⟨p.bind q, fun ω w => ?_⟩
  rw [Interpretation.run_bind, ← first]
  exact congrArg (x ω w >>= ·) (funext fun value => rest value ω w)

instance written_ite (c : Prop) [Decidable c] (x y : ∀ ω, CpuM ω α) [first : Written x] [second : Written y] :
    Written fun ω => if c then x ω else y ω := by
  split
  · exact first
  · exact second

instance written_pure (value : α) : Written fun ω => (pure value : CpuM ω α) := ⟨.pure value, fun _ _ => rfl⟩

instance written_cpu : Written fun ω => (cpu : CpuM ω Intel8080) := ⟨.look .pure, fun _ _ => rfl⟩

instance written_modifyCpu (f : Intel8080 → Intel8080) : Written fun ω => (modifyCpu f : CpuM ω Unit) :=
  ⟨.change f (.pure ()), fun _ _ => rfl⟩

instance written_assert0 : Written fun ω => (assert0 : CpuM ω Unit) :=
  ⟨.check (.pure ()), fun _ w => (bind_pure (assert0 w)).symm⟩

instance written_write (device : Device) (addr : Word) (value : Byte) :
    Written fun ω => (writeToAddress device.writeLane addr value : CpuM ω Unit) :=
  ⟨.tell ⟨device, addr, value⟩ (.pure ()), fun _ w => (bind_pure (writeToAddress device.writeLane addr value w)).symm⟩

theorem written_ask (device : Device) (addr : Word) (f : ∀ ω, Byte → CpuM ω α)
    (rest : ∀ value, Written fun ω => f ω value) :
    Written fun ω => readFromAddress device.readLane addr >>= fun _ => receive >>= f ω := by
  constructor
  choose q rest using fun value => (rest value).written
  refine ⟨.ask ⟨device, addr⟩ q, fun ω w => ?_⟩
  have continues : (fun value => f ω value w) = fun value => (emulator w).run (q value) :=
    funext fun value => rest value ω w
  calc (readFromAddress device.readLane addr >>= fun _ => receive >>= f ω) w
      = (emulator w).ask ⟨device, addr⟩ >>= fun value => f ω value w :=
        congrFun (bind_assoc (readFromAddress device.readLane addr) (fun _ => receive) (f ω)).symm w
    _ = (emulator w).run (.ask ⟨device, addr⟩ q) := congrArg _ continues

/-- Registers may be looked at before the byte is received. -/
theorem written_look (device : Device) (addr : Word) (f : ∀ ω, Intel8080 → Byte → CpuM ω α)
    (rest : ∀ self value, Written fun ω => f ω self value) :
    Written fun ω => readFromAddress device.readLane addr >>= fun _ => cpu >>= fun self => receive >>= f ω self := by
  have swapped : (fun ω => readFromAddress device.readLane addr >>= fun _ => cpu >>= fun self => receive >>= f ω self) =
      fun ω => readFromAddress device.readLane addr >>= fun _ => receive >>= fun value => cpu >>= fun self =>
        f ω self value := by
    funext ω w s
    simp only [bind_run, cpu_run, receive_run]
  rw [swapped]
  exact written_ask device addr _ fun value => written_bind _ _

instance written_memory (addr : Word) (f : ∀ ω, Byte → CpuM ω α) [rest : ∀ value, Written fun ω => f ω value] :
    Written fun ω => readFromAddress .memoryRead addr >>= fun _ => receive >>= f ω :=
  written_ask .memory addr f rest

instance written_io (addr : Word) (f : ∀ ω, Byte → CpuM ω α) [rest : ∀ value, Written fun ω => f ω value] :
    Written fun ω => readFromAddress .ioRead addr >>= fun _ => receive >>= f ω :=
  written_ask .io addr f rest

instance written_memoryLook (addr : Word) (f : ∀ ω, Intel8080 → Byte → CpuM ω α)
    [rest : ∀ self value, Written fun ω => f ω self value] :
    Written fun ω => readFromAddress .memoryRead addr >>= fun _ => cpu >>= fun self => receive >>= f ω self :=
  written_look .memory addr f rest

instance written_memoryWrite (addr : Word) (value : Byte) :
    Written fun ω => (writeToAddress .memoryWrite addr value : CpuM ω Unit) :=
  written_write .memory addr value

instance written_ioWrite (addr : Word) (value : Byte) : Written fun ω =>
    (writeToAddress .ioWrite addr value : CpuM ω Unit) :=
  written_write .io addr value

end Combinators

section Helpers
set_option synthInstance.maxSize 1024

instance : Written fun ω => (incPc : CpuM ω Word) := by simp only [incPc]; infer_instance
instance : Written fun ω => (nextPc : CpuM ω Unit) := by simp only [nextPc]; infer_instance
instance : Written fun ω => (postIncSp : CpuM ω Word) := by simp only [postIncSp]; infer_instance
instance : Written fun ω => (decSp : CpuM ω Word) := by simp only [decSp]; infer_instance
instance (r value) : Written fun ω => (setReg r value : CpuM ω Unit) := by simp only [setReg]; infer_instance
instance (lhs rhs carry setCarryFlag) : Written fun ω => (add lhs rhs carry setCarryFlag : CpuM ω Byte) := by
  simp only [add]; infer_instance
instance (r withCarry) : Written fun ω => (sub r withCarry : CpuM ω Byte) := by simp only [sub]; infer_instance
instance : Written fun ω => (logicFlags : CpuM ω Unit) := by simp only [logicFlags]; infer_instance
instance (r) : Written fun ω => (ana r : CpuM ω Unit) := by simp only [ana]; infer_instance
instance (r) : Written fun ω => (xra r : CpuM ω Unit) := by simp only [xra]; infer_instance
instance (r) : Written fun ω => (ora r : CpuM ω Unit) := by simp only [ora]; infer_instance
instance : Written fun ω => (operandAddress : CpuM ω Word) := by simp only [operandAddress]; infer_instance
instance (addr) : Written fun ω => (pushPcAndJump addr : CpuM ω Unit) := by simp only [pushPcAndJump]; infer_instance
instance (restart) : Written fun ω => (rstInterrupt restart : CpuM ω Byte) := by simp only [rstInterrupt]; infer_instance
instance : Written fun ω => (fetch : CpuM ω Unit) := by simp only [fetch]; infer_instance
instance notImplemented_written : Written fun ω => (notImplemented : CpuM ω Byte) := by
  simp only [notImplemented]; infer_instance

instance perform_written (self : Intel8080) (instr : Isa8080.Instr) : Written fun ω =>
    (perform self instr : CpuM ω Byte) := by
  unfold perform
  split
  all_goals
    simp only [nop, lxi, lxiSp, dad, dadSp, stax, ldax, shld, lhld, sta, lda, inx, inxSp, dcx, dcxSp, inr, inrM, dcr,
      dcrM, mvi, mviM, rlc, rrc, ral, rar, daa, cma, stc, cmc, mov, movToM, movFromM, hlt, addR, addM, adcR, adcM,
      subR, subM, sbbR, sbbM, anaR, anaM, xraR, xraM, oraR, oraM, cmpR, cmpM, retOnFlag, jmpOnFlag, callOnFlag, push,
      pop, rst, out, in_, xthl, pchl, sphl, xchg, di, ei]
    infer_instance

instance switch_written (self : Intel8080) : Written fun ω => (switch self : CpuM ω Byte) := by
  simp only [switch_eq]
  split
  · infer_instance
  · exact notImplemented_written

instance dispatch_written (isr : Option Byte) : Written fun ω => (dispatch isr : CpuM ω Byte) := by
  cases isr with
  | none => simp only [dispatch]; infer_instance
  | some isr => simp only [dispatch]; infer_instance

end Helpers

/-- The program of an execution: that of the next instruction, or of the entry of an interrupt. -/
noncomputable def program (isr : Option Byte) : CpuProgram Byte := Classical.choose (dispatch_written isr).written

theorem dispatch_eq (isr : Option Byte) (w : Wiring ω) : dispatch isr w = (emulator w).run (program isr) :=
  Classical.choose_spec (dispatch_written isr).written ω w

end MachEmu.Proofs.InstructionPrograms
