import MachEmu.Proofs.Calls

/-! The ticks an execution returns, for arbitrary controllers. Instance search
follows the text of each helper. -/

namespace MachEmu.Proofs.Ticks
open Intel8080 Isa8080 BusTransactions BusDiscipline Instructions InstructionSet

variable {ω α : Type}

class Returns (x : CpuM ω Byte) (ticks : outParam Byte) : Prop where
  returns : ∀ {w s value after}, x w s = .ok value after → value = ticks

section Combinators

instance returns_bind (x : CpuM ω α) (f : α → CpuM ω Byte) (ticks : Byte) [rest : ∀ value, Returns (f value) ticks] :
    Returns (x >>= f) ticks := by
  constructor
  intro w s result after ran
  rw [bind_run] at ran
  split at ran
  next value mid begun => exact (rest value).returns ran
  next => cases ran

instance returns_pure (ticks : Byte) : Returns (pure ticks : CpuM ω Byte) ticks := by
  constructor
  intro w s result after ran
  cases ran
  rfl

instance returns_ite (c : Prop) [Decidable c] (x y : CpuM ω Byte) (first second : Byte) [one : Returns x first]
    [two : Returns y second] : Returns (if c then x else y) (if c then first else second) := by
  split
  · exact one
  · exact two

instance (priority := high) returns_ite_same (c : Prop) [Decidable c] (x y : CpuM ω Byte) (ticks : Byte)
    [one : Returns x ticks] [two : Returns y ticks] : Returns (if c then x else y) ticks := by
  split
  · exact one
  · exact two

end Combinators

theorem Returns.congr {x : CpuM ω Byte} {ticks : Byte} [returned : Returns x ticks] {other : Byte} (same : ticks = other) :
    Returns x other := same ▸ returned

section Helpers
variable (self : Intel8080)

instance retOnFlag_returns (status : Bool) (name : String) :
    Returns (retOnFlag (ω := ω) status name) (if status = true then if (name == "RET") = true then 10 else 11 else 5) := by
  simp only [retOnFlag]
  infer_instance

instance callOnFlag_returns (status : Bool) : Returns (callOnFlag (ω := ω) status) (if status = true then 17 else 11) := by
  simp only [callOnFlag]
  infer_instance

instance pop_returns (hi low : Register) : Returns (pop (ω := ω) hi low) 10 := by
  simp only [pop]
  infer_instance

/-- The periods of the one helper that is followed by something else. -/
theorem popStatus_returns (f : Intel8080 → Intel8080) : Returns (do
    let timePeriods ← pop (ω := ω) .a .status
    modifyCpu f
    return timePeriods) 10 := by
  constructor
  intro w s value after ran
  rw [bind_run] at ran
  split at ran
  next timePeriods mid popped =>
    cases ran
    exact (pop_returns .a .status).returns popped
  next => cases ran

theorem retIf_returns {cond : Cond} {status : Bool} {name : String} (taken : status = perform.flagIs self cond)
    (other : (name == "RET") = false) :
    Returns (retOnFlag (ω := ω) status name) (charge (Flags.ofByte self.status) (.retIf cond)) := by
  refine Returns.congr ?_
  rw [taken, flagIs_holds, other]
  rfl

theorem callIf_returns (cond : Cond) :
    Returns (callOnFlag (ω := ω) (perform.flagIs self cond)) (charge (Flags.ofByte self.status) (.callIf cond)) := by
  refine Returns.congr ?_
  rw [flagIs_holds]
  rfl

theorem mov_returns (dst src : Operand) : Returns (perform (ω := ω) self (.mov dst src))
    (charge (Flags.ofByte self.status) (.mov dst src)) := by
  simp only [perform, nop, mov, movToM, movFromM]
  have charged : charge (Flags.ofByte self.status) (.mov dst src) =
    if dst = src then 4 else if dst = .m ∨ src = .m then 7 else 5 := rfl
  refine Returns.congr ?_
  rw [charged, ← ite_or]

theorem perform_returns (instr : Instr) : Returns (perform (ω := ω) self instr)
    (charge (Flags.ofByte self.status) instr) := by
  unfold perform
  split
  all_goals
    first
      | simp only [nop, lxi, lxiSp, dad, dadSp, stax, ldax, shld, lhld, sta, lda, inx, inxSp, dcx, dcxSp, inr, inrM, dcr,
          dcrM, mvi, mviM, rlc, rrc, ral, rar, daa, cma, stc, cmc, hlt, addR, addM, adcR, adcM, subR, subM, sbbR, sbbM,
          anaR, anaM, xraR, xraM, oraR, oraM, cmpR, cmpM, jmpOnFlag, push, rst, out, in_, xthl, pchl, sphl, xchg, di, ei]
        exact Returns.congr rfl
      | exact Returns.congr rfl
      | exact retIf_returns self rfl rfl
      | exact callIf_returns self _
      | exact mov_returns self _ _
      | exact popStatus_returns _

end Helpers

section Executions
variable {w : Wiring ω} {s after : System ω} {ticks : Byte}

theorem charge_range (flags : Flags) (instr : Instr) : 4 ≤ (charge flags instr).toNat ∧
    (charge flags instr).toNat ≤ 18 := by
  unfold charge
  split
  all_goals
    first
      | decide
      | (split <;> first | decide | (split <;> decide))

instance notImplemented_returns : Returns (notImplemented (ω := ω)) 0 := by
  simp only [notImplemented]
  infer_instance

/-- The periods of an opcode; there are none for those without an instruction. -/
def periods (self : Intel8080) : Byte :=
  match decode self.opcode with
  | some instr => charge (Flags.ofByte self.status) instr
  | none => 0

theorem switch_returns (self : Intel8080) : Returns (switch (ω := ω) self) (periods self) := by
  rw [switch_eq, periods]
  cases decode self.opcode with
  | some instr => exact perform_returns self instr
  | none => exact notImplemented_returns

instance rstInterrupt_returns (restart : Byte) : Returns (rstInterrupt (ω := ω) restart) 11 := by
  simp only [rstInterrupt]
  infer_instance

theorem periods_most (self : Intel8080) : (periods self).toNat ≤ 18 := by
  unfold periods
  cases decode self.opcode with
  | some instr => exact (charge_range _ instr).2
  | none => exact Nat.zero_le 18

theorem dispatch_most {isr : Option Byte} (ran : dispatch isr w s = .ok ticks after) : ticks.toNat ≤ 18 := by
  cases isr with
  | none =>
    simp only [dispatch] at ran
    rw [bind_run] at ran
    split at ran
    next mid fetched =>
      rw [bind_run, cpu_run] at ran
      rw [(switch_returns mid.cpu).returns ran]
      exact periods_most mid.cpu
    next => cases ran
  | some level =>
    simp only [dispatch] at ran
    rw [bind_run, modifyCpu_run] at ran
    dsimp only at ran
    rw [bind_run, cpu_run] at ran
    rw [(rstInterrupt_returns _).returns ran]
    decide

/-- No execution takes longer than an exchange with the top of the stack. -/
theorem execute_most (ran : execute w s = .ok ticks after) : ticks.toNat ≤ 18 := by
  rw [execute_run] at ran
  split at ran
  next =>
    split at ran
    next => exact dispatch_most ran
    next => exact dispatch_most ran
  next => exact dispatch_most ran

end Executions
end MachEmu.Proofs.Ticks
