import MachEmu.Proofs.Starvation

/-! The ticks a run adds up, against the clock periods of the instructions it executes. -/

namespace MachEmu.Proofs.Cycles
open Intel8080 Isa8080 BusTransactions BusDiscipline Boundaries Instructions InstructionSet Interrupts Calls
  Ticks Starvation
open Machine Loop Traces Cadence Timeline

variable {ω : Type} (setup : Setup ω)

/-- The opcode that an execution fetches, unless it acknowledges an interrupt. -/
def fetched (s : System ω) : Option Byte :=
  match acknowledges s with
  | some _ => none
  | none =>
    match setup.memoryController.read s.cpu.pc s.world with
    | .ok opcode _ => some opcode
    | .error _ _ => none

/-- The clock periods of an execution. -/
def assigned (s : System ω) : Nat :=
  match acknowledges s with
  | some _ => interruptPeriods
  | none => ((fetched setup s).bind decode).elim 0 (clockPeriods (Flags.ofByte s.cpu.status))

def selfCopy : Instr → Bool
  | .mov dst src => dst == src
  | _ => false

def copies (s : System ω) : Bool := ((fetched setup s).bind decode).elim false selfCopy

def executions (moves : List (LoopMove ω)) : List (System ω × Byte) :=
  moves.filterMap fun move => (executes setup move.input move.before).map fun ticks => (pending move.before, ticks)

/-- The clock periods of all the executions of a run. -/
def cycles (moves : List (LoopMove ω)) : Nat :=
  ((executions setup moves).map fun execution => assigned setup execution.1).sum

def Documented (moves : List (LoopMove ω)) : Prop :=
  ∀ execution ∈ executions setup moves, ∀ opcode, fetched setup execution.1 = some opcode → opcode ∉ unassigned

section Instructions

/-- The helpers charge what is assigned, and one period less where a register is copied to itself. -/
theorem charge_assigned (flags : Flags) (instr : Instr) (form : wellFormed instr = true) :
    (charge flags instr).toNat + (selfCopy instr).toNat = clockPeriods flags instr := by
  cases instr with
  | mov dst src =>
    cases dst <;> cases src <;> first | rfl | cases form
  | inr r => cases r <;> rfl
  | dcr r => cases r <;> rfl
  | mvi r => cases r <;> rfl
  | alu op r => cases r <;> rfl
  | retIf cond =>
    simp only [charge, clockPeriods, selfCopy]
    split <;> rfl
  | callIf cond =>
    simp only [charge, clockPeriods, selfCopy]
    split <;> rfl
  | _ => rfl

variable {setup} {s after : System ω} {ticks : Byte}

theorem execute_assigned (lanes : Quiet (ControlBus.receive .interrupt s.bus).2)
    (documented : ∀ opcode, fetched setup s = some opcode → opcode ∉ unassigned)
    (ran : execute setup.wiring s = .ok ticks after) : ticks.toNat + (copies setup s).toNat = assigned setup s := by
  cases taken : acknowledges s with
  | some level =>
    obtain ⟨bus, -, dispatched⟩ := execute_dispatch setup.wiring lanes
    rw [dispatched, taken] at ran
    rw [(entry_returns level).returns ran]
    simp [copies, fetched, assigned, taken, interruptPeriods]
  | none =>
    obtain ⟨bus, executed⟩ := execute_fetched setup.build setup.memoryController setup.ioController lanes taken
    have again := executed.symm.trans ran
    cases read : setup.memoryController.read s.cpu.pc s.world with
    | error fault world => simp [read] at again
    | ok opcode world =>
      have same : fetched setup s = some opcode := by simp [fetched, taken, read]
      obtain ⟨instr, decoded⟩ := Option.ne_none_iff_exists'.mp (mt (decode_none opcode).mp (documented opcode same))
      have form : wellFormed instr = true := by simpa [decoded] using decode_wellFormed opcode
      rw [read] at again
      have returned := (switch_returns { s.cpu with opcode }).returns again
      simp only [periods, decoded] at returned
      simp only [copies, assigned, taken, same, Option.bind_some, decoded, Option.elim_some, returned]
      exact charge_assigned _ instr form

end Instructions

section Runs
variable {lib : Libraries} {build : Build} {start loop : Loop ω} {moves : List (LoopMove ω)} {setup}

theorem total_marks (choice : Choice ω) (loop : Loop ω) :
    total (marks setup choice loop) = ((executes setup choice loop).map BitVec.toNat).getD 0 := by
  have stops (calls : List Served) : total (calls.map Mark.stop) = 0 := by
    induction calls with
    | nil => rfl
    | cons call calls ih =>
      rw [List.map_cons, Cadence.total, List.map_cons, List.sum_cons]
      exact (Nat.zero_add _).trans ih
  rw [marks, total_append, stops]
  cases executes setup choice loop with
  | none => rfl
  | some ticks => rfl

theorem total_timeline (moves : List (LoopMove ω)) :
    total (timeline setup moves) = ((executions setup moves).map fun execution => execution.2.toNat).sum := by
  induction moves with
  | nil => rfl
  | cons move moves ih =>
    have split : timeline setup (move :: moves) = marks setup move.input move.before ++ timeline setup moves := rfl
    rw [split, total_append, ih, total_marks]
    cases executed : executes setup move.input move.before with
    | none => simp [executions, executed]
    | some ticks => simp [executions, executed]

theorem executions_ran {execution : System ω × Byte} (member : execution ∈ executions setup moves) :
    ∃ move ∈ moves, Executes move ∧ execution.1 = pending move.before ∧
      ∃ after, execute setup.wiring execution.1 = .ok execution.2 after := by
  obtain ⟨move, inside, made⟩ := List.mem_filterMap.mp member
  obtain ⟨ticks, executed, rfl⟩ := Option.map_eq_some_iff.mp made
  obtain ⟨executes, ran⟩ := executes_some executed
  exact ⟨move, inside, executes, rfl, ran⟩

theorem sum_copies (executions : List (System ω × Byte))
    (charged : ∀ execution ∈ executions, execution.2.toNat + (copies setup execution.1).toNat =
      assigned setup execution.1) :
    (executions.map fun execution => execution.2.toNat).sum + executions.countP
      (fun execution => copies setup execution.1) =
      (executions.map fun execution => assigned setup execution.1).sum := by
  induction executions with
  | nil => rfl
  | cons execution executions ih =>
    obtain ⟨first, others⟩ := List.forall_mem_cons.mp charged
    have rest := ih others
    simp only [List.map_cons, List.sum_cons, List.countP_cons]
    cases copied : copies setup execution.1 with
    | false =>
      rw [copied] at first
      simp only [Bool.toNat_false, Bool.false_eq_true, ite_false] at first ⊢
      omega
    | true =>
      rw [copied] at first
      simp only [Bool.toNat_true, ite_true] at first ⊢
      omega

/-- The total is that of the instructions just when no register is copied to itself. -/
theorem cycles_iff (entered : Lifecycle.Entered lib build setup start)
    (run : Run (recorded (Loop.step setup)) start moves loop) (documented : Documented setup moves) :
    loop.totalTicks = cycles setup moves ↔ ∀ execution ∈ executions setup moves, copies setup execution.1 = false := by
  have reached := entered.reachable
  have begun : Paces setup [] start := by
    obtain ⟨-, -, -, -, -, started⟩ := entered
    exact start_paces started
  have total : loop.totalTicks = _ := (run_paces run begun).1.total
  have charged : ∀ execution ∈ executions setup moves,
      execution.2.toNat + (copies setup execution.1).toNat = assigned setup execution.1 := by
    intro execution member
    obtain ⟨move, inside, executes, same, after, ran⟩ := executions_ran member
    have lanes := executes_lanes reached run inside executes
    rw [← same] at lanes
    exact execute_assigned lanes (documented execution member) ran
  have sum := sum_copies (executions setup moves) charged
  rw [total, total_timeline, cycles, ← sum, Int.natCast_inj, Nat.left_eq_add, List.countP_eq_zero]
  simp only [Bool.not_eq_true]

end Runs

section Session
open Lifecycle

def fourTurns (opcode : Byte) : Option (Loop Unit × List (LoopMove Unit)) :=
  Traces.run (recorded (Loop.step (slowSetup opcode))) (List.replicate 4 (.turn (.ok none) (.ok ()))) (slowLoop {})

theorem copying_entered : Entered slowLibraries ⟨true, false⟩ (slowSetup 0x40) (slowLoop {}) := by
  have entered : enter slowLibraries ⟨true, false⟩ () (slowCalls 0x40) 0 [10, 20, 20000, 20001] = some
      (slowSetup 0x40, slowLoop {}) := by
    with_unfolding_all rfl
  exact enter_entered entered

theorem four_documented {opcode : Byte} (known : opcode ∉ unassigned) {moves : List (LoopMove Unit)}
    (opcodes : (executions (slowSetup opcode) moves).map (fun execution => fetched (slowSetup opcode) execution.1) =
      List.replicate 4 (some opcode)) : Documented (slowSetup opcode) moves := by
  intro execution member other here
  have found := List.mem_map_of_mem (f := fun execution => fetched (slowSetup opcode) execution.1) member
  rw [opcodes] at found
  obtain rfl := Option.some.inj (here.symm.trans (List.eq_of_mem_replicate found))
  exact known

theorem copies_undercharged : ∃ moves loop, Entered slowLibraries ⟨true, false⟩ (slowSetup 0x40) (slowLoop {}) ∧
    Run (recorded (Loop.step (slowSetup 0x40))) (slowLoop {}) moves loop ∧ Documented (slowSetup 0x40) moves ∧
    loop.totalTicks = 16 ∧ cycles (slowSetup 0x40) moves = 20 := by
  have outcome : (fourTurns 0x40).map (fun out => (out.1.totalTicks, cycles (slowSetup 0x40) out.2,
      (executions (slowSetup 0x40) out.2).map fun execution => fetched (slowSetup 0x40) execution.1)) =
      some (16, 20, List.replicate 4 (some 0x40)) := by
    decide +kernel
  obtain ⟨⟨loop, moves⟩, ran, same⟩ := Option.map_eq_some_iff.mp outcome
  obtain ⟨ticks, same⟩ := Prod.mk.inj same
  obtain ⟨periods, opcodes⟩ := Prod.mk.inj same
  exact ⟨moves, loop, copying_entered, Run.of_run ran, four_documented (by decide) opcodes, ticks, periods⟩

theorem cycles_iff_nop : ∃ moves loop, Run (recorded (Loop.step (slowSetup 0x00))) (slowLoop {}) moves loop ∧
    (loop.totalTicks = cycles (slowSetup 0x00) moves ↔
      ∀ execution ∈ executions (slowSetup 0x00) moves, copies (slowSetup 0x00) execution.1 = false) := by
  have outcome : (fourTurns 0x00).map (fun out =>
      (executions (slowSetup 0x00) out.2).map fun execution => fetched (slowSetup 0x00) execution.1) =
      some (List.replicate 4 (some 0x00)) := by
    decide +kernel
  obtain ⟨⟨loop, moves⟩, ran, opcodes⟩ := Option.map_eq_some_iff.mp outcome
  exact ⟨moves, loop, Run.of_run ran, cycles_iff idling_entered (Run.of_run ran) (four_documented (by decide) opcodes)⟩

end Session
end MachEmu.Proofs.Cycles
