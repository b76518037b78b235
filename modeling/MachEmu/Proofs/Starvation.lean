import MachEmu.Proofs.Interrupts
import MachEmu.Proofs.ServiceCadence

/-! Whether a guest program can keep interrupts from being serviced. Opcodes without
an instruction take no ticks, or fail an assertion where these are compiled in. -/

namespace MachEmu.Proofs.Starvation
open Intel8080 Isa8080 BusTransactions BusDiscipline Boundaries Instructions InstructionSet InstructionPrograms
  Interrupts Calls Ticks
open Machine Loop Traces Cadence Timeline

variable {ω α β : Type} {setup : Setup ω}

def Threw (fault : Fault) : Access → Prop
  | .read _ _ answer => answer = .error fault
  | .write _ _ _ answer => answer = .error fault
  | .serviceInterrupts _ _ _ answer => answer = .error fault

def Blamed (fault : Fault) (calls : List Access) : Prop :=
  ∃ earlier access, calls = earlier ++ [access] ∧ Threw fault access

section Assertions

/-- On lanes that are clear the computation fails only with the fault of a controller. -/
class Calm (setup : Setup ω) (x : CpuM (Listened ω) α) : Prop where
  calm : ∀ {s fault after}, Quiet s.bus → x (listening setup).wiring s = .error fault after → Blamed fault after.world.2

instance calm_bind (x : CpuM (Listened ω) α) (f : α → CpuM (Listened ω) β) [first : Calm setup x]
    [keeps : Keeps Quiet (listening setup).wiring x] [rest : ∀ value, Calm setup (f value)] : Calm setup (x >>= f) := by
  constructor
  intro s fault after quiet failed
  rw [bind_run] at failed
  split at failed
  next value mid ran => exact (rest value).calm (keeps.kept quiet ran) failed
  next fault mid ran =>
    cases failed
    exact first.calm quiet ran

instance calm_ite (c : Prop) [Decidable c] (x y : CpuM (Listened ω) α) [first : Calm setup x] [second : Calm setup y] :
    Calm setup (if c then x else y) := by
  split
  · exact first
  · exact second

instance calm_pure (value : α) : Calm setup (pure value : CpuM (Listened ω) α) := ⟨nofun⟩

instance calm_cpu : Calm setup (cpu : CpuM (Listened ω) Intel8080) := ⟨nofun⟩

instance calm_modifyCpu (f : Intel8080 → Intel8080) : Calm setup (modifyCpu f : CpuM (Listened ω) Unit) := ⟨nofun⟩

instance calm_receive : Calm setup (receive : CpuM (Listened ω) Byte) := ⟨nofun⟩

theorem heard_blamed (access : Except Fault α → Access) (threw : ∀ fault, Threw fault (access (.error fault)))
    {method : EStateM Fault ω α} {fault : Fault} {world after : Listened ω}
    (failed : heard access method world = .error fault after) : Blamed fault after.2 := by
  unfold heard at failed
  split at failed
  next => cases failed
  next fault last ran =>
    cases failed
    exact ⟨world.2, access (.error fault), rfl, threw fault⟩

theorem read_heard {controller : IController ω} {addr : Word} {value : Byte} {world after : Listened ω}
    (heard : (listen .memory controller).read addr world = .ok value after) :
      controller.read addr world.1 = .ok value after.1 := by
  change Calls.heard _ _ _ = _ at heard
  unfold Calls.heard at heard
  split at heard
  next ran =>
    cases heard
    exact ran
  next => cases heard

theorem listening_wiring (setup : Setup ω) : (listening setup).wiring =
    wiring setup.build (listen .memory setup.memoryController) (listen .io setup.ioController) := rfl

instance calm_memoryRead (addr : Word) : Calm setup (readFromAddress (ω := Listened ω) .memoryRead addr) := by
  constructor
  rintro ⟨self, ⟨address, data, control⟩, world⟩ fault after quiet failed
  obtain rfl : control = 0#8 := quiet
  rw [listening_wiring, readFromAddress_memory] at failed
  split at failed
  next => cases failed
  next called =>
    cases failed
    exact heard_blamed (.read .memory addr) (fun _ => rfl) called

instance calm_ioRead (addr : Word) : Calm setup (readFromAddress (ω := Listened ω) .ioRead addr) := by
  constructor
  rintro ⟨self, ⟨address, data, control⟩, world⟩ fault after quiet failed
  obtain rfl : control = 0#8 := quiet
  rw [listening_wiring, readFromAddress_io] at failed
  split at failed
  next => cases failed
  next called =>
    cases failed
    exact heard_blamed (.read .io addr) (fun _ => rfl) called

instance calm_memoryWrite (addr : Word) (value : Byte) :
    Calm setup (writeToAddress (ω := Listened ω) .memoryWrite addr value) := by
  constructor
  rintro ⟨self, ⟨address, data, control⟩, world⟩ fault after quiet failed
  obtain rfl : control = 0#8 := quiet
  rw [listening_wiring, writeToAddress_memory] at failed
  split at failed
  next => cases failed
  next called =>
    cases failed
    exact heard_blamed (.write .memory addr value) (fun _ => rfl) called

instance calm_ioWrite (addr : Word) (value : Byte) : Calm setup (writeToAddress (ω := Listened ω) .ioWrite addr value) := by
  constructor
  rintro ⟨self, ⟨address, data, control⟩, world⟩ fault after quiet failed
  obtain rfl : control = 0#8 := quiet
  rw [listening_wiring, writeToAddress_io] at failed
  split at failed
  next => cases failed
  next called =>
    cases failed
    exact heard_blamed (.write .io addr value) (fun _ => rfl) called

/-- Where it is compiled out an assertion does not fail. -/
theorem calm_assert0 (compiledOut : setup.build.ndebug = true) : Calm setup (assert0 : CpuM (Listened ω) Unit) := by
  constructor
  intro s fault after quiet failed
  have out : (listening setup).wiring.build.ndebug = true := compiledOut
  rw [assert0_eq, if_pos out] at failed
  cases failed

end Assertions

section Helpers
set_option synthInstance.maxSize 1024

instance : Calm setup (incPc (ω := Listened ω)) := by simp only [incPc]; infer_instance
instance : Calm setup (nextPc (ω := Listened ω)) := by simp only [nextPc]; infer_instance
instance : Calm setup (postIncSp (ω := Listened ω)) := by simp only [postIncSp]; infer_instance
instance : Calm setup (decSp (ω := Listened ω)) := by simp only [decSp]; infer_instance
instance (r value) : Calm setup (setReg (ω := Listened ω) r value) := by simp only [setReg]; infer_instance
instance (lhs rhs carry setCarryFlag) : Calm setup (add (ω := Listened ω) lhs rhs carry setCarryFlag) := by
  simp only [add]; infer_instance
instance (r withCarry) : Calm setup (sub (ω := Listened ω) r withCarry) := by simp only [sub]; infer_instance
instance : Calm setup (logicFlags (ω := Listened ω)) := by simp only [logicFlags]; infer_instance
instance (r) : Calm setup (ana (ω := Listened ω) r) := by simp only [ana]; infer_instance
instance (r) : Calm setup (xra (ω := Listened ω) r) := by simp only [xra]; infer_instance
instance (r) : Calm setup (ora (ω := Listened ω) r) := by simp only [ora]; infer_instance
instance : Calm setup (operandAddress (ω := Listened ω)) := by simp only [operandAddress]; infer_instance
instance (addr) : Calm setup (pushPcAndJump (ω := Listened ω) addr) := by simp only [pushPcAndJump]; infer_instance
instance (restart) : Calm setup (rstInterrupt (ω := Listened ω) restart) := by simp only [rstInterrupt]; infer_instance

/-- No instruction but a halt asserts anything. -/
theorem perform_calm (self : Intel8080) {instr : Instr} (runs : setup.build.ndebug = false → instr ≠ .hlt) :
    Calm setup (perform (ω := Listened ω) self instr) := by
  by_cases halts : instr = .hlt
  · have compiledOut : setup.build.ndebug = true := by
      cases build : setup.build.ndebug with
      | false => exact absurd halts (runs build)
      | true => rfl
    have asserts : Calm setup (assert0 : CpuM (Listened ω) Unit) := calm_assert0 compiledOut
    rw [halts, perform, hlt]
    infer_instance
  · unfold perform
    split
    all_goals
      first
        | exact absurd rfl halts
        | simp only [nop, lxi, lxiSp, dad, dadSp, stax, ldax, shld, lhld, sta, lda, inx, inxSp, dcx, dcxSp, inr, inrM, dcr,
            dcrM, mvi, mviM, rlc, rrc, ral, rar, daa, cma, stc, cmc, mov, movToM, movFromM, addR, addM, adcR, adcM,
            subR, subM, sbbR, sbbM, anaR, anaM, xraR, xraM, oraR, oraM, cmpR, cmpM, retOnFlag, jmpOnFlag, callOnFlag, push,
            pop, rst, out, in_, xthl, pchl, sphl, xchg, di, ei]
          infer_instance

end Helpers

section Executions
variable {s : System ω}

/-- The interrupt an execution acknowledges. -/
def acknowledges (s : System ω) : Option Byte :=
  if s.bus.controlBus.getLsbD Signal.interrupt.lane && s.cpu.iff then some s.bus.dataBus else none

/-- An execution that acknowledges no interrupt reads this opcode. -/
def Fetches (setup : Setup ω) (s : System ω) (opcode : Byte) : Prop :=
  acknowledges s = none ∧ ∃ world, setup.memoryController.read s.cpu.pc s.world = .ok opcode world

/-- An opcode that is fetched has an instruction, and asserts nothing where assertions are compiled in. -/
def Safe (setup : Setup ω) (s : System ω) : Prop :=
  ∀ opcode, Fetches setup s opcode → opcode ∉ unassigned ∧ (setup.build.ndebug = false → opcode ≠ 0x76)

/-- An execution returns no fewer ticks than the shortest instruction takes, and fails
no assertion but those of a controller. -/
structure Prompt (setup : Setup ω) (s : System ω) : Prop where
  ticks : ∀ ticks after, execute setup.wiring s = .ok ticks after → 4 ≤ ticks.toNat
  asserts : ∀ after, execute (listening setup).wiring { s with world := (s.world, []) } = .error .assertion after →
    Blamed .assertion after.world.2

def entering (s : System ω) : Intel8080 := { s.cpu with iff := s.cpu.iff && (acknowledges s).isNone }

theorem execute_dispatch (w : Wiring ω) (lanes : Quiet (ControlBus.receive .interrupt s.bus).2) :
    ∃ bus, Quiet bus ∧ execute w s = dispatch (acknowledges s) w ⟨entering s, bus, s.world⟩ := by
  have clear : Quiet (DataBus.receive (ControlBus.receive .interrupt s.bus).2).2 := lanes
  obtain ⟨⟨a, b, c, d, e, h, l, pc, sp, status, iff, opcode⟩, bus, world⟩ := s
  rw [execute_run, entering, acknowledges]
  cases pending : bus.controlBus.getLsbD Signal.interrupt.lane with
  | false => exact ⟨_, lanes, by simp⟩
  | true =>
    cases iff with
    | false => exact ⟨_, clear, by simp⟩
    | true => exact ⟨_, clear, by simp⟩

/-- An execution that acknowledges nothing is a fetch and the switch. -/
theorem execute_fetched (build : Build) (memory io : IController ω) (lanes : Quiet (ControlBus.receive .interrupt s.bus).2)
    (unacknowledged : acknowledges s = none) : ∃ bus, execute (wiring build memory io) s =
      match memory.read s.cpu.pc s.world with
      | .ok opcode world => switch { s.cpu with opcode } (wiring build memory io) ⟨{ s.cpu with opcode }, {}, world⟩
      | .error fault world => .error fault ⟨s.cpu, bus, world⟩ := by
  obtain ⟨⟨addr, data, control⟩, quiet, ran⟩ := execute_dispatch (wiring build memory io) lanes
  obtain rfl : control = 0#8 := quiet
  have same : entering s = s.cpu := by simp [entering, unacknowledged]
  rw [unacknowledged, same, dispatch_none_run] at ran
  exact ⟨_, ran⟩

/-- No assertion stands in the way of an opcode without an instruction. -/
def Passes (build : Build) (opcode : Byte) : Prop := build.ndebug = true ∨ opcode ∈ [0xED, 0xFD, 0xDD]

theorem prefixed_iff (opcode : Byte) : (opcode == 0xED || opcode == 0xFD || opcode == 0xDD) = true ↔
    opcode ∈ [0xED, 0xFD, 0xDD] := by
  simp [or_assoc]

theorem notImplemented_passes {w : Wiring ω} (passes : Passes w.build s.cpu.opcode) : ∃ after,
    notImplemented w s = .ok 0 after := by
  unfold notImplemented
  rw [bind_run, cpu_run]
  dsimp only
  by_cases prefixed : s.cpu.opcode ∈ [0xED, 0xFD, 0xDD]
  · rw [if_pos ((prefixed_iff _).mpr prefixed)]
    exact ⟨_, rfl⟩
  · rw [if_neg (mt (prefixed_iff _).mp prefixed), bind_run, assert0_eq, if_pos (passes.resolve_right prefixed)]
    exact ⟨_, rfl⟩

theorem notImplemented_asserts {w : Wiring ω} (asserts : ¬ Passes w.build s.cpu.opcode) :
    notImplemented w s = .error .assertion s := by
  obtain ⟨compiledIn, other⟩ := not_or.mp asserts
  unfold notImplemented
  rw [bind_run, cpu_run]
  dsimp only
  rw [if_neg (mt (prefixed_iff _).mp other), bind_run, assert0_eq, if_neg compiledIn]
  rfl

theorem switch_undecoded {opcode : Byte} (undecoded : decode opcode = none) (self : Intel8080) :
    switch (ω := ω) { self with opcode } = notImplemented := by
  rw [switch_eq]
  dsimp only
  rw [undecoded]

theorem hlt_run (w : Wiring ω) (s : System ω) (asserts : w.build.ndebug = false) : hlt w s = .error .assertion s := by
  unfold hlt
  rw [bind_run, assert0_eq, asserts]
  rfl

theorem fetch_blameless {opcode : Byte} {addr : Word} {world after : ω}
    (fetched : setup.memoryController.read addr world = .ok opcode after) :
    ∃ last : Listened ω, (listen .memory setup.memoryController).read addr (world, []) = .ok opcode last ∧
      ¬ Blamed .assertion last.2 := by
  refine ⟨_, heard_ok (.read .memory addr) [] fetched, ?_⟩
  rintro ⟨earlier, access, same, threw⟩
  obtain ⟨-, last⟩ := List.append_inj' same rfl
  cases last
  cases threw

theorem Prompt.slow {opcode : Byte} (prompt : Prompt setup s) (lanes : Quiet (ControlBus.receive .interrupt s.bus).2)
    (fetches : Fetches setup s opcode) :
    ¬ ∀ cpu : Intel8080, ∀ world, ∃ after, switch
      { cpu with opcode } setup.wiring ⟨{ cpu with opcode }, {}, world⟩ = .ok 0 after := by
  obtain ⟨unacknowledged, world, fetched⟩ := fetches
  obtain ⟨bus, ran⟩ := execute_fetched setup.build setup.memoryController setup.ioController lanes unacknowledged
  rw [fetched] at ran
  intro slow
  obtain ⟨after, slow⟩ := slow s.cpu world
  have least := prompt.ticks 0 after (ran.trans slow)
  exact absurd least (by decide)

theorem Prompt.asserting {opcode : Byte} (prompt : Prompt setup s) (lanes : Quiet (ControlBus.receive .interrupt s.bus).2)
    (fetches : Fetches setup s opcode) :
    ¬ ∀ cpu : Intel8080, ∀ world, switch { cpu with opcode } (listening setup).wiring ⟨{ cpu with opcode }, {}, world⟩ =
      .error .assertion ⟨{ cpu with opcode }, {}, world⟩ := by
  obtain ⟨unacknowledged, world, fetched⟩ := fetches
  obtain ⟨last, heard, blameless⟩ := fetch_blameless fetched
  obtain ⟨bus, ran⟩ := execute_fetched (s := { s with world := (s.world, []) }) setup.build
    (listen .memory setup.memoryController) (listen .io setup.ioController) lanes unacknowledged
  rw [heard] at ran
  intro asserts
  exact blameless (prompt.asserts _ (ran.trans (asserts s.cpu last)))

theorem Prompt.safe (prompt : Prompt setup s) (lanes : Quiet (ControlBus.receive .interrupt s.bus).2) : Safe setup s := by
  intro opcode fetches
  have slow := prompt.slow lanes fetches
  have asserting := prompt.asserting lanes fetches
  refine ⟨fun unassigned => ?_, fun asserts halts => asserting fun cpu world => ?_⟩
  · have undecoded := (decode_none opcode).mpr unassigned
    by_cases passes : Passes setup.build opcode
    · refine slow fun cpu world => ?_
      rw [switch_undecoded undecoded]
      exact notImplemented_passes passes
    · refine asserting fun cpu world => ?_
      rw [switch_undecoded undecoded]
      exact notImplemented_asserts passes
  · have decoded := (decode_hlt opcode).mpr halts
    rw [switch_eq]
    dsimp only
    rw [decoded]
    exact hlt_run _ _ asserts

theorem entry_returns (level : Byte) : Returns (dispatch (ω := ω) (some level)) 11 := by
  simp only [dispatch]
  infer_instance

theorem entry_calm (level : Byte) : Calm setup (dispatch (ω := Listened ω) (some level)) := by
  simp only [dispatch]
  infer_instance

theorem Safe.ticks (safe : Safe setup s) (lanes : Quiet (ControlBus.receive .interrupt s.bus).2) {ticks : Byte}
    {after : System ω} (ran : execute setup.wiring s = .ok ticks after) : 4 ≤ ticks.toNat := by
  cases taken : acknowledges s with
  | some level =>
    obtain ⟨bus, -, dispatched⟩ := execute_dispatch setup.wiring lanes
    rw [dispatched, taken] at ran
    rw [(entry_returns level).returns ran]
    decide
  | none =>
    obtain ⟨bus, fetched⟩ := execute_fetched setup.build setup.memoryController setup.ioController lanes taken
    have again := fetched.symm.trans ran
    split at again
    next opcode world read =>
      obtain ⟨instr, decoded⟩ := Option.ne_none_iff_exists'.mp
        (mt (decode_none opcode).mp (safe opcode ⟨taken, world, read⟩).1)
      rw [(switch_returns _).returns again, periods, decoded]
      exact (charge_range _ instr).1
    next => cases again

theorem Safe.asserts (safe : Safe setup s) (lanes : Quiet (ControlBus.receive .interrupt s.bus).2) {fault : Fault}
    {after : System (Listened ω)} (failed : execute (listening setup).wiring { s with world := (s.world, []) } =
      .error fault after) :
    Blamed fault after.world.2 := by
  cases taken : acknowledges s with
  | some level =>
    have again : acknowledges ({ s with world := (s.world, []) } : System (Listened ω)) = some level := taken
    obtain ⟨bus, quiet, dispatched⟩ := execute_dispatch (s := { s with world := (s.world, []) })
      (listening setup).wiring lanes
    rw [dispatched, again] at failed
    exact (entry_calm level).calm quiet failed
  | none =>
    obtain ⟨bus, fetched⟩ := execute_fetched (s := { s with world := (s.world, []) }) setup.build
      (listen .memory setup.memoryController) (listen .io setup.ioController) lanes taken
    have again := fetched.symm.trans failed
    split at again
    next opcode world heard =>
      obtain ⟨assigned, runs⟩ := safe opcode ⟨taken, world.1, read_heard heard⟩
      obtain ⟨instr, decoded⟩ := Option.ne_none_iff_exists'.mp (mt (decode_none opcode).mp assigned)
      rw [switch_eq] at again
      dsimp only at again
      rw [decoded] at again
      have halts (asserts : setup.build.ndebug = false) : instr ≠ .hlt := by
        rintro rfl
        exact runs asserts ((decode_hlt opcode).mp decoded)
      exact (perform_calm _ halts).calm rfl again
    next called =>
      cases again
      exact heard_blamed (.read .memory s.cpu.pc) (fun _ => rfl) called

/-- Whether an execution is prompt is decided by the opcode it fetches. -/
theorem prompt_iff (lanes : Quiet (ControlBus.receive .interrupt s.bus).2) : Prompt setup s ↔ Safe setup s :=
  ⟨fun prompt => prompt.safe lanes, fun safe =>
    ⟨fun _ _ ran => safe.ticks lanes ran, fun _ failed => safe.asserts lanes failed⟩⟩

end Executions

section Runs
variable {lib : Libraries} {build : Build} {start loop : Loop ω} {moves : List (LoopMove ω)}

def Executes (move : LoopMove ω) : Prop :=
  (∃ loaded saved, move.input = .turn loaded saved) ∧ move.before.point = .head ∧ PoweredOn move.before.sys.bus

/-- No execution is slow or fails an assertion, and interrupts are serviced after at
most so many of them. -/
structure Attended (setup : Setup ω) (moves : List (LoopMove ω)) : Prop where
  prompt : ∀ move ∈ moves, Executes move → Prompt setup (pending move.before)
  works : ∀ amount, .work amount ∈ timeline setup moves → 4 ≤ amount
  serviced : ∀ before gap after, timeline setup moves = before ++ gap ++ after →
    max setup.ticksPerIsr 0 / 4 + 1 ≤ gap.length → Stops gap ∨ ∃ call rest, after = .stop call :: rest

theorem executes_some {choice : Choice ω} {ticks : Byte} (executed : executes setup choice loop = some ticks) :
    ((∃ loaded saved, choice = .turn loaded saved) ∧ loop.point = .head ∧ PoweredOn loop.sys.bus) ∧
      ∃ sys, execute setup.wiring (pending loop) = .ok ticks sys := by
  unfold executes at executed
  split at executed
  next loaded saved here =>
    split at executed
    next => cases executed
    next on =>
      split at executed
      next ran =>
        cases executed
        exact ⟨⟨⟨loaded, saved, rfl⟩, here, Bool.eq_false_iff.mpr on⟩, _, ran⟩
      next => cases executed
  next => cases executed

theorem work_executes {amount : Nat} (worked : .work amount ∈ timeline setup moves) :
    ∃ move ∈ moves, Executes move ∧ ∃ ticks sys, execute setup.wiring (pending move.before) = .ok ticks sys ∧
      amount = ticks.toNat := by
  obtain ⟨move, member, worked⟩ := List.mem_flatMap.mp worked
  refine ⟨move, member, ?_⟩
  rcases List.mem_append.mp worked with worked | stopped
  · obtain ⟨ticks, executed, same⟩ := List.mem_map.mp worked
    obtain ⟨executes, sys, ran⟩ := executes_some (Option.mem_toList.mp executed)
    cases same
    exact ⟨executes, ticks, sys, ran, rfl⟩
  · obtain ⟨call, -, impossible⟩ := List.mem_map.mp stopped
    cases impossible

/-- Every execution begins on lanes that hold at most an interrupt. -/
theorem executes_lanes (reached : Lifecycle.Reachable lib build setup start)
    (run : Run (recorded (Loop.step setup)) start moves loop)
    {move : LoopMove ω} (member : move ∈ moves) (executes : Executes move) :
    Quiet (ControlBus.receive .interrupt (pending move.before).bus).2 := by
  have settled : Settled loop ∧ ∀ move ∈ moves, Settled move.before := by
    refine run.invariant (fun moves loop => Settled loop ∧ ∀ move ∈ moves, Settled move.before)
      ⟨reached.settled, List.forall_mem_nil _⟩ ?_
    rintro moves loop choice after added ⟨settled, before⟩ moved
    obtain ⟨events, stepped, rfl⟩ := recorded_some moved
    exact ⟨step_settled settled stepped, List.forall_mem_append.mpr ⟨before, List.forall_mem_singleton.mpr settled⟩⟩
  obtain ⟨-, here, -⟩ := executes
  have raised := settled.2 move member
  unfold Settled at raised
  rw [here] at raised
  exact raised_received raised

/-- A guest keeps interrupts from being serviced only by opcodes that have no instruction,
or by those that assert. -/
theorem run_attended {sys : System ω} {clock : CpuClock} {host : SteadyClock.Host}
    (reached : Lifecycle.Reachable lib build setup start)
    (entered : Loop.start setup sys clock host = .ok start) (run : Run (recorded (Loop.step setup)) start moves loop) :
    Attended setup moves ↔ ∀ move ∈ moves, Executes move → Safe setup (pending move.before) := by
  constructor
  · intro attended move member executes
    exact (attended.prompt move member executes).safe (executes_lanes reached run member executes)
  · intro safe
    have works : ∀ amount, .work amount ∈ timeline setup moves → 4 ≤ amount := by
      intro amount worked
      obtain ⟨move, member, executes, ticks, sys, ran, rfl⟩ := work_executes worked
      exact (safe move member executes).ticks (executes_lanes reached run member executes) ran
    refine ⟨fun move member executes => ?_, works, fun before gap after same long => ?_⟩
    · exact (prompt_iff (executes_lanes reached run member executes)).mpr (safe move member executes)
    · have paced := (run_paces run (start_paces entered)).1.paced
      rw [same] at paced works
      have slow : ∀ amount, .work amount ∈ gap → 4 ≤ amount := fun amount member => works amount (by simp [member])
      refine paced.stretch slow (by omega) ?_
      rintro rfl
      simp only [List.length_nil] at long
      omega

end Runs

section Session
open Lifecycle

def options : String := "\x7b\"clockResolution\":10000,\"isrFreq\":1\x7d"

def slowLibraries : Libraries := { sessionLibraries with
  parse := fun text =>
    if text = options then some (.object [("clockResolution", .integer 10000), ("isrFreq", .integer 1)])
    else if text = "\x7b\"clockResolution\":10000\x7d" then some (.object [("clockResolution", .integer 10000)])
    else sessionLibraries.parse text }

/-- Interrupts are to be serviced every twenty ticks of a memory that is full of one opcode. -/
def slowCalls (opcode : Byte) : List (Call Unit) :=
  [.setOptions (some options), .setMemoryController (some (quitter (return opcode))),
    .setIoController (some (quitter (return 0)))]

def slowSetup (opcode : Byte) : Setup Unit where
  lib := slowLibraries
  build := ⟨true, false⟩
  opt := ⟨.object [("clockResolution", .integer 10000), ("compressor", .string "none"), ("cpu", .string "i8080"),
    ("encoder", .string "base64"), ("isrFreq", .integer 1), ("loadAsync", .bool false),
    ("ram", .object [("block", .array [.object [("offset", .integer 0), ("size", .integer 0)]])]),
    ("rom", .object [("file", .array [.object [("offset", .integer 0), ("size", .integer 0)]])]),
    ("runAsync", .bool false), ("saveAsync", .bool false)]⟩
  memoryController := quitter (return opcode)
  ioController := quitter (return 0)
  ticksPerIsr := 20
  onLoad := false
  onSave := false

def slowClock : CpuClock := { CpuClock.make 2000000 1 with totalTicks := 20 }

def slowHost : SteadyClock.Host := ⟨0, [10, 20, 20000, 20001], []⟩

def slowLoop (cpu : Intel8080) : Loop Unit where
  sys := ⟨cpu, {}, ()⟩
  clock := slowClock
  host := slowHost

theorem slow_start (opcode : Byte) : Loop.start (slowSetup opcode) ⟨{}, {}, ()⟩ slowClock slowHost = .ok (slowLoop {}) := by
  with_unfolding_all rfl

theorem spinning_reachable : Reachable slowLibraries ⟨true, false⟩ (slowSetup 0x08) (slowLoop {}) := by
  have entered : enter slowLibraries ⟨true, false⟩ () (slowCalls 0x08) 0 [10, 20, 20000, 20001] = some
      (slowSetup 0x08, slowLoop {}) := by
    with_unfolding_all rfl
  exact enter_reachable entered

theorem idling_entered : Entered slowLibraries ⟨true, false⟩ (slowSetup 0x00) (slowLoop {}) := by
  have entered : enter slowLibraries ⟨true, false⟩ () (slowCalls 0x00) 0 [10, 20, 20000, 20001] = some
      (slowSetup 0x00, slowLoop {}) := by
    with_unfolding_all rfl
  exact enter_entered entered

theorem execute_spins (cpu : Intel8080) : execute (slowSetup 0x08).wiring ⟨cpu, {}, ()⟩ =
    .ok 0 ⟨{ cpu with pc := cpu.pc + 1, opcode := 0x08 }, {}, ()⟩ := by
  have idle : (ControlBus.receive .interrupt ({} : SystemBus)).2 = {} := by decide
  have unset : ¬ ({} : SystemBus).controlBus.getLsbD Signal.interrupt.lane = true := by decide
  rw [execute_run, if_neg unset]
  dsimp only
  rw [idle]
  refine (dispatch_none_run ⟨true, false⟩ (quitter (return 0x08)) (quitter (return 0)) cpu 0 0 ()).trans ?_
  exact congrFun (congrFun (switch_undecoded ((decode_none 0x08).mpr (by decide)) cpu) _) _

theorem slow_on (cpu : Intel8080) : PoweredOn (slowLoop cpu).sys.bus := (by decide : PoweredOn ({} : SystemBus))

theorem slow_pending (cpu : Intel8080) : pending (slowLoop cpu) = ⟨cpu, {}, ()⟩ :=
  congrArg (fun bus => (⟨cpu, bus, ()⟩ : System Unit)) (by decide : (ControlBus.receive .powerOff ({} : SystemBus)).2 = {})

theorem spins (cpu : Intel8080) : Loop.step (slowSetup 0x08) (.turn (.ok none) (.ok ())) (slowLoop cpu) =
    some (slowLoop { cpu with pc := cpu.pc + 1, opcode := 0x08 }, [.executed]) := by
  have ticked : slowClock.tick ((0 : Byte).setWidth 64) slowHost = some (slowClock, slowHost) := by with_unfolding_all rfl
  change (slowLoop cpu).instruction (slowSetup 0x08) = _
  rw [instruction_executed (slow_on cpu) ((congrArg _ (slow_pending cpu)).trans (execute_spins cpu))]
  change Option.bind (slowClock.tick ((0 : Byte).setWidth 64) slowHost) _ = _
  rw [ticked]
  rfl

theorem spins_marks (cpu : Intel8080) : marks (slowSetup 0x08) (.turn (.ok none) (.ok ())) (slowLoop cpu) = [.work 0] := by
  have beat := step_beat (spins cpu)
  have executed : executes (slowSetup 0x08) (.turn (.ok none) (.ok ())) (slowLoop cpu) = some 0 := by
    rw [executes_head rfl (slow_on cpu), slow_pending, execute_spins]
  have marked : marks (slowSetup 0x08) (.turn (.ok none) (.ok ())) (slowLoop cpu) =
      .work 0 :: (served (calls (slowSetup 0x08) (.turn (.ok none) (.ok ())) (slowLoop cpu))).map .stop := by
    rw [marks, executed]
    rfl
  generalize same : marks (slowSetup 0x08) (.turn (.ok none) (.ok ())) (slowLoop cpu) = made at beat marked
  cases beat with
  | still => cases marked
  | rested => cases marked
  | counted =>
    obtain ⟨first, -⟩ := List.cons.inj marked
    rw [first]
  | called here there =>
    rcases there with ⟨isr, -, impossible⟩ | ⟨fault, -, impossible⟩
    · cases impossible
    · cases impossible

/-- However long a memory without an instruction is executed, no interrupt is serviced. -/
theorem unassigned_starves : Reachable slowLibraries ⟨true, false⟩ (slowSetup 0x08) (slowLoop {}) ∧
    (slowSetup 0x08).ticksPerIsr = 20 ∧
    ∀ turns, ∃ moves loop, Run (recorded (Loop.step (slowSetup 0x08))) (slowLoop {}) moves loop ∧
      timeline (slowSetup 0x08) moves = List.replicate turns (.work 0) := by
  refine ⟨spinning_reachable, rfl, fun turns => ?_⟩
  suffices spun : ∃ moves cpu, Run (recorded (Loop.step (slowSetup 0x08))) (slowLoop {}) moves (slowLoop cpu) ∧
      timeline (slowSetup 0x08) moves = List.replicate turns (.work 0) by
    obtain ⟨moves, cpu, run, marked⟩ := spun
    exact ⟨moves, slowLoop cpu, run, marked⟩
  induction turns with
  | zero => exact ⟨[], {}, .refl, rfl⟩
  | succ turns ih =>
    obtain ⟨moves, cpu, run, marked⟩ := ih
    refine ⟨_, _, run.move (recorded_of (spins cpu)), ?_⟩
    have one := spins_marks cpu
    rw [timeline_append, marked, List.replicate_succ', ← one]
    exact congrArg _ (List.append_nil _)

theorem run_attended_idle : ∃ moves loop, Run (recorded (Loop.step (slowSetup 0x00))) (slowLoop {}) moves loop ∧
    timeline (slowSetup 0x00) moves = List.replicate 5 (.work 4) ++ [.stop ⟨20001, 20, .ok .quit⟩] ∧
    (Attended (slowSetup 0x00) moves ↔ ∀ move ∈ moves, Executes move → Safe (slowSetup 0x00) (pending move.before)) := by
  have outcome :
      (Traces.run (recorded (Loop.step (slowSetup 0x00))) (List.replicate 5 (.turn (.ok none) (.ok ()))) (slowLoop {})).map
      (fun out => timeline (slowSetup 0x00) out.2) = some
        (List.replicate 5 (.work 4) ++ [.stop ⟨20001, 20, .ok .quit⟩]) := by
    with_unfolding_all rfl
  obtain ⟨⟨loop, moves⟩, ran, same⟩ := Option.map_eq_some_iff.mp outcome
  have run := Run.of_run ran
  exact ⟨moves, loop, run, same, run_attended idling_entered.reachable (slow_start 0x00) run⟩

end Session
end MachEmu.Proofs.Starvation
