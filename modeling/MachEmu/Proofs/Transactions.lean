import MachEmu.Proofs.Deliveries

/-! The calls of `process_` in a run. Each is one call of one controller, and the lanes
are clear again afterwards, so that a run depends on the buses only for its interrupts. -/

namespace MachEmu.Proofs.Transactions
open Intel8080 Machine Loop Traces BusTransactions BusDiscipline Boundaries Interrupts InstructionPrograms
  Programs ErrorState
  Calls DirectCalls Timeline Deliveries

variable {ω ν : Type} {setup : Setup ω}

/-- A call of `process_`: the buses it finds, the calls of the controllers, and the buses it leaves. -/
structure Transaction where
  before : SystemBus
  calls : List Access
  after : SystemBus

/-- A world that keeps the transactions. -/
abbrev Watched (ω : Type) := ω × List Transaction

def watch (process : Process (Listened ω)) : Process (Watched ω) := fun s =>
  match process (s.1, s.2.1, []) with
  | .ok _ (bus, world, calls) => .ok () (bus, world, s.2.2 ++ [⟨s.1, calls, bus⟩])
  | .error fault (bus, world, calls) => .error fault (bus, world, s.2.2 ++ [⟨s.1, calls, bus⟩])

def watched (setup : Setup ω) : Wiring (Watched ω) where
  build := setup.build
  process := watch (listening setup).wiring.process

def transactions (setup : Setup ω) (s : System ω) : List Transaction :=
  (final (execute (watched setup) { s with world := (s.world, []) })).world.2

/-- One lane is set, and the one call is that of the lane, with what is on the other buses.
The answer to a read is left for the cpu. All lanes are clear afterwards. -/
inductive Disciplined : Transaction → Prop
  | read (device : Device) (addr : Word) (data value : Byte) {after : SystemBus} (clear : Quiet after)
    (answer : after.dataBus = value) :
      Disciplined ⟨⟨addr, data, 1#8 <<< device.readLane.lane⟩, [.read device addr (.ok value)], after⟩
  | readThrew (device : Device) (addr : Word) (data : Byte) (fault : Fault) {after : SystemBus} (clear : Quiet after) :
      Disciplined ⟨⟨addr, data, 1#8 <<< device.readLane.lane⟩, [.read device addr (.error fault)], after⟩
  | write (device : Device) (addr : Word) (value : Byte) (answer : Except Fault Unit) {after : SystemBus}
    (clear : Quiet after) :
      Disciplined ⟨⟨addr, value, 1#8 <<< device.writeLane.lane⟩, [.write device addr value answer], after⟩

section Watching

/-- The same registers and clear buses. The transactions that were kept are in order, and make up the calls. -/
structure Kept (s : System (Listened ω)) (t : System (Watched ω)) : Prop where
  cpu : t.cpu = s.cpu
  bus : t.bus = s.bus
  quiet : Quiet s.bus
  world : t.world.1 = s.world.1
  calls : t.world.2.flatMap Transaction.calls = s.world.2
  disciplined : ∀ transaction ∈ t.world.2, Disciplined transaction

theorem Kept.snoc {cpu : Intel8080} {bus after : SystemBus} {world last : ω} {calls : List Access} {log : List Transaction}
    {made : Access} {before : SystemBus} (kept : Kept ⟨cpu, bus, world, calls⟩ ⟨cpu, bus, world, log⟩)
    (disciplined : Disciplined ⟨before, [made], after⟩) (quiet : Quiet after) :
    Kept ⟨cpu, after, last, calls ++ [made]⟩ ⟨cpu, after, last, log ++ [⟨before, [made], after⟩]⟩ where
  cpu := rfl
  bus := rfl
  quiet := quiet
  world := rfl
  calls := by
    have same : log.flatMap Transaction.calls = calls := kept.calls
    simp [List.flatMap_append, same]
  disciplined := List.forall_mem_append.mpr ⟨kept.disciplined, List.forall_mem_singleton.mpr disciplined⟩

/-- A byte that was received leaves nothing on the data bus. -/
theorem Kept.received {s : System (Listened ω)} {t : System (Watched ω)} (kept : Kept s t) :
    Kept { s with bus := { s.bus with dataBus := 0 } } { t with bus := { t.bus with dataBus := 0 } } where
  cpu := kept.cpu
  bus := congrArg (fun bus : SystemBus => { bus with dataBus := 0 }) kept.bus
  quiet := kept.quiet
  world := kept.world
  calls := kept.calls
  disciplined := kept.disciplined

theorem watched_read (setup : Setup ω) (device : Device) (addr : Word) (data : Byte) (world : ω) (log : List Transaction) :
    (watched setup).process (⟨addr, data, 1#8 <<< device.readLane.lane⟩, world, log) =
      match (controller setup device).read addr world with
      | .ok value world => .ok () (⟨0#16, value, 0#8⟩, world, log ++
          [⟨⟨addr, data, 1#8 <<< device.readLane.lane⟩, [.read device addr (.ok value)], ⟨0#16, value, 0#8⟩⟩])
      | .error fault world => .error fault (⟨0#16, data, 0#8⟩, world, log ++
          [⟨⟨addr, data, 1#8 <<< device.readLane.lane⟩, [.read device addr (.error fault)], ⟨0#16, data, 0#8⟩⟩]) := by
  have read : (controller (listening setup) device).read addr = heard (.read device addr)
      ((controller setup device).read addr) := by
    rw [controller_listening]
    rfl
  simp only [watched, watch, process_read, read]
  cases ran : (controller setup device).read addr world with
  | ok value after => rw [heard_ok _ _ ran]; rfl
  | error fault after => rw [heard_error _ _ ran]; rfl

theorem watched_write (setup : Setup ω) (device : Device) (addr : Word) (value : Byte) (world : ω)
    (log : List Transaction) : (watched setup).process (⟨addr, value, 1#8 <<< device.writeLane.lane⟩, world, log) =
      match (controller setup device).write addr value world with
      | .ok _ world => .ok () (⟨0#16, 0#8, 0#8⟩, world, log ++
          [⟨⟨addr, value, 1#8 <<< device.writeLane.lane⟩, [.write device addr value (.ok ())], ⟨0#16, 0#8, 0#8⟩⟩])
      | .error fault world => .error fault (⟨0#16, 0#8, 0#8⟩, world, log ++
          [⟨⟨addr, value, 1#8 <<< device.writeLane.lane⟩, [.write device addr value (.error fault)],
            ⟨0#16, 0#8, 0#8⟩⟩]) := by
  have write : (controller (listening setup) device).write addr value =
      heard (.write device addr value) ((controller setup device).write addr value) := by
    rw [controller_listening]
    rfl
  simp only [watched, watch, process_write, write]
  cases ran : (controller setup device).write addr value world with
  | ok done after => rw [heard_ok _ _ ran]; rfl
  | error fault after => rw [heard_error _ _ ran]; rfl

theorem Kept.same {s : System (Listened ω)} {t : System (Watched ω)} (kept : Kept s t) :
    ∃ self addr data world calls log, s = ⟨self, ⟨addr, data, 0#8⟩, world, calls⟩ ∧
      t = ⟨self, ⟨addr, data, 0#8⟩, world, log⟩ := by
  obtain ⟨self, ⟨addr, data, control⟩, world, calls⟩ := s
  obtain ⟨other, bus, again, log⟩ := t
  obtain rfl : control = 0#8 := kept.quiet
  obtain rfl : other = self := kept.cpu
  obtain rfl : bus = ⟨addr, data, 0#8⟩ := kept.bus
  obtain rfl : again = world := kept.world
  exact ⟨other, addr, data, again, calls, log, rfl, rfl⟩

theorem ask_kept (question : Question) :
    Simulates Kept ((emulator (listening setup).wiring).ask question) ((emulator (watched setup)).ask question) := by
  intro s t kept
  obtain ⟨self, addr, data, world, calls, log, rfl, rfl⟩ := kept.same
  obtain ⟨device, location⟩ := question
  have primed {ν : Type} (w : Wiring ν) (world : ν) :
      readFromAddress device.readLane location w ⟨self, ⟨addr, data, 0#8⟩, world⟩ =
      process w ⟨self, ⟨location, data, 1#8 <<< device.readLane.lane⟩, world⟩ :=
    readFromAddress_primed self addr location data world w _
  have read : (controller (listening setup) device).read location =
      heard (.read device location) ((controller setup device).read location) := by
    rw [controller_listening]
    rfl
  simp only [emulator, bind_run, primed, process, process_read, watched_read, read]
  cases ran : (controller setup device).read location world with
  | ok value after =>
    have disciplined : Disciplined ⟨⟨location, data, 1#8 <<< device.readLane.lane⟩, [.read device location (.ok value)],
        ⟨0#16, value, 0#8⟩⟩ := .read device location data value rfl rfl
    rw [heard_ok _ _ ran]
    exact ⟨rfl, (kept.snoc disciplined rfl).received⟩
  | error fault after =>
    rw [heard_error _ _ ran]
    exact ⟨rfl, kept.snoc (.readThrew device location data fault rfl) rfl⟩

theorem tell_kept (command : Command) :
    Simulates Kept ((emulator (listening setup).wiring).tell command) ((emulator (watched setup)).tell command) := by
  intro s t kept
  obtain ⟨self, addr, data, world, calls, log, rfl, rfl⟩ := kept.same
  obtain ⟨device, location, value⟩ := command
  have primed {ν : Type} (w : Wiring ν) (world : ν) :
      writeToAddress device.writeLane location value w ⟨self, ⟨addr, data, 0#8⟩, world⟩ =
      process w ⟨self, ⟨location, value, 1#8 <<< device.writeLane.lane⟩, world⟩ :=
    writeToAddress_primed self addr location data value world w _
  have write : (controller (listening setup) device).write location value =
      heard (.write device location value) ((controller setup device).write location value) := by
    rw [controller_listening]
    rfl
  simp only [emulator, primed, process, process_write, watched_write, write]
  cases ran : (controller setup device).write location value world with
  | ok done after =>
    rw [heard_ok _ _ ran]
    exact ⟨trivial, kept.snoc (.write device location value (.ok ()) rfl) rfl⟩
  | error fault after =>
    rw [heard_error _ _ ran]
    exact ⟨rfl, kept.snoc (.write device location value (.error fault) rfl) rfl⟩

theorem emulator_kept (setup : Setup ω) : (emulator (listening setup).wiring).Simulates Kept
    (emulator (watched setup)) where
  look _ _ same := ⟨same.cpu.symm, same⟩
  change f _ _ same := ⟨rfl, congrArg f same.cpu, same.bus, same.quiet, same.world, same.calls, same.disciplined⟩
  check := by
    change Simulates Kept (assert0 (listening setup).wiring) (assert0 (watched setup))
    have same : (watched setup).build = (listening setup).wiring.build := rfl
    rw [assert0_eq, assert0_eq, same]
    exact Simulates.ite (Simulates.pure ()) (Simulates.throw Fault.assertion)
  ask := ask_kept
  tell := tell_kept

end Watching

section Executions
variable {isr : ISR} {s : System ω}

def bare : EStateM.Result Fault (Intel8080 × ω) Byte → Observation ω
  | .ok ticks after => ⟨.ok ticks, visible after.1, after.2⟩
  | .error fault after => ⟨.error fault, visible after.1, after.2⟩

/-- The execution is a program of questions and commands for the controllers, and shows what
this program does on a cpu that calls them itself: the byte that it receives next is the answer. -/
def Direct (setup : Setup ω) (s : System ω) : Prop :=
  ∃ (bytes : CpuProgram Byte) (self : Intel8080) (bus : SystemBus), Quiet bus ∧
    (∀ {ν : Type} (w : Wiring ν) (world : ν), execute w { s with world } = (emulator w).run bytes ⟨self, bus, world⟩) ∧
    shown setup s = bare ((direct (listening setup)).run bytes (self, s.world, []))

/-- The transactions of an execution are in order, they make up its calls, keeping them makes
no difference, and without them the execution would be the same. -/
structure Orderly (setup : Setup ω) (s : System ω) : Prop where
  disciplined : ∀ transaction ∈ transactions setup s, Disciplined transaction
  calls : (transactions setup s).flatMap Transaction.calls = accesses setup s
  unwatched : Matches (fun world kept => kept.1 = world) (observe (execute setup.wiring s))
    (observe (execute (watched setup) { s with world := (s.world, []) }))
  direct : Direct setup s

theorem bare_observe {x : EStateM Fault (System ω) Byte} {y : EStateM Fault (Intel8080 × ω) Byte} {t : Intel8080 × ω}
    (simulates : Simulates Bare x y) (same : Bare s t) : observe (x s) = bare (y t) := by
  cases ran : x s with
  | ok ticks after =>
    obtain ⟨⟨self, world⟩, again, cpu, worlds, -⟩ := simulates.ok same ran
    rw [again, observe, bare, cpu, worlds]
  | error fault after =>
    obtain ⟨⟨self, world⟩, again, cpu, worlds, -⟩ := simulates.error same ran
    rw [again, observe, bare, cpu, worlds]

theorem direct_interrupted (quiet : Quiet s.bus) : Direct setup (interrupted isr s) := by
  obtain ⟨received, clear, ran⟩ := execute_delivered isr s.cpu quiet
  refine ⟨program (acknowledged isr s.cpu.iff), { s.cpu with iff := s.cpu.iff && isr.cpuLevel.isNone },
    received, clear, ?_, ?_⟩
  · intro ν w world
    rw [← dispatch_eq]
    exact ran w world
  · have heard := ran (listening setup).wiring (s.world, [])
    have simulates := (emulator_direct (listening setup)).run (program (acknowledged isr s.cpu.iff))
    rw [dispatch_eq] at heard
    refine (congrArg observe heard).trans ?_
    exact bare_observe simulates ⟨rfl, rfl, clear⟩

theorem orderly_interrupted (quiet : Quiet s.bus) : Orderly setup (interrupted isr s) := by
  obtain ⟨received, clear, ran⟩ := execute_delivered isr s.cpu quiet
  have heard := ran (listening setup).wiring (s.world, [])
  have kept := ran (watched setup) (s.world, [])
  rw [dispatch_eq] at heard kept
  have simulates := (emulator_kept setup).run (program (acknowledged isr s.cpu.iff))
  have begun : Kept (ω := ω) ⟨{ s.cpu with iff := s.cpu.iff && isr.cpuLevel.isNone }, received, s.world, []⟩
      ⟨{ s.cpu with iff := s.cpu.iff && isr.cpuLevel.isNone }, received, s.world, []⟩ :=
    ⟨rfl, rfl, clear, rfl, rfl, List.forall_mem_nil _⟩
  have ended := simulates.final begun
  rw [← heard, ← kept] at ended
  refine ⟨ended.disciplined, ended.calls, ?_, direct_interrupted quiet⟩
  have listened : Matches (fun world kept => kept.1 = world) (observe (execute setup.wiring (interrupted isr s)))
      (observe (execute (listening setup).wiring { interrupted isr s with world := (s.world, []) })) :=
    Simulates.matches (execute_heard setup) ⟨rfl, rfl, World.refl s.world⟩
      (fun same => same.cpu.symm) fun same => same.world.1
  have logged := Simulates.matches (R := fun heard kept => kept.1 = heard.1) simulates begun
      (fun same => same.cpu.symm) Kept.world
  rw [← heard, ← kept] at logged
  exact ⟨listened.ticks.trans logged.ticks, listened.cpu.trans logged.cpu, logged.world.trans listened.world⟩

end Executions

section Runs
open Lifecycle

structure Trace where
  before : Intel8080
  calls : List Access
  ticks : Except Fault Byte
  after : Intel8080

def traced (setup : Setup ω) (e : Execution ω) : Trace where
  before := visible e.system.cpu
  calls := (shown setup e.system).world.2
  ticks := (shown setup e.system).ticks
  after := (shown setup e.system).cpu

/-- Before an execution, the registers are left alone in both runs, or are the same in both after a state was loaded. -/
def Alongside (setup : Setup ω) (first : System ω) (done : List (Execution ω)) (other : Setup ν) (second : System ν)
    (more : List (Execution ν)) : Prop :=
  ∀ k e d last last', done[k]? = some e → more[k]? = some d → predecessor setup first done k = some last →
    predecessor other second more k = some last' →
    e.system.cpu = last.cpu ∧ d.system.cpu = last'.cpu ∨ visible e.system.cpu = visible d.system.cpu

def Outside (R : ω → ν → Prop) (setup : Setup ω) (first : System ω) (done : List (Execution ω)) (other : Setup ν)
    (second : System ν) (more : List (Execution ν)) : Prop :=
  ∀ k e d last last', done[k]? = some e → more[k]? = some d → predecessor setup first done k = some last →
    predecessor other second more k = some last' → R last.world last'.world → R e.system.world d.system.world

/-- Two runs with the same program counter, memory, inputs and interrupts. `R` relates
worlds whose controllers answer alike. -/
structure Repeats (R : ω → ν → Prop) (setup : Setup ω) (start : Loop ω) (moves : List (LoopMove ω)) (other : Setup ν)
    (start' : Loop ν) (moves' : List (LoopMove ν)) : Prop where
  pc : start.sys.cpu.pc = start'.sys.cpu.pc
  devices : Devices R setup other
  world : R start.sys.world start'.sys.world
  outside : Outside R setup start.sys (executions setup moves) other start'.sys (executions other moves')
  registers : Alongside setup start.sys (executions setup moves) other start'.sys (executions other moves')
  interrupts : Masks (executions setup moves) (executions other moves')

variable {lib lib' : Libraries} {build build' : Build} {other : Setup ν} {start loop : Loop ω} {start' loop' : Loop ν}
  {moves : List (LoopMove ω)} {moves' : List (LoopMove ν)} {R : ω → ν → Prop}

theorem run_orderly (entered : Entered lib build setup start) (run : Run (recorded (Loop.step setup)) start moves loop) :
    ∀ e ∈ executions setup moves, Orderly setup e.system := by
  obtain ⟨quiet, head, -, -⟩ := entered.begins
  intro e member
  obtain ⟨k, found⟩ := List.mem_iff_getElem?.mp member
  obtain ⟨-, bus, clear, begun⟩ := (run_ongoing quiet head run).linked k e found
  rw [begun]
  exact orderly_interrupted clear

theorem run_settles (entered : Entered lib build setup start) (run : Run (recorded (Loop.step setup)) start moves loop) :
    Settled loop := by
  refine run.invariant (fun _ loop => Settled loop) entered.reachable.settled ?_
  intro moves loop choice after added settled moved
  obtain ⟨events, stepped, -⟩ := recorded_some moved
  exact step_settled settled stepped

theorem runs_traced (entered : Entered lib build setup start) (run : Run (recorded (Loop.step setup)) start moves loop)
    (entered' : Entered lib' build' other start') (run' : Run (recorded (Loop.step other)) start' moves' loop')
    (repeats : Repeats R setup start moves other start' moves') {k : Nat} {e : Execution ω} {d : Execution ν}
    (found : (executions setup moves)[k]? = some e) (found' : (executions other moves')[k]? = some d) :
    traced setup e = traced other d := by
  obtain ⟨pc, devices, world, outside, registers, interrupts⟩ := repeats
  have cpu : visible start.sys.cpu = visible start'.sys.cpu := by
    rw [entered.cleared, entered'.cleared, pc]
    rfl
  have together : Together R setup start.sys (executions setup moves) other start'.sys (executions other moves') := by
    intro k e d last last' found found' before before' cpu world
    refine ⟨?_, outside k e d last last' found found' before before' world⟩
    rcases registers k e d last last' found found' before before' with ⟨alone, alone'⟩ | same
    · rw [alone, alone', cpu]
    · exact same
  obtain ⟨⟨s, t, facing, first, second⟩, same⟩ :=
    runs_shown entered run entered' run' devices cpu world together interrupts found found'
  have begun : visible e.system.cpu = visible d.system.cpu := by
    rw [first, second]
    exact facing.cpu
  rw [traced, traced, begun, same.world.2, same.ticks, same.cpu]

/-- The buses over a run: each call of `process_` is one call of a controller, only an interrupt
or the power switch waits between the instructions, and a run that has ended leaves nothing
behind that a later one could depend on. -/
theorem run_disciplined (entered : Entered lib build setup start)
    (run : Run (recorded (Loop.step setup)) start moves loop) :
    (∀ e ∈ executions setup moves, Orderly setup e.system) ∧ Settled loop ∧ (loop.point = .done → Quiet loop.sys.bus) ∧
    ∀ {ν : Type} {lib' : Libraries} {build' : Build} {other : Setup ν} {start' loop' : Loop ν} {moves' : List (LoopMove ν)}
      {R : ω → ν → Prop}, Entered lib' build' other start' → Run (recorded (Loop.step other)) start' moves' loop' →
      Repeats R setup start moves other start' moves' → ∀ (k : Nat) (e : Execution ω) (d : Execution ν),
        (executions setup moves)[k]? = some e → (executions other moves')[k]? = some d →
        traced setup e = traced other d := by
  have settled := run_settles entered run
  refine ⟨run_orderly entered run, settled, fun done => settled.quiet done ⟨by simp, by simp⟩, ?_⟩
  intro ν lib' build' other start' loop' moves' R entered' run' repeats k e d found found'
  exact runs_traced entered run entered' run' repeats found found'

end Runs

/-- An interrupt that is masked leaves no trace in the second instruction. -/
theorem run_disciplined_masked :
    ∃ moves loop moves' loop', Run (recorded (Loop.step (askingSetup .three))) askingStart moves loop ∧
      Run (recorded (Loop.step (askingSetup .noInterrupt))) askingStart moves' loop' ∧
      (executions (askingSetup .three) moves).map Execution.isr = [.noInterrupt, .three] ∧
      (executions (askingSetup .noInterrupt) moves').map Execution.isr = [.noInterrupt, .noInterrupt] ∧
      (∀ e ∈ executions (askingSetup .three) moves, Orderly (askingSetup .three) e.system) ∧
      ∀ (k : Nat) (e d : Execution Unit), (executions (askingSetup .three) moves)[k]? = some e →
        (executions (askingSetup .noInterrupt) moves')[k]? = some d →
        traced (askingSetup .three) e = traced (askingSetup .noInterrupt) d := by
  obtain ⟨moves, loop, run, asked, interrupts, flags⟩ := asking_runs (by with_unfolding_all rfl : askingRun .three 7 =
    some ([.three, .noInterrupt, .quit, .noInterrupt, .noInterrupt, .noInterrupt, .noInterrupt],
      [.noInterrupt, .three], [false, false]))
  obtain ⟨moves', loop', run', asked', interrupts', flags'⟩ :=
    asking_runs (by with_unfolding_all rfl : askingRun .noInterrupt 9 =
    some ([.noInterrupt, .noInterrupt, .noInterrupt, .noInterrupt, .quit, .noInterrupt, .noInterrupt,
      .noInterrupt, .noInterrupt],
      [.noInterrupt, .noInterrupt], [false, false]))
  obtain ⟨raised, silent⟩ := asking_entered
  obtain ⟨orderly, -, -, same⟩ := run_disciplined raised run
  refine ⟨moves, loop, moves', loop', run, run', interrupts, interrupts', orderly, ?_⟩
  have devices : SameDevices (askingSetup .three) (askingSetup .noInterrupt) := ⟨rfl, ⟨rfl, rfl⟩, ⟨rfl, rfl⟩⟩
  have kept := entered_kept raised run (unrequested_of asked (by decide))
  have kept' := entered_kept silent run' (unrequested_of asked' (by decide))
  exact same silent run'
    { pc := rfl
      devices := devices.devices
      world := rfl
      outside := fun _ _ _ _ _ _ _ _ _ _ => rfl
      registers := fun k e d last last' found found' before before' =>
        .inl ⟨kept k e last found before, kept' k d last' found' before'⟩
      interrupts := masks_of flags (by simp) }

end MachEmu.Proofs.Transactions
