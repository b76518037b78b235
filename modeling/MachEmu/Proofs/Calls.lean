import MachEmu.Proofs.Boundaries
import MachEmu.Proofs.InstructionPrograms

/-! The calls that the controllers receive. A controller that keeps a list of its
calls makes no difference to the machine. -/

namespace MachEmu.Proofs.Calls
open Machine Loop Intel8080 BusTransactions BusDiscipline InstructionPrograms Programs ErrorState

/-- A call of a controller, with what it returned or threw. -/
inductive Access where
  | read (device : Device) (addr : Word) (answer : Except Fault Byte)
  | write (device : Device) (addr : Word) (value : Byte) (answer : Except Fault Unit)
  | serviceInterrupts (device : Device) (currTime cycles : BitVec 64) (answer : Except Fault ISR)

/-- A world that keeps the calls. -/
abbrev Listened (ω : Type) := ω × List Access

variable {ω α β : Type}

def heard (access : Except Fault α → Access) (method : EStateM Fault ω α) : EStateM Fault (Listened ω) α := fun s =>
  match method s.1 with
  | .ok value world => .ok value (world, s.2 ++ [access (.ok value)])
  | .error fault world => .error fault (world, s.2 ++ [access (.error fault)])

def listen (device : Device) (controller : IController ω) : IController (Listened ω) where
  uuid := controller.uuid
  read addr := heard (.read device addr) (controller.read addr)
  write addr value := heard (.write device addr value) (controller.write addr value)
  serviceInterrupts currTime cycles :=
    heard (.serviceInterrupts device currTime cycles) (controller.serviceInterrupts currTime cycles)

def listening (setup : Setup ω) : Setup (Listened ω) :=
  { setup with memoryController := listen .memory setup.memoryController, ioController := listen .io setup.ioController }

def hearing (calls : List Access) (loop : Loop ω) : Loop (Listened ω) :=
  { loop with sys := { loop.sys with world := (loop.sys.world, calls) } }

def hearingChoice (calls : List Access) : Choice ω → Choice (Listened ω)
  | .turn loaded saved => .turn loaded saved
  | .loaded result => .loaded result
  | .saved result => .saved result
  | .outside world => .outside (world, calls)

def calls (setup : Setup ω) (choice : Choice ω) (loop : Loop ω) : List Access :=
  match Loop.step (listening setup) (hearingChoice [] choice) (hearing [] loop) with
  | some (after, _) => after.sys.world.2
  | none => []

def Access.Transfer : Access → Prop
  | .read .. => True
  | .write .. => True
  | .serviceInterrupts .. => False

section Worlds

def World (before : List Access) (world : ω) (other : Listened ω) : Prop :=
  other.1 = world ∧ ∃ added : List Access, other.2 = before ++ added ∧ ∀ access ∈ added, access.Transfer

variable {before : List Access}

theorem World.refl (world : ω) : World before world (world, before) :=
  ⟨rfl, [], (List.append_nil before).symm, List.forall_mem_nil _⟩

theorem heard_world (access : Except Fault α → Access) (transfer : ∀ answer, (access answer).Transfer)
    (method : EStateM Fault ω α) : Simulates (World before) method (heard access method) := by
  intro world other same
  obtain ⟨rfl, added, kept, only⟩ := same
  have more (answer : Except Fault α) : ∃ added : List Access, other.2 ++ [access answer] = before ++ added ∧
      ∀ access ∈ added, access.Transfer := by
    refine ⟨added ++ [access answer], by rw [kept, List.append_assoc], ?_⟩
    exact List.forall_mem_append.mpr ⟨only, List.forall_mem_singleton.mpr (transfer answer)⟩
  unfold heard
  cases method other.1 with
  | ok value world => exact ⟨rfl, rfl, more _⟩
  | error fault world => exact ⟨rfl, rfl, more _⟩

theorem heard_ok (access : Except Fault α → Access) (calls : List Access) {method : EStateM Fault ω α} {value : α}
    {world after : ω} (ran : method world = .ok value after) : heard access method (world, calls) = .ok value
      (after, calls ++ [access (.ok value)]) := by
  unfold heard
  dsimp only
  rw [ran]

theorem heard_error (access : Except Fault α → Access) (calls : List Access) {method : EStateM Fault ω α} {fault : Fault}
    {world after : ω} (failed : method world = .error fault after) :
    heard access method (world, calls) = .error fault (after, calls ++ [access (.error fault)]) := by
  unfold heard
  dsimp only
  rw [failed]

theorem read_world (device : Device) (controller : IController ω) (addr : Word) :
    Simulates (World before) (controller.read addr) ((listen device controller).read addr) :=
  heard_world (.read device addr) (fun _ => trivial) _

theorem write_world (device : Device) (controller : IController ω) (addr : Word) (value : Byte) :
    Simulates (World before) (controller.write addr value) ((listen device controller).write addr value) :=
  heard_world (.write device addr value) (fun _ => trivial) _

end Worlds

section Executions
variable {before : List Access}

/-- The same buses, and the calls that were added are transfers. -/
def Buses (before : List Access) (s : SystemBus × ω) (t : SystemBus × Listened ω) : Prop :=
  t.1 = s.1 ∧ World before s.2 t.2

theorem onBus_buses (f : SystemBus → α × SystemBus) :
    Simulates (Buses before) (Machine.onBus f : EStateM Fault (SystemBus × ω) α) (Machine.onBus f) := by
  intro s t same
  refine ⟨congrArg (fun bus => (f bus).1) same.1.symm, congrArg (fun bus => (f bus).2) same.1, same.2⟩

theorem callController_buses {x : EStateM Fault ω α} {y : EStateM Fault (Listened ω) α}
    (simulates : Simulates (World before) x y) :
    Simulates (Buses before) (callController x) (callController y) := by
  intro (bus, world) (other, calls) ⟨sameBus, same⟩
  unfold callController
  dsimp only at same ⊢
  cases ran : x world with
  | ok value after =>
    obtain ⟨last, again, same⟩ := simulates.ok same ran
    rw [again]
    exact ⟨rfl, sameBus, same⟩
  | error fault after =>
    obtain ⟨last, again, same⟩ := simulates.error same ran
    rw [again]
    exact ⟨rfl, sameBus, same⟩

theorem serve_buses (device : Device) (controller : IController ω) (readLane writeLane : Signal) :
    Simulates (Buses before) (serve (some controller) readLane writeLane)
      (serve (some (listen device controller)) readLane writeLane) := by
  have writes : Simulates (Buses before)
      (do if ← Machine.onBus (ControlBus.receive writeLane) then
            let addr ← Machine.onBus AddressBus.receive
            let data ← Machine.onBus DataBus.receive
            callController (controller.write addr data))
      (do if ← Machine.onBus (ControlBus.receive writeLane) then
            let addr ← Machine.onBus AddressBus.receive
            let data ← Machine.onBus DataBus.receive
            callController ((listen device controller).write addr data)) := by
    refine (onBus_buses _).bind fun on => Simulates.ite ?_ (Simulates.pure _)
    refine (onBus_buses _).bind fun addr => (onBus_buses _).bind fun data => ?_
    exact callController_buses (write_world device controller addr data)
  refine (onBus_buses _).bind fun on => Simulates.ite ?_ writes
  refine (onBus_buses _).bind fun addr => ?_
  refine (callController_buses (read_world device controller addr)).bind fun data => ?_
  exact (onBus_buses _).bind fun _ => writes

theorem processControllers_buses (memory io : IController ω) :
    Simulates (Buses before) (processControllers { memoryController := some memory, ioController := some io })
      (processControllers { memoryController := some (listen .memory memory), ioController := some (listen .io io) }) :=
  (serve_buses .memory memory _ _).bind fun _ => serve_buses .io io _ _

/-- The same registers and buses, and the calls that were added are transfers. -/
structure Heard (before : List Access) (s : System ω) (t : System (Listened ω)) : Prop where
  cpu : t.cpu = s.cpu
  bus : t.bus = s.bus
  world : World before s.world t.world

theorem cpuOnBus_heard (w : Wiring ω) (w' : Wiring (Listened ω)) (f : SystemBus → α × SystemBus) :
    Simulates (Heard before) ((Intel8080.onBus f : CpuM ω α) w) ((Intel8080.onBus f : CpuM (Listened ω) α) w') := by
  intro s t same
  refine ⟨congrArg (fun bus => (f bus).1) same.bus.symm, ⟨same.cpu, congrArg (fun bus => (f bus).2) same.bus, same.world⟩⟩

theorem process_heard (setup : Setup ω) :
    Simulates (Heard before) (process setup.wiring) (process (listening setup).wiring) := by
  intro s t same
  have simulates : Simulates (Buses before) setup.wiring.process (listening setup).wiring.process :=
    processControllers_buses setup.memoryController setup.ioController
  have related : Buses before (s.bus, s.world) (t.bus, t.world) := ⟨same.bus, same.world⟩
  unfold process
  cases ran : setup.wiring.process (s.bus, s.world) with
  | ok value after =>
    obtain ⟨last, again, sameBus, sameWorld⟩ := simulates.ok related ran
    rw [again]
    exact ⟨rfl, same.cpu, sameBus, sameWorld⟩
  | error fault after =>
    obtain ⟨last, again, sameBus, sameWorld⟩ := simulates.error related ran
    rw [again]
    exact ⟨rfl, same.cpu, sameBus, sameWorld⟩

theorem assert0_eq (w : Wiring ω) :
    (assert0 : CpuM ω Unit) w = if w.build.ndebug then pure () else throw .assertion := by
  funext s
  have wiring : (read : CpuM ω (Wiring ω)) w s = .ok w s := rfl
  unfold assert0
  rw [bind_run, wiring]
  dsimp only
  rw [ite_run]
  cases w.build.ndebug <;> rfl

theorem assert0_heard (setup : Setup ω) :
    Simulates (Heard before) (assert0 setup.wiring) (assert0 (listening setup).wiring) := by
  have same : (listening setup).wiring.build = setup.wiring.build := rfl
  rw [assert0_eq, assert0_eq, same]
  exact Simulates.ite (Simulates.pure ()) (Simulates.throw Fault.assertion)

theorem readFromAddress_heard (setup : Setup ω) (lane : Signal) (addr : Word) :
    Simulates (Heard before) (readFromAddress lane addr setup.wiring)
    (readFromAddress lane addr (listening setup).wiring) :=
  (cpuOnBus_heard setup.wiring (listening setup).wiring fun bus => ((), ControlBus.send lane bus)).bind fun _ =>
    (cpuOnBus_heard setup.wiring (listening setup).wiring fun bus => ((), AddressBus.send addr bus)).bind fun _ =>
      process_heard setup

theorem writeToAddress_heard (setup : Setup ω) (lane : Signal) (addr : Word) (value : Byte) :
    Simulates (Heard before) (writeToAddress lane addr value setup.wiring)
      (writeToAddress lane addr value (listening setup).wiring) :=
  (cpuOnBus_heard setup.wiring (listening setup).wiring fun bus => ((), ControlBus.send lane bus)).bind fun _ =>
    (cpuOnBus_heard setup.wiring (listening setup).wiring fun bus => ((), AddressBus.send addr bus)).bind fun _ =>
      (cpuOnBus_heard setup.wiring (listening setup).wiring fun bus => ((), DataBus.send value bus)).bind fun _ =>
        process_heard setup

theorem emulator_heard (setup : Setup ω) : (emulator setup.wiring).Simulates (Heard before)
    (emulator (listening setup).wiring) where
  look _ _ same := ⟨same.cpu.symm, same⟩
  change f _ _ same := ⟨rfl, congrArg f same.cpu, same.bus, same.world⟩
  check := assert0_heard setup
  ask _ := (readFromAddress_heard setup _ _).bind fun _ => cpuOnBus_heard _ _ _
  tell _ := writeToAddress_heard setup _ _ _

theorem dispatch_heard (setup : Setup ω) (isr : Option Byte) :
    Simulates (Heard before) (dispatch isr setup.wiring) (dispatch isr (listening setup).wiring) := by
  rw [dispatch_eq, dispatch_eq]
  exact (emulator_heard setup).run (program isr)

theorem execute_heard (setup : Setup ω) :
    Simulates (Heard before) (execute setup.wiring) (execute (listening setup).wiring) := by
  intro s t same
  obtain ⟨cpu, bus, world⟩ := s
  obtain ⟨other, otherBus, calls⟩ := t
  obtain ⟨rfl, rfl, sameWorld⟩ := same
  rw [execute_run, execute_run]
  by_cases pending : otherBus.controlBus.getLsbD Signal.interrupt.lane = true
  · rw [if_pos pending, if_pos pending]
    by_cases enabled : other.iff = true
    · rw [if_pos enabled, if_pos enabled]
      exact dispatch_heard setup _ _ _ ⟨rfl, rfl, sameWorld⟩
    · rw [if_neg enabled, if_neg enabled]
      exact dispatch_heard setup _ _ _ ⟨rfl, rfl, sameWorld⟩
  · rw [if_neg pending, if_neg pending]
    exact dispatch_heard setup _ _ _ ⟨rfl, rfl, sameWorld⟩

end Executions

section States
variable {before : List Access} (memory : IController ω)

theorem pushBack_heard (mem : List Byte) (addr : Word) :
    Simulates (World before) (pushBack memory mem addr) (pushBack (listen .memory memory) mem addr) :=
  (read_world .memory memory addr).bind fun _ => Simulates.pure _

theorem countedLoop_heard {bound : Nat} {body : α → Word → EStateM Fault ω α}
    {other : α → Word → EStateM Fault (Listened ω) α}
    (same : ∀ acc addr, Simulates (World before) (body acc addr) (other acc addr)) (fuel : Nat) (addr : Word) (acc : α) :
    Simulates (World before) (CountedLoop.run bound body fuel addr acc) (CountedLoop.run bound other fuel addr acc) := by
  induction fuel generalizing addr acc with
  | zero => exact Simulates.pure none
  | succ fuel ih => exact Simulates.ite ((same acc addr).bind fun acc => ih (addr + 1) acc) (Simulates.pure (some acc))

theorem gather_heard (fuel : Nat) (metadata : List Block) (mem : List Byte) :
    Simulates (World before) (gather memory fuel metadata mem) (gather (listen .memory memory) fuel metadata mem) := by
  induction metadata generalizing mem with
  | nil => exact Simulates.pure (some mem)
  | cons m metadata ih =>
    refine (countedLoop_heard (pushBack_heard memory) fuel m.1 mem).bind fun result => ?_
    cases result with
    | none => exact Simulates.pure none
    | some mem => exact ih mem

theorem forBlock_heard (rm : Block) {body : α → Word → EStateM Fault ω α} {other : α → Word → EStateM Fault (Listened ω) α}
    (same : ∀ acc addr, Simulates (World before) (body acc addr) (other acc addr)) (acc : α) :
    Simulates (World before) (forBlock rm body acc) (forBlock rm other acc) :=
  Simulates.foldlM (fun acc addr => same acc (BitVec.ofNat 16 addr)) _ acc

theorem readRom_heard (romMetadata : List Block) :
    Simulates (World before) (readRom memory romMetadata) (readRom (listen .memory memory) romMetadata) :=
  Simulates.foldlM (fun rom rm => forBlock_heard rm (pushBack_heard memory) rom) romMetadata []

theorem writeByte_heard (ram : List Byte) (ramIndex : BitVec 32) (addr : Word) :
    Simulates (World before) (writeByte memory ram ramIndex addr)
    (writeByte (listen .memory memory) ram ramIndex addr) := by
  unfold writeByte
  cases ram[ramIndex.toNat]? with
  | none => exact (Simulates.throw _).bind fun _ => Simulates.pure _
  | some value => exact (write_world .memory memory addr value).bind fun _ => Simulates.pure _

theorem writeRam_heard (ram : List Byte) (ramMetadata : List Block) :
    Simulates (World before) (writeRam memory ram ramMetadata) (writeRam (listen .memory memory) ram ramMetadata) :=
  Simulates.foldlM (fun ramIndex rm => forBlock_heard rm (writeByte_heard memory ram) ramIndex) ramMetadata 0

variable (lib : Libraries) (build : Build) (opt : Opt)

theorem saveState_heard (cpu : Intel8080) :
    Simulates (World before) (saveState lib build opt memory cpu)
    (saveState lib build opt (listen .memory memory) cpu) := by
  refine Simulates.guard ((Simulates.ofExcept _).bind fun ramMetadata =>
    (gather_heard memory loopFuel ramMetadata []).bind fun ram => ?_)
  cases ram with
  | none => exact Simulates.pure none
  | some ram =>
    refine (Simulates.ofExcept _).bind fun romMetadata => (gather_heard memory loopFuel romMetadata []).bind fun rom => ?_
    cases rom with
    | none => exact Simulates.pure none
    | some rom => exact (Simulates.ofExcept _).bind fun state => Simulates.pure (some state)

theorem checkState_heard (str : String) :
    Simulates (World before) (checkState lib build opt memory str)
    (checkState lib build opt (listen .memory memory) str) := by
  refine Simulates.guard ((Simulates.ofExcept _).bind fun json => (Simulates.ofExcept _).bind fun jsonUuid => ?_)
  refine Simulates.guard ((Simulates.ofExcept _).bind fun romMetadata => (readRom_heard memory _).bind fun rom => ?_)
  refine (Simulates.ofExcept _).bind fun jsonMd5 => Simulates.guard ((Simulates.ofExcept _).bind fun ram => ?_)
  exact (Simulates.ofExcept _).bind fun ramMetadata => Simulates.guard (Simulates.pure _)

theorem onWorld_heard {x : EStateM Fault ω α} {y : EStateM Fault (Listened ω) α}
    (simulates : Simulates (World before) x y) : Simulates (Heard before) (onWorld x) (onWorld y) := by
  intro s t same
  unfold onWorld
  cases ran : x s.world with
  | ok value after =>
    obtain ⟨last, again, sameWorld⟩ := simulates.ok same.world ran
    rw [again]
    exact ⟨rfl, same.cpu, same.bus, sameWorld⟩
  | error fault after =>
    obtain ⟨last, again, sameWorld⟩ := simulates.error same.world ran
    rw [again]
    exact ⟨rfl, same.cpu, same.bus, sameWorld⟩

theorem catchException_heard {x : EStateM Fault (System ω) Unit} {y : EStateM Fault (System (Listened ω)) Unit}
    (simulates : Simulates (Heard before) x y) : Simulates (Heard before) (catchException x) (catchException y) := by
  intro s t same
  unfold catchException
  cases ran : x s with
  | ok value after =>
    obtain ⟨last, again, same⟩ := simulates.ok same ran
    rw [again]
    exact ⟨rfl, same⟩
  | error fault after =>
    obtain ⟨last, again, same⟩ := simulates.error same ran
    rw [again]
    cases fault <;> exact ⟨rfl, same⟩

theorem loadMachineState_heard (str : String) :
    Simulates (Heard before) (loadMachineState lib build opt memory str)
      (loadMachineState lib build opt (listen .memory memory) str) := by
  refine Simulates.ite (Simulates.pure ()) (catchException_heard ?_)
  refine (onWorld_heard (checkState_heard memory lib build opt str)).bind fun state => ?_
  refine (Simulates.ofExcept _).bind fun cpuState => Simulates.get_bind fun s t same => ?_
  rw [same.cpu]
  refine (Simulates.ofExcept _).bind fun cpu => ?_
  refine (Simulates.modify fun _ _ same => ⟨rfl, same.bus, same.world⟩).bind fun _ => ?_
  exact (onWorld_heard (writeRam_heard memory _ _)).bind fun _ => Simulates.pure ()

end States

section Moves
variable {setup : Setup ω} {loop after : Loop ω} {events : List (Event ω)}

theorem World.eq {before : List Access} {world : ω} {other : Listened ω} (same : World before world other) :
    ∃ added : List Access, other = (world, before ++ added) ∧ ∀ access ∈ added, access.Transfer := by
  obtain ⟨world, calls⟩ := other
  obtain ⟨rfl, added, rfl, only⟩ := same
  exact ⟨added, rfl, only⟩

theorem Heard.eq {before : List Access} {s : System ω} {t : System (Listened ω)} (same : Heard before s t) :
    ∃ added : List Access, t = { s with world := (s.world, before ++ added) } ∧ ∀ access ∈ added, access.Transfer := by
  obtain ⟨cpu, bus, world⟩ := t
  obtain ⟨rfl, rfl, sameWorld⟩ := same
  obtain ⟨added, rfl, only⟩ := sameWorld.eq
  exact ⟨added, rfl, only⟩

theorem heard_here (calls : List Access) (s : System ω) : Heard calls s { s with world := (s.world, calls) } :=
  ⟨rfl, rfl, World.refl s.world⟩

/-- The loop that listens moves along, and only transfers are added to its calls. -/
def Follows (before : List Access) (result : Option (Loop ω × List (Event ω)))
    (other : Option (Loop (Listened ω) × List (Event (Listened ω)))) : Prop :=
  ∀ after events, result = some (after, events) → ∃ added events, other = some (hearing (before ++ added) after, events) ∧
    ∀ access ∈ added, access.Transfer

theorem Follows.none {before : List Access} (other : Option (Loop (Listened ω) × List (Event (Listened ω)))) :
    Follows before (none : Option (Loop ω × List (Event ω))) other := by
  intro _ _ impossible
  cases impossible

theorem Follows.added {before added : List Access} {events : List (Event ω)} {others : List (Event (Listened ω))}
    (only : ∀ access ∈ added, access.Transfer) (loop : Loop ω) :
    Follows before (some (loop, events)) (some (hearing (before ++ added) loop, others)) := by
  intro after events same
  cases same
  exact ⟨added, others, rfl, only⟩

theorem Follows.still {before : List Access} {events : List (Event ω)} {others : List (Event (Listened ω))}
    (loop : Loop ω) : Follows before (some (loop, events)) (some (hearing before loop, others)) := by
  have same : Follows before (some (loop, events)) (some (hearing (before ++ []) loop, others)) :=
    Follows.added (List.forall_mem_nil _) loop
  rwa [List.append_nil] at same

variable {before : List Access}

theorem load_follows : Follows before (some (loop.load setup)) (some ((hearing before loop).load (listening setup))) := by
  unfold Loop.load
  by_cases accepted : loop.accepts setup.onLoad = true
  · have again : (hearing before loop).accepts (listening setup).onLoad = true := accepted
    rw [if_pos accepted, if_pos again]
    exact Follows.still _
  · have again : ¬ (hearing before loop).accepts (listening setup).onLoad = true := accepted
    rw [if_neg accepted, if_neg again]
    exact Follows.still _

theorem save_follows : Follows before (loop.save setup) ((hearing before loop).save (listening setup)) := by
  unfold Loop.save
  by_cases accepted : loop.accepts setup.onSave = true
  · have again : (hearing before loop).accepts (listening setup).onSave = true := accepted
    have simulates : Simulates (World before)
        (saveState setup.lib setup.build setup.opt setup.memoryController loop.sys.cpu)
        (saveState (listening setup).lib (listening setup).build (listening setup).opt (listening setup).memoryController
          (hearing before loop).sys.cpu) := saveState_heard setup.memoryController setup.lib setup.build
            setup.opt loop.sys.cpu
    have kept : (hearing before loop).sys.world = (loop.sys.world, before) := rfl
    rw [if_pos accepted, if_pos again]
    cases ran : saveState setup.lib setup.build setup.opt setup.memoryController loop.sys.cpu loop.sys.world with
    | ok state world =>
      obtain ⟨last, saved, same⟩ := simulates.ok (World.refl loop.sys.world) ran
      obtain ⟨added, rfl, only⟩ := same.eq
      rw [kept, saved]
      cases state with
      | none => exact Follows.none _
      | some state => exact Follows.added only _
    | error fault world =>
      obtain ⟨last, failed, same⟩ := simulates.error (World.refl loop.sys.world) ran
      obtain ⟨added, rfl, only⟩ := same.eq
      rw [kept, failed]
      cases fault <;> exact Follows.added only _
  · have again : ¬ (hearing before loop).accepts (listening setup).onSave = true := accepted
    rw [if_neg accepted, if_neg again]
    exact Follows.still _

theorem service_follows {isr : ISR} :
    Follows before (loop.service setup isr) ((hearing before loop).service (listening setup) isr) := by
  cases isr with
  | load => exact load_follows
  | save => exact save_follows
  | _ => exact Follows.still _

/-- The loop that listens goes on in the same way. -/
def Commutes (next : Loop ω → Loop ω) (other : Loop (Listened ω) → Loop (Listened ω)) : Prop :=
  ∀ calls loop, other (hearing calls loop) = hearing calls (next loop)

variable {next : Loop ω → Loop ω} {other : Loop (Listened ω) → Loop (Listened ω)}

theorem loadFrom_follows (loop : Loop ω) (same : Commutes next other) (result : Option (Except Fault String)) :
    Follows before (some (loop.loadFrom setup result next))
    (some ((hearing before loop).loadFrom (listening setup) result other)) := by
  unfold loadFrom
  cases result with
  | none =>
    dsimp only
    rw [same]
    exact Follows.still _
  | some result =>
    cases result with
    | error fault => exact Follows.still (loop.fail fault)
    | ok str =>
      dsimp only
      have simulates : Simulates (Heard before)
          (loadMachineState setup.lib setup.build setup.opt setup.memoryController str)
          (loadMachineState (listening setup).lib (listening setup).build (listening setup).opt
            (listening setup).memoryController str) := loadMachineState_heard setup.memoryController setup.lib
              setup.build setup.opt str
      have kept : (hearing before loop).sys = { loop.sys with world := (loop.sys.world, before) } := rfl
      cases ran : loadMachineState setup.lib setup.build setup.opt setup.memoryController str loop.sys with
      | ok done sys =>
        obtain ⟨last, loaded, heard⟩ := simulates.ok (heard_here before loop.sys) ran
        obtain ⟨added, rfl, only⟩ := heard.eq
        rw [kept, loaded]
        change Follows before (some (next { loop with sys }, _))
          (some (other (hearing (before ++ added) { loop with sys }), _))
        rw [same]
        exact Follows.added only _
      | error fault sys =>
        obtain ⟨last, failed, heard⟩ := simulates.error (heard_here before loop.sys) ran
        obtain ⟨added, rfl, only⟩ := heard.eq
        rw [kept, failed]
        exact Follows.added only _

theorem discard_follows (loop : Loop ω) (same : Commutes next other) (result : Option (Except Fault String))
    {events : List (Event ω)} {others : List (Event (Listened ω))} :
    Follows before (some (loop.discard result next, events))
    (some ((hearing before loop).discard result other, others)) := by
  unfold Loop.discard
  split
  next => exact Follows.still _
  next =>
    rw [same]
    exact Follows.still _

theorem commutes_finish : Commutes (ω := ω) finish finish := fun _ _ => rfl

theorem commutes_goto (point : Point) : Commutes (ω := ω) (goto point) (goto point) := fun _ _ => rfl

theorem commutes_powerOff : Commutes (ω := ω) powerOff powerOff := fun _ _ => rfl

theorem Follows.behind {result : Loop ω × List (Event ω)} {last : Loop (Listened ω) × List (Event (Listened ω))}
    (follows : Follows before (some result) (some last)) (earlier : List (Event ω)) (others : List (Event (Listened ω))) :
    Follows before (some (result.1, earlier ++ result.2)) (some (last.1, others ++ last.2)) := by
  intro after trace same
  cases same
  obtain ⟨added, more, reached, only⟩ := follows _ _ rfl
  cases reached
  exact ⟨added, _, rfl, only⟩

theorem checkLoad_follows (same : Commutes next other) (result : Except Fault (Option String)) :
    Follows before (some (loop.checkLoad setup result next))
    (some ((hearing before loop).checkLoad (listening setup) result other)) :=
  Follows.behind (loadFrom_follows { loop with onLoad := _ } same _) _ _

theorem checkSave_follows (same : Commutes next other) (result : Except Fault Unit) :
    Follows before (some (loop.checkSave result next)) (some ((hearing before loop).checkSave result other)) :=
  discard_follows { loop with onSave := _ } same _

theorem quitLoad_follows (result : Except Fault (Option String)) :
    Follows before (loop.quitLoad setup result) ((hearing before loop).quitLoad (listening setup) result) := by
  unfold Loop.quitLoad
  by_cases valid : loop.onLoad.valid = true
  · have again : (hearing before loop).onLoad.valid = true := valid
    have future : (hearing before loop).onLoad = loop.onLoad := rfl
    rw [if_pos valid, if_pos again, future]
    dsimp only
    cases loop.onLoad.get fun _ => loadTask result with
    | none => exact Follows.none _
    | some string =>
      exact Follows.behind (loadFrom_follows { loop with onLoad := .invalid } (commutes_goto .quitSave) (some string)) _ _
  · have again : ¬ (hearing before loop).onLoad.valid = true := valid
    rw [if_neg valid, if_neg again]
    exact Follows.still _

theorem quitSave_follows (result : Except Fault Unit) :
    Follows before (loop.quitSave result) ((hearing before loop).quitSave result) := by
  unfold Loop.quitSave
  by_cases valid : loop.onSave.valid = true
  · have again : (hearing before loop).onSave.valid = true := valid
    have future : (hearing before loop).onSave = loop.onSave := rfl
    rw [if_pos valid, if_pos again, future]
    cases loop.onSave.get fun _ => saveTask result with
    | none => exact Follows.none _
    | some string => exact discard_follows { loop with onSave := .invalid } commutes_powerOff (some string)
  · have again : ¬ (hearing before loop).onSave.valid = true := valid
    rw [if_neg valid, if_neg again]
    exact Follows.still _

/-- Away from the condition of the loop nothing but transfers is heard. -/
theorem step_follows {choice : Choice ω} (apart : loop.point ≠ .head ∨ ∀ loaded saved, choice ≠ .turn loaded saved) :
    Follows before (Loop.step setup choice loop)
    (Loop.step (listening setup) (hearingChoice before choice) (hearing before loop)) := by
  have point : (hearing before loop).point = loop.point := rfl
  cases choice with
  | turn loaded saved =>
    have away : loop.point ≠ .head := apart.resolve_right fun other => other loaded saved rfl
    change Follows before (loop.turn setup loaded saved) ((hearing before loop).turn (listening setup) loaded saved)
    unfold turn
    rw [point]
    split
    next here => exact absurd here away
    next => exact service_follows
    next => exact checkLoad_follows commutes_finish loaded
    next => exact checkSave_follows commutes_finish saved
    next => exact checkLoad_follows (commutes_goto .reapSave) loaded
    next => exact checkSave_follows commutes_finish saved
    next => exact quitLoad_follows loaded
    next => exact quitSave_follows saved
    next => exact Follows.none _
    next => exact Follows.none _
  | loaded result =>
    have future : (hearing before loop).onLoad = loop.onLoad := rfl
    unfold Loop.step hearingChoice
    dsimp only
    rw [future]
    split
    next => exact Follows.still { loop with onLoad := _ }
    next => exact Follows.none _
  | saved result =>
    have future : (hearing before loop).onSave = loop.onSave := rfl
    unfold Loop.step hearingChoice
    dsimp only
    rw [future]
    split
    next => exact Follows.still { loop with onSave := _ }
    next => exact Follows.none _
  | outside world => exact Follows.still { loop with sys := { loop.sys with world } }

end Moves

section Served

/-- A call of `ServiceInterrupts` with what it returned or threw. -/
structure Served where
  currTime : BitVec 64
  cycles : BitVec 64
  result : Except Fault ISR

/-- The calls of `ServiceInterrupts` among the calls. -/
def served (calls : List Access) : List Served := calls.filterMap fun
  | .serviceInterrupts _ currTime cycles result => some ⟨currTime, cycles, result⟩
  | _ => none

theorem served_transfers {calls : List Access} (only : ∀ access ∈ calls, access.Transfer) : served calls = [] := by
  refine List.filterMap_eq_nil_iff.mpr fun access member => ?_
  have transfer := only access member
  cases access with
  | read => rfl
  | write => rfl
  | serviceInterrupts => exact transfer.elim

theorem served_last {calls : List Access} (only : ∀ access ∈ calls, access.Transfer) (device : Device)
    (currTime cycles : BitVec 64) (result : Except Fault ISR) :
    served (calls ++ [.serviceInterrupts device currTime cycles result]) = [⟨currTime, cycles, result⟩] := by
  have before := served_transfers only
  unfold served at before ⊢
  rw [List.filterMap_append, before]
  rfl

end Served

section Passes
variable {setup : Setup ω} {loop after : Loop ω} {events : List (Event ω)}

/-- The system of the next execution. -/
def pending (loop : Loop ω) : System ω := { loop.sys with bus := (ControlBus.receive .powerOff loop.sys.bus).2 }

def executed (ticks : Byte) (sys : System ω) (clock : CpuClock) (host : SteadyClock.Host) (loop : Loop ω) : Loop ω :=
  { loop with sys, clock, host, currTime := clock.time, totalTicks := loop.totalTicks + ticks.toNat }

/-- What a pass of the loop does, with the calls it makes. -/
inductive Pass (setup : Setup ω) (loop : Loop ω) : Loop ω → List Access → Prop
  | off (off : ¬ PoweredOn loop.sys.bus) : Pass setup loop ({ loop with sys := pending loop }.goto .done) []
  | failed {fault : Fault} {sys : System ω} {transfers : List Access} (on : PoweredOn loop.sys.bus)
      (execution : execute setup.wiring (pending loop) = .error fault sys) (only : ∀ access ∈ transfers, access.Transfer) :
      Pass setup loop ({ loop with sys }.fail fault) transfers
  | counted {ticks : Byte} {sys : System ω} {clock : CpuClock} {host : SteadyClock.Host} {transfers : List Access}
      (on : PoweredOn loop.sys.bus) (execution : execute setup.wiring (pending loop) = .ok ticks sys)
      (ticked : loop.clock.tick (ticks.setWidth 64) loop.host = some (clock, host))
      (early : ¬ loop.totalTicks + ticks.toNat - loop.lastTicks ≥ setup.ticksPerIsr)
        (only : ∀ access ∈ transfers, access.Transfer) :
      Pass setup loop (executed ticks sys clock host loop) transfers
  | serviced {ticks : Byte} {sys : System ω} {clock : CpuClock} {host : SteadyClock.Host} {isr : ISR} {world : ω}
      {transfers : List Access} (on : PoweredOn loop.sys.bus)
        (execution : execute setup.wiring (pending loop) = .ok ticks sys)
      (ticked : loop.clock.tick (ticks.setWidth 64) loop.host = some (clock, host))
      (due : loop.totalTicks + ticks.toNat - loop.lastTicks ≥ setup.ticksPerIsr)
      (called : setup.ioController.serviceInterrupts (BitVec.ofInt 64 clock.time)
        (BitVec.ofInt 64 (loop.totalTicks + ticks.toNat))
        sys.world = .ok isr world) (only : ∀ access ∈ transfers, access.Transfer) :
      Pass setup loop (executed ticks { sys with world } clock host loop |>.goto (.serviced isr))
        (transfers ++ [.serviceInterrupts .io (BitVec.ofInt 64 clock.time)
          (BitVec.ofInt 64 (loop.totalTicks + ticks.toNat)) (.ok isr)])
  | threw {ticks : Byte} {sys : System ω} {clock : CpuClock} {host : SteadyClock.Host} {fault : Fault} {world : ω}
      {transfers : List Access} (on : PoweredOn loop.sys.bus)
        (execution : execute setup.wiring (pending loop) = .ok ticks sys)
      (ticked : loop.clock.tick (ticks.setWidth 64) loop.host = some (clock, host))
      (due : loop.totalTicks + ticks.toNat - loop.lastTicks ≥ setup.ticksPerIsr)
      (called : setup.ioController.serviceInterrupts (BitVec.ofInt 64 clock.time)
        (BitVec.ofInt 64 (loop.totalTicks + ticks.toNat))
        sys.world = .error fault world) (only : ∀ access ∈ transfers, access.Transfer) :
      Pass setup loop (executed ticks { sys with world } clock host loop |>.fail fault)
        (transfers ++ [.serviceInterrupts .io (BitVec.ofInt 64 clock.time)
          (BitVec.ofInt 64 (loop.totalTicks + ticks.toNat)) (.error fault)])

theorem instruction_off (off : ¬ PoweredOn loop.sys.bus) :
    loop.instruction setup = some ({ loop with sys := pending loop }.goto .done, []) := by
  have lane : (ControlBus.receive .powerOff loop.sys.bus).1 = true := eq_true_of_ne_false off
  unfold instruction
  dsimp only
  rw [if_pos lane]
  rfl

theorem instruction_failed {fault : Fault} {sys : System ω} (on : PoweredOn loop.sys.bus)
    (execution : execute setup.wiring (pending loop) = .error fault sys) :
    loop.instruction setup = some ({ loop with sys }.fail fault, []) := by
  have lane : ¬ (ControlBus.receive .powerOff loop.sys.bus).1 = true := ne_true_of_eq_false on
  have ran : execute setup.wiring { loop.sys with bus := (ControlBus.receive .powerOff loop.sys.bus).2 } =
      .error fault sys := execution
  unfold instruction
  dsimp only
  rw [if_neg lane, ran]

theorem instruction_executed {ticks : Byte} {sys : System ω} (on : PoweredOn loop.sys.bus)
    (execution : execute setup.wiring (pending loop) = .ok ticks sys) :
    loop.instruction setup = (loop.clock.tick (ticks.setWidth 64) loop.host).bind fun out =>
      if loop.totalTicks + ticks.toNat - loop.lastTicks ≥ setup.ticksPerIsr then
        match setup.ioController.serviceInterrupts (BitVec.ofInt 64 out.1.time)
        (BitVec.ofInt 64 (loop.totalTicks + ticks.toNat))
          sys.world with
        | .ok isr world => some ((executed ticks { sys with world } out.1 out.2 loop).goto (.serviced isr), [.executed])
        | .error fault world => some ((executed ticks { sys with world } out.1 out.2 loop).fail fault, [.executed])
      else some (executed ticks sys out.1 out.2 loop, [.executed]) := by
  have lane : ¬ (ControlBus.receive .powerOff loop.sys.bus).1 = true := ne_true_of_eq_false on
  have ran : execute setup.wiring { loop.sys with bus := (ControlBus.receive .powerOff loop.sys.bus).2 } =
      .ok ticks sys := execution
  unfold instruction
  dsimp only
  rw [if_neg lane, ran]
  rfl

section Services
variable {currTime cycles : BitVec 64} {world last : ω} {calls : List Access}

theorem serviceInterrupts_ok {isr : ISR} (called :
    setup.ioController.serviceInterrupts currTime cycles world = .ok isr last) :
    (listening setup).ioController.serviceInterrupts currTime cycles (world, calls) =
      .ok isr (last, calls ++ [.serviceInterrupts .io currTime cycles (.ok isr)]) :=
  heard_ok (.serviceInterrupts .io currTime cycles) calls called

theorem serviceInterrupts_error {fault : Fault}
    (called : setup.ioController.serviceInterrupts currTime cycles world = .error fault last) :
    (listening setup).ioController.serviceInterrupts currTime cycles (world, calls) =
      .error fault (last, calls ++ [.serviceInterrupts .io currTime cycles (.error fault)]) :=
  heard_error (.serviceInterrupts .io currTime cycles) calls called

end Services

/-- A pass, also of the loop that listens. -/
theorem instruction_pass (ran : loop.instruction setup = some (after, events)) :
    ∃ calls others, (hearing [] loop).instruction (listening setup) = some (hearing calls after, others) ∧
      Pass setup loop after calls := by
  by_cases on : PoweredOn loop.sys.bus
  · have again : PoweredOn (hearing [] loop).sys.bus := on
    have simulates : Simulates (Heard []) (execute setup.wiring) (execute (listening setup).wiring) := execute_heard setup
    have total : (hearing [] loop).totalTicks = loop.totalTicks := rfl
    have related : Heard [] (pending loop) (pending (hearing [] loop)) := ⟨rfl, rfl, World.refl _⟩
    cases execution : execute setup.wiring (pending loop) with
    | error fault sys =>
      obtain ⟨last, failed, heard⟩ := simulates.error related execution
      obtain ⟨transfers, rfl, only⟩ := heard.eq
      rw [instruction_failed on execution] at ran
      rw [instruction_failed again failed]
      cases ran
      exact ⟨transfers, _, rfl, .failed on execution only⟩
    | ok ticks sys =>
      obtain ⟨last, finished, heard⟩ := simulates.ok related execution
      obtain ⟨transfers, rfl, only⟩ := heard.eq
      rw [instruction_executed on execution] at ran
      rw [instruction_executed again finished]
      obtain ⟨⟨clock, host⟩, ticked, ran⟩ := Option.bind_eq_some_iff.mp ran
      have ticked' : (hearing [] loop).clock.tick (ticks.setWidth 64) (hearing [] loop).host = some (clock, host) := ticked
      rw [ticked', Option.bind_some]
      dsimp only at ran ⊢
      by_cases due : loop.totalTicks + ticks.toNat - loop.lastTicks ≥ setup.ticksPerIsr
      · have due' : (hearing [] loop).totalTicks + ticks.toNat - (hearing [] loop).lastTicks ≥
            (listening setup).ticksPerIsr := due
        rw [if_pos due] at ran
        rw [if_pos due']
        cases called : setup.ioController.serviceInterrupts (BitVec.ofInt 64 clock.time)
          (BitVec.ofInt 64 (loop.totalTicks + ticks.toNat)) sys.world with
        | ok isr world =>
          rw [called] at ran
          rw [total, serviceInterrupts_ok called]
          cases ran
          exact ⟨_, _, rfl, .serviced on execution ticked due called only⟩
        | error fault world =>
          rw [called] at ran
          rw [total, serviceInterrupts_error called]
          cases ran
          exact ⟨_, _, rfl, .threw on execution ticked due called only⟩
      · have early : ¬ (hearing [] loop).totalTicks + ticks.toNat - (hearing [] loop).lastTicks ≥
            (listening setup).ticksPerIsr := due
        rw [if_neg due] at ran
        rw [if_neg early]
        cases ran
        exact ⟨transfers, _, rfl, .counted on execution ticked due only⟩
  · have again : ¬ PoweredOn (hearing [] loop).sys.bus := on
    rw [instruction_off on] at ran
    rw [instruction_off again]
    cases ran
    exact ⟨[], _, rfl, .off on⟩

/-- A move is a pass of the loop, or makes no calls but transfers. -/
theorem step_calls {choice : Choice ω} (moved : Loop.step setup choice loop = some (after, events)) :
    (loop.point = .head ∧ (∃ loaded saved, choice = .turn loaded saved) ∧ Pass setup loop after (calls setup choice loop)) ∨
      (loop.point ≠ .head ∨ ∀ loaded saved, choice ≠ .turn loaded saved) ∧ ∀ access ∈ calls setup choice loop,
        access.Transfer := by
  by_cases apart : loop.point ≠ .head ∨ ∀ loaded saved, choice ≠ .turn loaded saved
  · have follows : Follows [] (Loop.step setup choice loop)
        (Loop.step (listening setup) (hearingChoice [] choice) (hearing [] loop)) :=
      step_follows apart
    obtain ⟨added, others, moved', only⟩ := follows after events moved
    refine .inr ⟨apart, ?_⟩
    unfold calls
    rw [moved']
    exact only
  · rw [not_or, not_ne_iff, not_forall] at apart
    obtain ⟨here, loaded, turns⟩ := apart
    simp only [ne_eq, not_forall, not_not] at turns
    obtain ⟨saved, rfl⟩ := turns
    have turn (ω : Type) (setup : Setup ω) (loop : Loop ω) (here : loop.point = .head) :
        Loop.step setup (.turn loaded saved) loop = loop.instruction setup := by
      simp only [Loop.step, Loop.turn, here]
    rw [turn ω setup loop here] at moved
    obtain ⟨heard, others, moved', pass⟩ := instruction_pass moved
    refine .inl ⟨here, ⟨loaded, saved, rfl⟩, ?_⟩
    have again : Loop.step (listening setup) (hearingChoice [] (.turn loaded saved)) (hearing [] loop) =
        some (hearing heard after, others) := (turn _ (listening setup) (hearing [] loop) here).trans moved'
    rw [calls, again]
    exact pass

end Passes
end MachEmu.Proofs.Calls
