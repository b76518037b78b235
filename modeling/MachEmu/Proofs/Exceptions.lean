import MachEmu.Proofs.Lifecycle
import MachEmu.Proofs.Calls
import MachEmu.Proofs.StateChecks

/-! What a run throws on controllers that throw nothing. Whatever is wrong with a
save or a load is caught. -/

namespace MachEmu.Proofs.Exceptions
open ErrorState Intel8080 BusTransactions BusDiscipline InstructionPrograms Programs Calls StateChecks
open Machine Loop Traces

variable {ω α : Type}

/-- No call of the controller throws. -/
structure Answering (controller : IController ω) : Prop where
  read : ∀ addr world, Raises (fun _ => False) (controller.read addr) world
  write : ∀ addr value world, Raises (fun _ => False) (controller.write addr value) world
  serviceInterrupts : ∀ currTime cycles world, Raises (fun _ => False) (controller.serviceInterrupts currTime cycles) world

abbrev Uncaught (fault : Fault) : Prop := fault.caught = false

abbrev Known (fault : Fault) : Prop := fault ≠ .foreign

section Executions
variable {controller : IController ω} {setup : Setup ω}

theorem onBus_answers (f : SystemBus → α × SystemBus) (s : SystemBus × ω) :
    Raises (fun _ => False) (Machine.onBus f : EStateM Fault (SystemBus × ω) α) s := nofun

theorem callController_answers {x : EStateM Fault ω α} (answers : ∀ world, Raises (fun _ => False) x world)
    (s : SystemBus × ω) : Raises (fun _ => False) (callController x) s := by
  obtain ⟨bus, world⟩ := s
  intro fault after failed
  unfold callController at failed
  dsimp only at failed
  cases ran : x world with
  | ok value last =>
    rw [ran] at failed
    cases failed
  | error fault last => exact answers world fault last ran

theorem serve_answers (answering : Answering controller) (readLane writeLane : Signal) (s : SystemBus × ω) :
    Raises (fun _ => False) (serve (some controller) readLane writeLane) s := by
  have writes (s : SystemBus × ω) : Raises (fun _ => False)
      (do if ← Machine.onBus (ControlBus.receive writeLane) then
            let addr ← Machine.onBus AddressBus.receive
            let data ← Machine.onBus DataBus.receive
            callController (controller.write addr data)) s := by
    refine (onBus_answers _ _).bind fun on _ _ => Raises.ite ?_ (Raises.pure _)
    refine (onBus_answers _ _).bind fun addr _ _ => (onBus_answers _ _).bind fun data _ _ => ?_
    exact callController_answers (answering.write addr data) _
  refine (onBus_answers _ _).bind fun on _ _ => Raises.ite ?_ (writes _)
  refine (onBus_answers _ _).bind fun addr _ _ => ?_
  refine (callController_answers (answering.read addr) _).bind fun data _ _ => ?_
  exact (onBus_answers _ _).bind fun _ _ _ => writes _

structure Peaceful (setup : Setup ω) : Prop where
  memory : Answering setup.memoryController
  io : Answering setup.ioController

theorem process_answers (peaceful : Peaceful setup) (s : System ω) : Raises (fun _ => False) (process setup.wiring) s := by
  have answers : Raises (fun _ => False) setup.wiring.process (s.bus, s.world) :=
    (serve_answers peaceful.memory _ _ _).bind fun _ _ _ => serve_answers peaceful.io _ _ _
  intro fault after failed
  unfold process at failed
  cases ran : setup.wiring.process (s.bus, s.world) with
  | ok value last =>
    rw [ran] at failed
    cases failed
  | error fault last => exact answers fault last ran

theorem cpuOnBus_answers (w : Wiring ω) (f : SystemBus → α × SystemBus) (s : System ω) :
    Raises (fun _ => False) ((Intel8080.onBus f : CpuM ω α) w) s := nofun

theorem readFromAddress_answers (peaceful : Peaceful setup) (lane : Signal) (addr : Word) (s : System ω) :
    Raises (fun _ => False) (readFromAddress lane addr setup.wiring) s :=
  (cpuOnBus_answers setup.wiring (fun bus => ((), ControlBus.send lane bus)) _).bind fun _ _ _ =>
    (cpuOnBus_answers setup.wiring (fun bus => ((), AddressBus.send addr bus)) _).bind fun _ _ _ =>
      process_answers peaceful _

theorem writeToAddress_answers (peaceful : Peaceful setup) (lane : Signal) (addr : Word) (value : Byte) (s : System ω) :
    Raises (fun _ => False) (writeToAddress lane addr value setup.wiring) s :=
  (cpuOnBus_answers setup.wiring (fun bus => ((), ControlBus.send lane bus)) _).bind fun _ _ _ =>
    (cpuOnBus_answers setup.wiring (fun bus => ((), AddressBus.send addr bus)) _).bind fun _ _ _ =>
      (cpuOnBus_answers setup.wiring (fun bus => ((), DataBus.send value bus)) _).bind fun _ _ _ =>
        process_answers peaceful _

theorem emulator_uncaught (peaceful : Peaceful setup) : (emulator setup.wiring).Raises Uncaught where
  look _ := nofun
  change _ _ := nofun
  check s := by
    change Raises Uncaught (assert0 setup.wiring) s
    rw [assert0_eq]
    exact Raises.ite (Raises.pure ()) (Raises.throw rfl)
  ask question s := ((readFromAddress_answers peaceful _ _ s).mono fun _ => False.elim).bind fun _ _ _ => nofun
  tell command s := (writeToAddress_answers peaceful _ _ _ s).mono fun _ => False.elim

theorem execute_uncaught (peaceful : Peaceful setup) (s : System ω) : Raises Uncaught (execute setup.wiring) s := by
  have dispatches (isr : Option Byte) (s : System ω) : Raises Uncaught (dispatch isr setup.wiring) s := by
    rw [dispatch_eq]
    exact (emulator_uncaught peaceful).run (program isr) s
  unfold Raises
  rw [execute_run]
  split
  · split
    · exact dispatches _ _
    · exact dispatches _ _
  · exact dispatches _ _

end Executions

section Options
variable {opt : Opt} (lib : Libraries) (build : Build)

theorem known_of_throws {e : Except Fault α} (throws : Throws e) : OnlyThrows Known e := by
  refine throws.mono fun fault exception foreign => ?_
  obtain ⟨what, rfl⟩ := exception
  cases foreign

theorem known_constAt (json : Json) (key : String) : OnlyThrows Known (json.constAt key) := by
  unfold Json.constAt
  split
  · split
    · exact .ok _
    · exact .error nofun
  · exact known_of_throws throws_typeError

theorem known_readBlock (json : Json) : OnlyThrows Known (Opt.readBlock json) :=
  (known_constAt json "offset").bind fun offset => (known_of_throws (throws_getUint offset 16)).bind fun _ =>
    (known_constAt json "size").bind fun size => (known_of_throws (throws_getUint size 16)).bind fun _ => .ok _

theorem known_blocks (key inner : String) :
    OnlyThrows Known (do (← (← opt.json.index key).index inner).items.mapM Opt.readBlock) :=
  (known_of_throws (throws_index _ _)).bind fun field => (known_of_throws (throws_index field _)).bind fun blocks =>
    .mapM known_readBlock blocks.items

theorem known_ram : OnlyThrows Known opt.ram := known_blocks "ram" "block"

theorem known_rom : OnlyThrows Known opt.rom := known_blocks "rom" "file"

theorem throws_binToTxt (encoder compressor : String) (bin : List Byte) :
    Throws (Utils.binToTxt lib build encoder compressor bin) := by
  unfold Utils.binToTxt
  dsimp only
  split
  · exact throws_exception _
  · split
    · split
      · split
        · exact OnlyThrows.ok _
        · exact throws_exception _
      · exact throws_exception _
    · exact OnlyThrows.ok _

theorem throws_snprintf (text : String) : Throws (snprintf text) := by
  unfold snprintf
  split
  · exact OnlyThrows.ok _
  · split
    · exact throws_exception _
    · exact OnlyThrows.ok _

theorem throws_writeState (memory : IController ω) (cpu : Intel8080) (rom ram : List Byte) :
    Throws (writeState lib build opt memory cpu rom ram) := by
  have option (key : String) : Throws (do (← opt.json.index key).getString) :=
    (throws_index _ _).bind fun field => throws_getString field
  have saved : Throws (cpu.save lib build) := (throws_binToTxt lib build _ _ _).bind fun _ => OnlyThrows.ok _
  refine OnlyThrows.bind ?_ fun text => throws_snprintf text
  refine saved.bind fun _ => (throws_binToTxt lib build _ _ _).bind fun _ =>
    (throws_binToTxt lib build _ _ _).bind fun _ => ?_
  refine (option "encoder").bind fun _ => (option "compressor").bind fun _ => ?_
  exact (throws_binToTxt lib build _ _ _).bind fun _ => OnlyThrows.ok _

end Options

section States
variable {setup : Setup ω} (lib : Libraries) (build : Build) (opt : Opt) {memory : IController ω}

theorem never_known {x : EStateM Fault ω α} {s : ω} (never : Raises (fun _ => False) x s) : Raises Known x s :=
  never.mono fun _ => False.elim

theorem pushBack_known (answering : Answering memory) (mem : List Byte) (addr : Word) (world : ω) :
    Raises Known (pushBack memory mem addr) world :=
  (never_known (answering.read addr world)).bind fun _ _ _ => Raises.pure _

theorem countedLoop_known {bound : Nat} {body : α → Word → EStateM Fault ω α}
    (known : ∀ acc addr world, Raises Known (body acc addr) world)
    (fuel : Nat) (addr : Word) (acc : α) (world : ω) : Raises Known (CountedLoop.run bound body fuel addr acc) world := by
  induction fuel generalizing addr acc world with
  | zero => exact Raises.pure none
  | succ fuel ih =>
    exact Raises.ite ((known acc addr world).bind fun acc mid _ => ih (addr + 1) acc mid) (Raises.pure (some acc))

theorem gather_known (answering : Answering memory) (fuel : Nat) (metadata : List Block) (mem : List Byte) (world : ω) :
    Raises Known (gather memory fuel metadata mem) world := by
  induction metadata generalizing mem world with
  | nil => exact Raises.pure _
  | cons block metadata ih =>
    refine (countedLoop_known (pushBack_known answering) fuel block.1 mem world).bind fun result mid _ => ?_
    cases result with
    | none => exact Raises.pure none
    | some mem => exact ih mem mid

theorem saveState_known (answering : Answering memory) (cpu : Intel8080) (world : ω) :
    Raises Known (saveState lib build opt memory cpu) world := by
  refine Raises.guard (fun _ => nofun) fun _ => ?_
  refine (Raises.ofExcept known_ram).bind fun ramMetadata _ _ =>
    (gather_known answering _ ramMetadata [] _).bind fun ram _ _ => ?_
  cases ram with
  | none => exact Raises.pure none
  | some ram =>
    refine (Raises.ofExcept known_rom).bind fun romMetadata _ _ =>
      (gather_known answering _ romMetadata [] _).bind fun rom _ _ => ?_
    cases rom with
    | none => exact Raises.pure none
    | some rom =>
      exact (Raises.ofExcept (known_of_throws (throws_writeState lib build memory cpu rom ram))).bind fun _ _
        _ => Raises.pure _

theorem forBlock_known {σ : Type} {body : α → Word → EStateM Fault σ α}
    (known : ∀ acc addr s, Raises Known (body acc addr) s) (block : Block)
    (acc : α) (s : σ) : Raises Known (forBlock block body acc) s :=
  Raises.foldlM (fun acc _ s => known acc _ s) _ acc

theorem readRom_known (answering : Answering memory) (romMetadata : List Block) (world : ω) :
    Raises Known (readRom memory romMetadata) world :=
  Raises.foldlM (fun rom block world => forBlock_known (pushBack_known answering) block rom world) romMetadata []

theorem checkState_known (answering : Answering memory) (str : String) (world : ω) :
    Raises Known (checkState lib build opt memory str) world := by
  refine Raises.guard (fun _ => nofun) fun _ => ?_
  refine (Raises.ofExcept (known_of_throws (throws_parse lib str))).bind fun json _ _ => ?_
  refine (Raises.ofExcept (known_of_throws (throws_digest lib build json "uuid"))).bind fun uuid _ _ =>
    Raises.guard (fun _ => nofun) fun _ => ?_
  refine (Raises.ofExcept known_rom).bind fun romMetadata _ _ =>
    (readRom_known answering romMetadata _).bind fun rom _ _ => ?_
  refine (Raises.ofExcept (known_of_throws (throws_digest lib build json "rom"))).bind fun md5 _ _ =>
    Raises.guard (fun _ => nofun) fun _ => ?_
  refine (Raises.ofExcept (known_of_throws (throws_decodeRam lib build json))).bind fun ram _ _ => ?_
  exact (Raises.ofExcept known_ram).bind fun ramMetadata _ _ => Raises.guard (fun _ => nofun) fun _ => Raises.pure _

theorem writeByte_known (answering : Answering memory) (ram : List Byte) (ramIndex : BitVec 32) (addr : Word) (world : ω) :
    Raises Known (writeByte memory ram ramIndex addr) world := by
  unfold writeByte
  cases ram[ramIndex.toNat]? with
  | none => exact (Raises.throw nofun).bind fun _ _ _ => Raises.pure _
  | some value => exact (never_known (answering.write addr value world)).bind fun _ _ _ => Raises.pure _

theorem onWorld_known {call : EStateM Fault ω α} (known : ∀ world, Raises Known call world) (s : System ω) :
    Raises Known (onWorld call) s := by
  intro fault after failed
  unfold onWorld at failed
  cases ran : call s.world with
  | ok value world =>
    rw [ran] at failed
    cases failed
  | error fault world =>
    rw [ran] at failed
    cases failed
    exact known s.world fault world ran

theorem catchException_uncaught {σ : Type} {body : EStateM Fault σ Unit} {s : σ} (known : Raises Known body s) :
    Raises Uncaught (catchException body) s := by
  intro fault after failed
  unfold catchException at failed
  split at failed
  next => cases failed
  next result other =>
    have known := known fault after failed
    cases fault with
    | exception what => exact absurd failed (other what after)
    | foreign => exact absurd rfl known
    | assertion => rfl
    | undefined => rfl

/-- A load lets no exception through. -/
theorem loadMachineState_uncaught (answering : Answering memory) (str : String) (s : System ω) :
    Raises Uncaught (loadMachineState lib build opt memory str) s := by
  unfold loadMachineState
  refine Raises.ite (Raises.pure ()) (catchException_uncaught ?_)
  refine (onWorld_known (checkState_known lib build opt answering str) s).bind fun checked _ _ => ?_
  obtain ⟨json, ram, ramMetadata⟩ := checked
  refine (Raises.ofExcept (known_of_throws (throws_index json "cpu"))).bind fun cpuState _ _ => Raises.get_bind ?_
  refine (Raises.ofExcept (known_of_throws (throws_load lib build _ _))).bind fun cpu _ _ =>
    (Raises.modify _).bind fun _ _ _ => ?_
  refine (onWorld_known (fun world => ?_) _).bind fun _ _ _ => Raises.pure _
  exact Raises.foldlM (fun ramIndex block world =>
    forBlock_known (writeByte_known answering ram) block ramIndex world) ramMetadata 0

end States

section Loops
variable {setup : Setup ω} {loop after : Loop ω} {events : List (Event ω)}

/-- The handlers throw exceptions at most. -/
def Mannered : Choice ω → Prop
  | .turn read written => read ≠ .error .foreign ∧ written ≠ .error .foreign
  | .loaded read => read ≠ .error .foreign
  | .saved written => written ≠ .error .foreign
  | .outside _ => True

/-- A result that a caller does not get as an exception. -/
def Contained (result : Except Fault α) : Prop := ∀ fault, result = .error fault → Uncaught fault

theorem uncaught_known {fault : Fault} (known : Known fault) (other : ∀ what, fault ≠ .exception what) :
    Uncaught fault := by
  cases fault with
  | exception what => exact absurd rfl (other what)
  | foreign => exact absurd rfl known
  | assertion => rfl
  | undefined => rfl

theorem uncaught_thrown {τ : Type} {thrown : Fault} (mannered : (Except.error thrown : Except Fault τ) ≠ .error .foreign)
    (other : ∀ what, thrown ≠ .exception what) : Uncaught thrown := by
  refine uncaught_known ?_ other
  rintro rfl
  exact mannered rfl

theorem loadTask_contained {onLoad : Except Fault (Option String)} (mannered : onLoad ≠ .error .foreign) :
    Contained (loadTask onLoad) := by
  intro fault failed
  unfold loadTask at failed
  split at failed
  next => cases failed
  next => cases failed
  next => cases failed
  next thrown other =>
    cases failed
    exact uncaught_thrown mannered other

theorem saveTask_contained {onSave : Except Fault Unit} (mannered : onSave ≠ .error .foreign) :
    Contained (saveTask onSave) := by
  intro fault failed
  unfold saveTask at failed
  split at failed
  next => cases failed
  next => cases failed
  next thrown other =>
    cases failed
    exact uncaught_thrown mannered other

theorem poll_contained {τ : Type} {future : Future τ (Except Fault String)} {run : τ → Except Fault String}
    (ready : ∀ result ∈ future.results, Contained result) (runs : ∀ task, Contained (run task)) :
    (∀ result, (future.poll run).1 = some result → Contained result) ∧ ∀ result ∈ (future.poll run).2.results,
      Contained result := by
  cases future with
  | invalid => exact ⟨nofun, nofun⟩
  | deferred task =>
    refine ⟨fun result ran => ?_, nofun⟩
    cases ran
    exact runs task
  | running task => exact ⟨nofun, nofun⟩
  | ready value =>
    refine ⟨fun result ran => ?_, nofun⟩
    cases ran
    exact ready value (List.mem_singleton.mpr rfl)

theorem get_contained {τ : Type} {future : Future τ (Except Fault String)} {run : τ → Except Fault String}
    {result : Except Fault String}
    (ready : ∀ result ∈ future.results, Contained result) (runs : ∀ task, Contained (run task))
    (got : future.get run = some result) : Contained result := by
  cases future with
  | deferred task =>
    cases got
    exact runs task
  | ready value =>
    cases got
    exact ready result (List.mem_singleton.mpr rfl)
  | _ => cases got

/-- The loop has not failed with an exception, and collects none. -/
structure Civil (loop : Loop ω) : Prop where
  point : ∀ fault, loop.point = .failed fault → Uncaught fault
  onLoad : ∀ result ∈ loop.onLoad.results, Contained result
  onSave : ∀ result ∈ loop.onSave.results, Contained result

theorem Civil.goto (civil : Civil loop) {point : Point} (going : ∀ fault, point = .failed fault → Uncaught fault) :
    Civil (loop.goto point) :=
  ⟨going, civil.onLoad, civil.onSave⟩

/-- Where a handler leads once its future is collected. -/
def Leads (next : Loop ω → Loop ω) : Prop := ∀ loop, Civil loop → Civil (next loop)

theorem leads_finish : Leads (finish (ω := ω)) := fun _ civil => ⟨nofun, civil.onLoad, civil.onSave⟩

theorem leads_goto {point : Point} (going : ∀ fault, point ≠ .failed fault) : Leads (Loop.goto (ω := ω) point) :=
  fun _ civil => civil.goto fun fault failed => absurd failed (going fault)

theorem leads_powerOff : Leads (powerOff (ω := ω)) := fun _ civil => ⟨nofun, civil.onLoad, civil.onSave⟩

theorem loadFrom_civil (peaceful : Peaceful setup) {next : Loop ω → Loop ω} (leads : Leads next)
    {result : Option (Except Fault String)}
    (contained : ∀ value, result = some value → Contained value) (civil : Civil loop) :
      Civil (loop.loadFrom setup result next).1 := by
  unfold loadFrom
  split
  next => exact leads _ civil
  next fault => exact civil.goto fun other failed => by cases failed; exact contained _ rfl fault rfl
  next str =>
    split
    next sys loaded => exact leads _ ⟨civil.point, civil.onLoad, civil.onSave⟩
    next fault sys failed =>
      have uncaught : Uncaught fault := loadMachineState_uncaught _ _ _ peaceful.memory str loop.sys fault sys failed
      refine ⟨fun other same => ?_, civil.onLoad, civil.onSave⟩
      cases same
      exact uncaught

theorem discard_civil {next : Loop ω → Loop ω} (leads : Leads next) {result : Option (Except Fault String)}
    (contained : ∀ value, result = some value → Contained value) (civil : Civil loop) :
      Civil (loop.discard result next) := by
  unfold Loop.discard
  split
  next fault => exact civil.goto fun other failed => by cases failed; exact contained _ rfl fault rfl
  next => exact leads _ civil

theorem checkLoad_civil (peaceful : Peaceful setup) {next : Loop ω → Loop ω} (leads : Leads next)
    {onLoad : Except Fault (Option String)}
    (mannered : onLoad ≠ .error .foreign) (civil : Civil loop) : Civil (loop.checkLoad setup onLoad next).1 := by
  obtain ⟨collected, kept⟩ := poll_contained civil.onLoad fun _ => loadTask_contained mannered
  exact loadFrom_civil peaceful leads collected ⟨civil.point, kept, civil.onSave⟩

theorem checkSave_civil {next : Loop ω → Loop ω} (leads : Leads next) {onSave : Except Fault Unit}
    (mannered : onSave ≠ .error .foreign) (civil : Civil loop) : Civil (loop.checkSave onSave next).1 := by
  obtain ⟨collected, kept⟩ := poll_contained civil.onSave fun _ => saveTask_contained mannered
  exact discard_civil leads collected ⟨civil.point, civil.onLoad, kept⟩

theorem instruction_civil (peaceful : Peaceful setup) (civil : Civil loop)
    (ran : loop.instruction setup = some (after, events)) : Civil after := by
  unfold instruction at ran
  dsimp only at ran
  split at ran
  next =>
    cases ran
    exact ⟨nofun, civil.onLoad, civil.onSave⟩
  next =>
    split at ran
    next fault sys failed =>
      cases ran
      have uncaught : Uncaught fault := execute_uncaught peaceful _ fault sys failed
      refine ⟨fun other same => ?_, civil.onLoad, civil.onSave⟩
      cases same
      exact uncaught
    next ticks sys executed =>
      obtain ⟨⟨clock, host⟩, ticked, ran⟩ := Option.bind_eq_some_iff.mp ran
      dsimp only at ran
      split at ran
      next =>
        split at ran
        next =>
          cases ran
          exact ⟨nofun, civil.onLoad, civil.onSave⟩
        next fault world failed => exact (peaceful.io.serviceInterrupts _ _ _ fault world failed).elim
      next =>
        cases ran
        exact ⟨civil.point, civil.onLoad, civil.onSave⟩

theorem save_civil (peaceful : Peaceful setup) (civil : Civil loop) (ran : loop.save setup = some (after, events)) :
    Civil after := by
  unfold Loop.save at ran
  split at ran
  next =>
    split at ran
    next state world saved =>
      cases ran
      refine ⟨nofun, civil.onLoad, fun result pending => ?_⟩
      rw [Future.results_launch] at pending
      cases pending
    next => cases ran
    next =>
      cases ran
      exact ⟨nofun, civil.onLoad, civil.onSave⟩
    next fault world other failed =>
      cases ran
      have known : Known fault := saveState_known _ _ _ peaceful.memory _ _ fault world failed
      refine ⟨fun thrown same => ?_, civil.onLoad, civil.onSave⟩
      cases same
      refine uncaught_known known ?_
      rintro what rfl
      exact other what rfl
  next =>
    cases ran
    exact ⟨nofun, civil.onLoad, civil.onSave⟩

theorem load_civil (civil : Civil loop) : Civil (loop.load setup).1 := by
  unfold Loop.load
  split
  · refine ⟨nofun, fun result pending => ?_, civil.onSave⟩
    rw [Future.results_launch] at pending
    cases pending
  · exact ⟨nofun, civil.onLoad, civil.onSave⟩

theorem service_civil (peaceful : Peaceful setup) {isr : ISR} (civil : Civil loop)
    (ran : loop.service setup isr = some (after, events)) : Civil after := by
  unfold service at ran
  split at ran
  next =>
    obtain rfl := congrArg Prod.fst (Option.some.inj ran)
    exact load_civil civil
  next => exact save_civil peaceful civil ran
  next =>
    cases ran
    exact civil.goto nofun
  next =>
    cases ran
    exact civil.goto nofun
  next =>
    split at ran
    next =>
      cases ran
      exact ⟨nofun, civil.onLoad, civil.onSave⟩
    next =>
      cases ran
      exact ⟨nofun, civil.onLoad, civil.onSave⟩

theorem quitLoad_civil (peaceful : Peaceful setup) {handler : Except Fault (Option String)}
    (mannered : handler ≠ .error .foreign)
    (civil : Civil loop) (ran : loop.quitLoad setup handler = some (after, events)) : Civil after := by
  unfold quitLoad at ran
  split at ran
  next =>
    obtain ⟨result, got, ran⟩ := Option.bind_eq_some_iff.mp ran
    have contained := get_contained civil.onLoad (fun _ => loadTask_contained mannered) got
    obtain rfl := congrArg Prod.fst (Option.some.inj ran)
    have leads : Leads (Loop.goto (ω := ω) .quitSave) := leads_goto fun _ failed => by cases failed
    have collected : Civil { loop with onLoad := .invalid } := ⟨civil.point, nofun, civil.onSave⟩
    refine loadFrom_civil peaceful leads ?_ collected
    rintro value ⟨⟩
    exact contained
  next =>
    cases ran
    exact civil.goto nofun

theorem quitSave_civil {handler : Except Fault Unit} (mannered : handler ≠ .error .foreign) (civil : Civil loop)
    (ran : loop.quitSave handler = some (after, events)) : Civil after := by
  unfold quitSave at ran
  split at ran
  next =>
    obtain ⟨result, got, ran⟩ := Option.bind_eq_some_iff.mp ran
    have contained := get_contained civil.onSave (fun _ => saveTask_contained mannered) got
    cases ran
    have collected : Civil { loop with onSave := .invalid } := ⟨civil.point, civil.onLoad, nofun⟩
    refine discard_civil leads_powerOff ?_ collected
    rintro value ⟨⟩
    exact contained
  next =>
    cases ran
    exact leads_powerOff _ civil

theorem step_civil (peaceful : Peaceful setup) {choice : Choice ω} (mannered : Mannered choice) (civil : Civil loop)
    (moved : Loop.step setup choice loop = some (after, events)) : Civil after := by
  cases Requests.step_taken moved with
  | turn ran =>
    obtain ⟨readMannered, writtenMannered⟩ := mannered
    unfold turn at ran
    split at ran
    next => exact instruction_civil peaceful civil ran
    next => exact service_civil peaceful civil ran
    next =>
      obtain rfl := congrArg Prod.fst (Option.some.inj ran)
      exact checkLoad_civil peaceful leads_finish readMannered civil
    next =>
      obtain rfl := congrArg Prod.fst (Option.some.inj ran)
      exact checkSave_civil leads_finish writtenMannered civil
    next =>
      obtain rfl := congrArg Prod.fst (Option.some.inj ran)
      have leads : Leads (Loop.goto (ω := ω) .reapSave) := leads_goto fun _ failed => by cases failed
      exact checkLoad_civil peaceful leads readMannered civil
    next =>
      obtain rfl := congrArg Prod.fst (Option.some.inj ran)
      exact checkSave_civil leads_finish writtenMannered civil
    next => exact quitLoad_civil peaceful readMannered civil ran
    next => exact quitSave_civil writtenMannered civil ran
    next => cases ran
    next => cases ran
  | loaded =>
    refine ⟨civil.point, fun result pending => ?_, civil.onSave⟩
    rw [List.mem_singleton.mp pending]
    exact loadTask_contained mannered
  | saved =>
    refine ⟨civil.point, civil.onLoad, fun result pending => ?_⟩
    rw [List.mem_singleton.mp pending]
    exact saveTask_contained mannered
  | outside => exact ⟨civil.point, civil.onLoad, civil.onSave⟩

theorem run_civil (peaceful : Peaceful setup) {moves : List (Choice ω)}
    (mannered : ∀ choice ∈ moves, Mannered choice) (civil : Civil loop)
    (ran : Traces.run (Loop.step setup) moves loop = some (after, events)) : Civil after := by
  induction moves generalizing loop events with
  | nil =>
    cases ran
    exact civil
  | cons choice moves ih =>
    obtain ⟨⟨mid, moved⟩, stepped, ran⟩ := Option.bind_eq_some_iff.mp ran
    obtain ⟨⟨last, more⟩, rest, ran⟩ := Option.bind_eq_some_iff.mp ran
    cases ran
    have here := mannered choice List.mem_cons_self
    exact ih (fun choice later => mannered choice (List.mem_cons_of_mem _ later))
      (step_civil peaceful here civil stepped) rest

end Loops

section Runs
variable {lib : Libraries} {build : Build} {m : Machine ω}

structure Undisturbing (m : Machine ω) : Prop where
  memory : ∃ controller, m.memoryController = some controller ∧ Answering controller
  io : ∃ controller, m.ioController = some controller ∧ Answering controller

/-- The loop throws nothing once it is entered. -/
theorem machineLoop_contained (undisturbing : Undisturbing m) (loads : ∃ async, m.opt.loadAsync = .ok async)
    (saves : ∃ async, m.opt.saveAsync = .ok async) {moves : List (Choice ω)} (mannered : ∀ choice ∈ moves, Mannered choice)
    {host : SteadyClock.Host} {result : Except Fault Int} {sys : System ω} {clock : CpuClock}
    (ran : m.machineLoop lib build moves host = some (result, sys, clock)) : Contained result := by
  obtain ⟨setup, configured, ran⟩ := Option.bind_eq_some_iff.mp ran
  obtain ⟨⟨memory, memorySet, memoryAnswers⟩, io, ioSet, ioAnswers⟩ := undisturbing
  have same : setup =
      { lib, build, opt := m.opt, memoryController := memory, ioController := io, ticksPerIsr := m.ticksPerIsr,
        onLoad := m.onLoad, onSave := m.onSave } := by
    rw [Machine.setup, memorySet, ioSet] at configured
    exact (Option.some.inj configured).symm
  have peaceful : Peaceful setup := by
    rw [same]
    exact ⟨memoryAnswers, ioAnswers⟩
  obtain ⟨loadAsync, loads⟩ := loads
  obtain ⟨saveAsync, saves⟩ := saves
  have entered : Loop.start setup m.sys m.clock host = .ok
      { sys := m.sys, clock := m.clock, host, loadLaunchPolicy := launchPolicy loadAsync,
        saveLaunchPolicy := launchPolicy saveAsync } := by
    rw [same]
    simp only [Loop.start, loads, saves]
    rfl
  rw [entered] at ran
  obtain ⟨⟨loop, events⟩, moved, ran⟩ := Option.bind_eq_some_iff.mp ran
  have civil : Civil loop := by
    refine run_civil peaceful mannered ?_ moved
    exact ⟨nofun, nofun, nofun⟩
  dsimp only at ran
  split at ran
  next =>
    cases ran
    exact nofun
  next fault here =>
    cases ran
    rintro _ ⟨⟩
    exact civil.point fault here
  next => cases ran

end Runs
end MachEmu.Proofs.Exceptions
