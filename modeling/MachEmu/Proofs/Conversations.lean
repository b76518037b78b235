import MachEmu.Proofs.Deliveries
import MachEmu.Proofs.DirectCalls

/-! The world that a machine runs in is changed by calls of its controllers and by
nothing else that the machine does. What every call keeps is kept by every run, and
the calls of a run are a run of the controllers on their own. -/

namespace MachEmu.Proofs.Conversations
open ErrorState Machine Loop Traces SteadyClock Intel8080 BusDiscipline BusTransactions InstructionPrograms
  Interrupts Calls DirectCalls Timeline
open Deliveries

variable {ω α : Type} {P : ω → Prop}

section States
variable {memory : IController ω} (lib : Libraries) (build : Build) (opt : Opt)

theorem pushBack_keeps (reads : ∀ addr, Preserves P (memory.read addr)) (mem : List Byte) (addr : Word) :
    Preserves P (pushBack memory mem addr) :=
  (reads addr).bind fun _ => Preserves.pure _

theorem countedLoop_keeps {bound : Nat} {body : α → Word → EStateM Fault ω α}
    (keeps : ∀ acc addr, Preserves P (body acc addr))
    (fuel : Nat) (addr : Word) (acc : α) : Preserves P (CountedLoop.run bound body fuel addr acc) := by
  induction fuel generalizing addr acc with
  | zero => exact Preserves.pure none
  | succ fuel ih =>
    rw [CountedLoop.run]
    split
    · exact (keeps acc addr).bind fun acc => ih (addr + 1) acc
    · exact Preserves.pure (some acc)

theorem gather_keeps (reads : ∀ addr, Preserves P (memory.read addr)) (fuel : Nat) (metadata : List Block)
    (mem : List Byte) : Preserves P (gather memory fuel metadata mem) := by
  induction metadata generalizing mem with
  | nil => exact Preserves.pure _
  | cons block metadata ih =>
    refine (countedLoop_keeps (pushBack_keeps reads) fuel block.1 mem).bind fun result => ?_
    cases result with
    | none => exact Preserves.pure none
    | some mem => exact ih mem

/-- A save does no more to the world than the reads it makes. -/
theorem saveState_keeps (reads : ∀ addr, Preserves P (memory.read addr)) (cpu : Intel8080) :
    Preserves P (saveState lib build opt memory cpu) := by
  refine Preserves.guard ((Preserves.ofExcept _).bind fun ramMetadata =>
    (gather_keeps reads _ ramMetadata []).bind fun ram => ?_)
  cases ram with
  | none => exact Preserves.pure none
  | some ram =>
    refine (Preserves.ofExcept _).bind fun romMetadata => (gather_keeps reads _ romMetadata []).bind fun rom => ?_
    cases rom with
    | none => exact Preserves.pure none
    | some rom => exact (Preserves.ofExcept _).bind fun _ => Preserves.pure _

theorem checkState_keeps (reads : ∀ addr, Preserves P (memory.read addr)) (str : String) :
    Preserves P (checkState lib build opt memory str) := by
  have readRom (romMetadata : List Block) : Preserves P (readRom memory romMetadata) :=
    Preserves.foldlM (fun rom _ => Preserves.foldlM (fun rom _ => pushBack_keeps reads rom _) _ rom) romMetadata []
  refine Preserves.guard ((Preserves.ofExcept _).bind fun json => (Preserves.ofExcept _).bind fun jsonUuid => ?_)
  refine Preserves.guard ((Preserves.ofExcept _).bind fun romMetadata => (readRom _).bind fun rom =>
    (Preserves.ofExcept _).bind fun jsonMd5 => ?_)
  refine Preserves.guard ((Preserves.ofExcept _).bind fun ram => (Preserves.ofExcept _).bind fun ramMetadata => ?_)
  exact Preserves.guard (Preserves.pure _)

theorem writeRam_keeps (writes : ∀ addr value, Preserves P (memory.write addr value)) (ram : List Byte)
    (ramMetadata : List Block) : Preserves P (writeRam memory ram ramMetadata) := by
  have writeByte (ramIndex : BitVec 32) (addr : Word) : Preserves P (writeByte memory ram ramIndex addr) := by
    unfold Machine.writeByte
    cases ram[ramIndex.toNat]? with
    | none => exact (Preserves.throw _).bind fun _ => Preserves.pure _
    | some value => exact (writes addr value).bind fun _ => Preserves.pure _
  exact Preserves.foldlM (fun ramIndex _ => Preserves.foldlM
    (fun ramIndex _ => writeByte ramIndex _) _ ramIndex) ramMetadata 0

theorem onWorld_keeps {call : EStateM Fault ω α} (keeps : Preserves P call) :
    Preserves (fun s : System ω => P s.world) (onWorld call) := by
  intro s holds
  have kept := keeps s.world holds
  unfold onWorld
  cases ran : call s.world with
  | ok value world =>
    rw [ran] at kept
    exact kept
  | error fault world =>
    rw [ran] at kept
    exact kept

theorem catchException_keeps {P : ω → Prop} {body : EStateM Fault ω Unit} (keeps : Preserves P body) :
    Preserves P (catchException body) := by
  intro s holds
  have kept := keeps s holds
  unfold catchException
  split
  next ran =>
    rw [ran] at kept
    exact kept
  next => exact kept

/-- A load does no more to the world than to read and write bytes. -/
theorem loadMachineState_keeps (reads : ∀ addr, Preserves P (memory.read addr))
    (writes : ∀ addr value, Preserves P (memory.write addr value))
    (str : String) : Preserves (fun s => P s.world) (loadMachineState lib build opt memory str) := by
  unfold loadMachineState
  split
  next => exact Preserves.pure ()
  next =>
    refine catchException_keeps ((onWorld_keeps (checkState_keeps lib build opt reads str)).bind fun checked => ?_)
    refine (Preserves.ofExcept _).bind fun cpuState => ?_
    refine Preserves.bind (fun _ => id) fun s => (Preserves.ofExcept _).bind fun cpu => ?_
    exact Preserves.bind (fun _ => id) fun _ => (onWorld_keeps (writeRam_keeps writes _ _)).bind fun _ => Preserves.pure ()

end States

section Moves
variable {setup : Setup ω} {loop after : Loop ω} {events : List (Event ω)} {next : Loop ω → Loop ω} {waiting : ISR}

/-- No call of a controller breaks `P`. -/
structure Guarded (P : ω → Prop) (setup : Setup ω) : Prop where
  reads : ∀ device addr, Preserves P ((controller setup device).read addr)
  writes : ∀ device addr value, Preserves P ((controller setup device).write addr value)
  services : ∀ currTime cycles, Preserves P (setup.ioController.serviceInterrupts currTime cycles)

/-- An execution that begins on a request, or on none. -/
theorem execute_guarded (guarded : Guarded P setup) (isr : ISR) {s : System ω} (quiet : Quiet s.bus) (holds : P s.world) :
    P (final (execute setup.wiring (interrupted isr s))).world := by
  have devices : Devices (fun world other => world = other ∧ P world) setup setup :=
    ⟨rfl, fun device addr => (guarded.reads device addr).simulates, fun device addr value =>
      (guarded.writes device addr value).simulates⟩
  have facing : Facing (fun world other => world = other ∧ P world) s s := ⟨rfl, ⟨rfl, holds⟩, quiet, quiet⟩
  have kept : P (observe (execute setup.wiring (interrupted isr s))).world :=
    (execute_matches devices facing (.inl rfl)).world.2
  cases ran : execute setup.wiring (interrupted isr s) with
  | ok ticks last =>
    rw [ran] at kept
    exact kept
  | error fault last =>
    rw [ran] at kept
    exact kept

theorem instruction_guarded (guarded : Guarded P setup) (waits : Waits waiting loop) (here : loop.point = .head)
    (holds : P loop.sys.world) (ran : loop.instruction setup = some (after, events)) : P after.sys.world := by
  by_cases on : PoweredOn loop.sys.bus
  · obtain ⟨bus, quiet, begun⟩ := pending_interrupted waits here on
    have kept := execute_guarded guarded waiting (s := { loop.sys with bus }) quiet holds
    rw [← begun] at kept
    cases execution : execute setup.wiring (pending loop) with
    | error fault sys =>
      rw [execution] at kept
      rw [instruction_failed on execution] at ran
      cases ran
      exact kept
    | ok ticks sys =>
      rw [execution] at kept
      rw [instruction_executed on execution] at ran
      obtain ⟨⟨clock, host⟩, -, ran⟩ := Option.bind_eq_some_iff.mp ran
      have serviced := guarded.services (BitVec.ofInt 64 clock.time)
          (BitVec.ofInt 64 (loop.totalTicks + ticks.toNat)) sys.world kept
      dsimp only at ran
      split at ran
      next =>
        split at ran
        next isr world called =>
          rw [called] at serviced
          cases ran
          exact serviced
        next fault world called =>
          rw [called] at serviced
          cases ran
          exact serviced
      next =>
        cases ran
        exact kept
  · rw [instruction_off on] at ran
    cases ran
    exact holds

theorem save_guarded (guarded : Guarded P setup) (holds : P loop.sys.world) (ran : loop.save setup = some (after, events)) :
    P after.sys.world := by
  have kept := saveState_keeps setup.lib setup.build setup.opt (guarded.reads .memory) loop.sys.cpu loop.sys.world holds
  unfold Loop.save at ran
  split at ran
  next =>
    split at ran
    next state world saved =>
      rw [controller, saved] at kept
      cases ran
      exact kept
    next => cases ran
    next what world saved =>
      rw [controller, saved] at kept
      cases ran
      exact kept
    next fault world other saved =>
      rw [controller, saved] at kept
      cases ran
      exact kept
  next =>
    cases ran
    exact holds

theorem service_guarded (guarded : Guarded P setup) {isr : ISR} (holds : P loop.sys.world)
    (ran : loop.service setup isr = some (after, events)) : P after.sys.world := by
  unfold service at ran
  split at ran
  next =>
    obtain rfl := congrArg Prod.fst (Option.some.inj ran)
    unfold Loop.load
    split
    · exact holds
    · exact holds
  next => exact save_guarded guarded holds ran
  next =>
    cases ran
    exact holds
  next =>
    cases ran
    exact holds
  next =>
    split at ran
    next =>
      cases ran
      exact holds
    next =>
      cases ran
      exact holds

def Worldless (next : Loop ω → Loop ω) : Prop := ∀ loop, (next loop).sys.world = loop.sys.world

theorem loadFrom_guarded (guarded : Guarded P setup) (worldless : Worldless next) (loop : Loop ω) (holds : P loop.sys.world)
    (result : Option (Except Fault String)) : P (loop.loadFrom setup result next).1.sys.world := by
  unfold loadFrom
  split
  next =>
    rw [worldless]
    exact holds
  next => exact holds
  next str =>
    have kept := loadMachineState_keeps setup.lib setup.build setup.opt (guarded.reads .memory)
        (guarded.writes .memory) str loop.sys holds
    split
    next sys loaded =>
      rw [controller, loaded] at kept
      dsimp only
      rw [worldless]
      exact kept
    next fault sys failed =>
      rw [controller, failed] at kept
      exact kept

theorem discard_guarded (worldless : Worldless next) (loop : Loop ω) (result : Option (Except Fault String)) :
    (loop.discard result next).sys.world = loop.sys.world := by
  unfold Loop.discard
  split
  · rfl
  · exact worldless loop

theorem turn_guarded (guarded : Guarded P setup) (waits : Waits waiting loop) {loaded : Except Fault (Option String)}
    {saved : Except Fault Unit} (holds : P loop.sys.world)
    (ran : loop.turn setup loaded saved = some (after, events)) : P after.sys.world := by
  have finishes : Worldless (ω := ω) finish := fun _ => rfl
  have goes (point : Point) : Worldless (ω := ω) (goto point) := fun _ => rfl
  have powersOff : Worldless (ω := ω) powerOff := fun _ => rfl
  have checks {next : Loop ω → Loop ω} (worldless : Worldless next)
      (ran : some (loop.checkLoad setup loaded next) = some (after, events)) : P after.sys.world := by
    obtain rfl := congrArg Prod.fst (Option.some.inj ran)
    exact loadFrom_guarded guarded worldless { loop with onLoad := (loop.onLoad.poll _).2 } holds _
  have drops (ran : some (loop.checkSave saved finish) = some (after, events)) : P after.sys.world := by
    obtain rfl := congrArg Prod.fst (Option.some.inj ran)
    unfold Loop.checkSave
    dsimp only
    rw [discard_guarded finishes]
    exact holds
  unfold turn at ran
  split at ran
  next here => exact instruction_guarded guarded waits here holds ran
  next => exact service_guarded guarded holds ran
  next => exact checks finishes ran
  next => exact drops ran
  next => exact checks (goes .reapSave) ran
  next => exact drops ran
  next =>
    unfold quitLoad at ran
    split at ran
    next =>
      obtain ⟨result, -, ran⟩ := Option.bind_eq_some_iff.mp ran
      cases ran
      exact loadFrom_guarded guarded (goes .quitSave) { loop with onLoad := .invalid } holds _
    next =>
      cases ran
      exact holds
  next =>
    unfold quitSave at ran
    split at ran
    next =>
      obtain ⟨result, -, ran⟩ := Option.bind_eq_some_iff.mp ran
      cases ran
      rw [discard_guarded powersOff]
      exact holds
    next =>
      cases ran
      exact holds
  next => cases ran
  next => cases ran

theorem step_guarded (guarded : Guarded P setup) (waits : Waits waiting loop) {choice : Choice ω}
    (alone : ∀ world, choice ≠ .outside world)
    (holds : P loop.sys.world) (moved : Loop.step setup choice loop = some (after, events)) : P after.sys.world := by
  cases Requests.step_taken moved with
  | turn ran => exact turn_guarded guarded waits holds ran
  | loaded => exact holds
  | saved => exact holds
  | outside => exact absurd rfl (alone _)

end Moves

section Runs
variable {lib : Libraries} {build : Build} {setup : Setup ω} {start loop after : Loop ω} {events : List (Event ω)}
  {moves : List (LoopMove ω)} {waiting : ISR}

inductive Request where
  | read (device : Device) (addr : Word)
  | write (device : Device) (addr : Word) (value : Byte)
  | serviceInterrupts (currTime cycles : BitVec 64)

def logged (access : Except Fault α → Access) : EStateM.Result Fault ω α → ω × List Access
  | .ok value world => (world, [access (.ok value)])
  | .error fault world => (world, [access (.error fault)])

/-- The controllers on their own, with the calls they get and what they make of them. -/
def respond (setup : Setup ω) : Request → ω → Option (ω × List Access)
  | .read device addr, world => some (logged (.read device addr) ((controller setup device).read addr world))
  | .write device addr value, world =>
    some (logged (.write device addr value) ((controller setup device).write addr value world))
  | .serviceInterrupts currTime cycles, world =>
    some (logged (.serviceInterrupts .io currTime cycles) (setup.ioController.serviceInterrupts currTime cycles world))

/-- The calls that were heard are a run of the controllers to the world as it is. -/
def Conversed (setup : Setup ω) (begun : ω) (world : Listened ω) : Prop := Run (respond setup) begun world.2 world.1

theorem heard_conversed {begun : ω} {access : Except Fault α → Access} {method : EStateM Fault ω α} (request : Request)
    (responds : ∀ world, respond setup request world = some (logged access (method world))) :
    Preserves (Conversed setup begun) (heard access method) := by
  rintro ⟨world, calls⟩ conversed
  have more := responds world
  unfold heard
  dsimp only
  cases ran : method world with
  | ok value last =>
    rw [ran] at more
    exact Run.move conversed more
  | error fault last =>
    rw [ran] at more
    exact Run.move conversed more

theorem listening_guarded (setup : Setup ω) (begun : ω) : Guarded (Conversed setup begun) (listening setup) where
  reads device addr := by
    rw [controller_listening]
    exact heard_conversed (.read device addr) fun _ => rfl
  writes device addr value := by
    rw [controller_listening]
    exact heard_conversed (.write device addr value) fun _ => rfl
  services currTime cycles := heard_conversed (.serviceInterrupts currTime cycles) fun _ => rfl

theorem step_heard {choice : Choice ω} (moved : Loop.step setup choice loop = some (after, events)) :
    ∃ others, Loop.step (listening setup) (hearingChoice [] choice) (hearing [] loop) = some
      (hearing (calls setup choice loop) after, others) := by
  have found {heard : List Access} {others : List (Event (Listened ω))}
      (moved : Loop.step (listening setup) (hearingChoice [] choice) (hearing [] loop) = some
        (hearing heard after, others)) :
      ∃ others, Loop.step (listening setup) (hearingChoice [] choice) (hearing [] loop) = some
        (hearing (calls setup choice loop) after, others) := by
    refine ⟨others, ?_⟩
    rw [calls, moved]
    rfl
  by_cases apart : loop.point ≠ .head ∨ ∀ loaded saved, choice ≠ .turn loaded saved
  · have follows : Follows [] (Loop.step setup choice loop)
        (Loop.step (listening setup) (hearingChoice [] choice) (hearing [] loop)) :=
      step_follows apart
    obtain ⟨added, others, moved', -⟩ := follows after events moved
    exact found moved'
  · rw [not_or, not_ne_iff, not_forall] at apart
    obtain ⟨here, loaded, turns⟩ := apart
    simp only [ne_eq, not_forall, not_not] at turns
    obtain ⟨saved, rfl⟩ := turns
    have turn (ω : Type) (setup : Setup ω) (loop : Loop ω) (here : loop.point = .head) :
        Loop.step setup (.turn loaded saved) loop = loop.instruction setup := by
      simp only [Loop.step, Loop.turn, here]
    rw [turn ω setup loop here] at moved
    obtain ⟨heard, others, moved', -⟩ := instruction_pass moved
    exact found ((turn _ (listening setup) (hearing [] loop) here).trans moved')

/-- The calls of a move lead the controllers from the world before it to the one after it. -/
theorem step_conversed (waits : Waits waiting loop) {choice : Choice ω} (alone : ∀ world, choice ≠ .outside world)
    (moved : Loop.step setup choice loop = some (after, events)) :
    Run (respond setup) loop.sys.world (calls setup choice loop) after.sys.world := by
  obtain ⟨others, heard⟩ := step_heard moved
  have alone' : ∀ world, hearingChoice [] choice ≠ .outside world := by
    intro world
    cases choice with
    | outside world => exact absurd rfl (alone world)
    | turn => nofun
    | loaded => nofun
    | saved => nofun
  have still : Waits waiting (hearing [] loop) := waits
  have begun : Conversed setup loop.sys.world (hearing [] loop).sys.world := .refl
  have led : Conversed setup loop.sys.world (hearing (calls setup choice loop) after).sys.world :=
    step_guarded (listening_guarded setup loop.sys.world) still alone' begun heard
  exact led

def traffic (setup : Setup ω) (moves : List (LoopMove ω)) : List Access :=
  moves.flatMap fun move => calls setup move.input move.before

/-- No other thread changes the world. -/
def Alone (moves : List (LoopMove ω)) : Prop := ∀ move ∈ moves, ∀ world, move.input ≠ .outside world

theorem alone_of (turns : ∀ choice ∈ moves.map (·.input), ∃ loaded saved, choice = .turn loaded saved) : Alone moves := by
  intro move member world
  obtain ⟨loaded, saved, turned⟩ := turns _ (List.mem_map_of_mem member)
  rw [turned]
  nofun

/-- The calls of a run lead the controllers from the first world to the last. -/
theorem run_conversed (entered : Lifecycle.Entered lib build setup start)
    (run : Run (recorded (Loop.step setup)) start moves loop)
    (alone : Alone moves) : Run (respond setup) start.sys.world (traffic setup moves) loop.sys.world := by
  obtain ⟨quiet, here, -, -⟩ := entered.begins
  have along : (∃ waiting, Waits waiting loop) ∧
      (Alone moves → Run (respond setup) start.sys.world (traffic setup moves) loop.sys.world) := by
    refine run.invariant (fun moves loop => (∃ waiting, Waits waiting loop) ∧
      (Alone moves → Run (respond setup) start.sys.world (traffic setup moves) loop.sys.world))
      ⟨⟨.noInterrupt, waits_head here quiet rfl⟩, fun _ => .refl⟩ ?_
    intro moves loop choice after added ⟨⟨waiting, waits⟩, before⟩ moved
    obtain ⟨events, stepped, rfl⟩ := recorded_some moved
    refine ⟨⟨_, @step_waits _ _ _ _ _ _ ⟨[], waiting⟩ waits stepped⟩, fun alone => ?_⟩
    obtain ⟨earlier, now⟩ := List.forall_mem_append.mp alone
    have more := step_conversed waits (now _ (List.mem_singleton_self _)) stepped
    have split : traffic setup (moves ++ [⟨loop, choice, events, after⟩]) =
        traffic setup moves ++ calls setup choice loop := by
      rw [traffic, List.flatMap_append, List.flatMap_singleton]
      rfl
    rw [split]
    exact (before earlier).trans more
  exact along.2 alone

end Runs
end MachEmu.Proofs.Conversations
