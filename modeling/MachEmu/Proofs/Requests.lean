import MachEmu.Lib.Traces
import MachEmu.Machine.Loop
import MachEmu.Proofs.BusDiscipline
import MachEmu.Proofs.Codec

/-! Load and save requests along a run of the loop, for arbitrary controllers and
handlers. Every task that is started is either still in its future or has run,
and every result is either still in its future or has been applied. -/

namespace MachEmu.Proofs.Requests
open Machine Loop Traces BusDiscipline

variable {ω : Type}

section Projections
variable (trace : List (Event ω))

def startedLoads : Nat := trace.countP fun | .startedLoad => true | _ => false

def returned : List (Except Fault String) := trace.filterMap fun | .returned result => some result | _ => none

/-- The texts that were handed to `loadMachineState`. -/
def applied : List String := trace.filterMap fun | .applied str => some str | _ => none

def captured : List String := trace.filterMap fun | .startedSave _ state => some state | _ => none

def called : List String := trace.filterMap fun | .called state => some state | _ => none

variable (more : List (Event ω))

@[simp] theorem startedLoads_append : startedLoads (trace ++ more) = startedLoads trace + startedLoads more :=
  List.countP_append

@[simp] theorem returned_append : returned (trace ++ more) = returned trace ++ returned more := List.filterMap_append

@[simp] theorem applied_append : applied (trace ++ more) = applied trace ++ applied more := List.filterMap_append

@[simp] theorem captured_append : captured (trace ++ more) = captured trace ++ captured more := List.filterMap_append

@[simp] theorem called_append : called (trace ++ more) = called trace ++ called more := List.filterMap_append

theorem projections_returned (results : List (Except Fault String)) :
    let events : List (Event ω) := results.map .returned
    startedLoads events = 0 ∧ returned events = results ∧ applied events = [] ∧ captured events = [] ∧
      called events = [] := by
  simp [startedLoads, returned, applied, captured, called, List.filterMap_map, Function.comp_def]

theorem projections_called (states : List String) :
    let events : List (Event ω) := states.map .called
    startedLoads events = 0 ∧ returned events = [] ∧ applied events = [] ∧ captured events = [] ∧
      called events = states := by
  simp [startedLoads, returned, applied, captured, called, List.filterMap_map, Function.comp_def]

end Projections

section Buses

/-- Whether it returns or fails, the computation leaves the buses alone. -/
class Bystander {α : Type} (x : EStateM Fault (System ω) α) : Prop where
  bus : ∀ s, match x s with
    | .ok _ after => after.bus = s.bus
    | .error _ after => after.bus = s.bus

instance bystander_bind {α β : Type} (x : EStateM Fault (System ω) α) (f : α → EStateM Fault (System ω) β)
    [first : Bystander x] [rest : ∀ value, Bystander (f value)] : Bystander (x >>= f) := by
  constructor
  intro s
  have begun := first.bus s
  cases ran : x s with
  | error fault mid =>
    rw [ran] at begun
    rw [ErrorState.bind_error ran]
    exact begun
  | ok value mid =>
    rw [ran] at begun
    rw [ErrorState.bind_ok ran]
    have finished := (rest value).bus mid
    rwa [begun] at finished

instance bystander_onWorld {α : Type} (call : EStateM Fault ω α) : Bystander (onWorld call) := by
  constructor
  intro s
  unfold onWorld
  cases call s.world <;> rfl

instance bystander_ofExcept {α : Type} (result : Except Fault α) :
    Bystander (ofExcept result : EStateM Fault (System ω) α) := by
  constructor
  intro s
  cases result <;> rfl

instance bystander_get : Bystander (get : EStateM Fault (System ω) (System ω)) := ⟨fun _ => rfl⟩

instance bystander_modify (f : System ω → Intel8080) :
    Bystander (modify fun s => { s with cpu := f s } : EStateM Fault (System ω) PUnit) := ⟨fun _ => rfl⟩

instance bystander_pure {α : Type} (value : α) : Bystander (pure value : EStateM Fault (System ω) α) := ⟨fun _ => rfl⟩

theorem bystander_catch {body : EStateM Fault (System ω) Unit} [inner : Bystander body] :
    Bystander (catchException body) := by
  constructor
  intro s
  have kept := inner.bus s
  unfold catchException
  cases ran : body s with
  | ok value after =>
    rw [ran] at kept
    exact kept
  | error fault after =>
    rw [ran] at kept
    cases fault with
    | exception what => exact kept
    | foreign => exact kept
    | assertion => exact kept
    | undefined => exact kept

instance bystander_loadMachineState (lib : Libraries) (build : Build) (opt : Opt) (memory : IController ω) (str : String) :
    Bystander (loadMachineState lib build opt memory str) := by
  unfold loadMachineState
  split
  · infer_instance
  · exact bystander_catch

end Buses

/-- What one move does to the requests: tasks that are started run or stay in
their future, and results that come back are applied or stay there, in order. -/
structure Accounts (before after : Loop ω) (events : List (Event ω)) : Prop where
  loads : startedLoads events + before.onLoad.tasks.length = (returned events).length + after.onLoad.tasks.length
  results : (∀ fault, after.point ≠ .failed fault) →
    before.onLoad.results ++ returned events = (applied events).map .ok ++ after.onLoad.results
  saves : before.onSave.tasks ++ captured events = called events ++ after.onSave.tasks
  exclusive : ¬ (before.onLoad.valid ∧ before.onSave.valid) → ¬ (after.onLoad.valid ∧ after.onSave.valid)

/-- Events that say nothing about a request in flight. -/
def Silent (events : List (Event ω)) : Prop :=
  startedLoads events = 0 ∧ returned events = [] ∧ applied events = [] ∧ captured events = [] ∧ called events = []

theorem Accounts.still {before after : Loop ω} {events : List (Event ω)} (sameLoad : after.onLoad = before.onLoad)
    (sameSave : after.onSave = before.onSave) (silent : Silent events) : Accounts before after events := by
  obtain ⟨loads, returned, applied, captured, called⟩ := silent
  constructor
  · rw [loads, returned, sameLoad, List.length_nil]
  · intro _
    rw [returned, applied, sameLoad, List.append_nil]
    rfl
  · rw [captured, called, sameSave, List.append_nil]
    rfl
  · rw [sameLoad, sameSave]
    exact id

instance wiring_poweredOn (setup : Setup ω) : Transacts PoweredOn setup.wiring := poweredOn_transacts _ _

variable {setup : Setup ω} {loop after : Loop ω} {events : List (Event ω)}

section Moves

/-- What the choice of a move does: a turn of the thread, the return of a handler, or
a change of the outside. -/
inductive Taken (setup : Setup ω) (loop : Loop ω) : Choice ω → Loop ω → List (Event ω) → Prop
  | turn {onLoad onSave after events} (ran : loop.turn setup onLoad onSave = some (after, events)) :
      Taken setup loop (.turn onLoad onSave) after events
  | loaded {onLoad} (running : loop.onLoad = .running ()) :
      Taken setup loop (.loaded onLoad) { loop with onLoad := .ready (loadTask onLoad) } [.returned (loadTask onLoad)]
  | saved {onSave state} (running : loop.onSave = .running state) :
      Taken setup loop (.saved onSave) { loop with onSave := .ready (saveTask onSave) } [.called state]
  | outside {world} : Taken setup loop (.outside world) { loop with sys := { loop.sys with world } } []

theorem step_taken {choice : Choice ω} (moved : Loop.step setup choice loop = some (after, events)) :
    Taken setup loop choice after events := by
  cases choice with
  | turn onLoad onSave => exact .turn moved
  | loaded onLoad =>
    simp only [Loop.step] at moved
    split at moved
    next running =>
      cases moved
      exact .loaded running
    next => cases moved
  | saved onSave =>
    simp only [Loop.step] at moved
    split at moved
    next state running =>
      cases moved
      exact .saved running
    next => cases moved
  | outside world =>
    cases moved
    exact .outside

/-- What all transactions keep holds after a pass, if it holds once the loop and the
cpu have received their lanes. -/
def Carried (setup : Setup ω) (before after : SystemBus) : Prop :=
  ∀ (P : SystemBus → Prop) [Transacts P setup.wiring],
    P (ControlBus.receive .interrupt (ControlBus.receive .powerOff before).2).2 → P after

theorem Carried.poweredOn {before after : SystemBus} (carried : Carried setup before after) (on : PoweredOn before) :
    PoweredOn after :=
  carried PoweredOn (received_poweredOn .interrupt (received_poweredOn .powerOff on))

/-- A pass of the loop leaves the futures alone. It ends the loop exactly on a power off. -/
theorem instruction_cases (here : loop.point = .head) (ran : loop.instruction setup = some (after, events)) :
    after.onLoad = loop.onLoad ∧ after.onSave = loop.onSave ∧
      (¬ PoweredOn loop.sys.bus ∧ after.point = .done ∧ events = [] ∧
          after.sys.bus = (ControlBus.receive .powerOff loop.sys.bus).2 ∨
        PoweredOn loop.sys.bus ∧ (events = [] ∨ events = [.executed]) ∧
          ((∃ fault, after.point = .failed fault) ∨
            Carried setup loop.sys.bus after.sys.bus ∧ (after.point = .head ∨ ∃ isr, after.point = .serviced isr))) := by
  unfold instruction at ran
  generalize received : ControlBus.receive .powerOff loop.sys.bus = result at ran
  obtain ⟨powerOff, bus⟩ := result
  have lane : loop.sys.bus.controlBus.getLsbD Signal.powerOff.lane = powerOff := congrArg Prod.fst received
  dsimp only at ran
  split at ran
  next off =>
    cases ran
    exact ⟨rfl, rfl, .inl ⟨ne_false_of_eq_true (lane.trans off), rfl, rfl, rfl⟩⟩
  next stays =>
    have on : PoweredOn loop.sys.bus := lane.trans (eq_false_of_ne_true stays)
    split at ran
    next fault sys executed =>
      cases ran
      exact ⟨rfl, rfl, .inr ⟨on, .inl rfl, .inl ⟨fault, rfl⟩⟩⟩
    next ticks sys executed =>
      have carried : Carried setup loop.sys.bus sys.bus := by
        intro P transacts holds
        rw [received] at holds
        exact execute_keeps P setup.wiring holds executed
      obtain ⟨⟨clock, host⟩, ticked, ran⟩ := Option.bind_eq_some_iff.mp ran
      dsimp only at ran
      split at ran
      next =>
        split at ran
        next isr world called =>
          cases ran
          exact ⟨rfl, rfl, .inr ⟨on, .inr rfl, .inr ⟨carried, .inr ⟨isr, rfl⟩⟩⟩⟩
        next fault world called =>
          cases ran
          exact ⟨rfl, rfl, .inr ⟨on, .inr rfl, .inl ⟨fault, rfl⟩⟩⟩
      next =>
        cases ran
        exact ⟨rfl, rfl, .inr ⟨on, .inr rfl, .inr ⟨carried, .inl here⟩⟩⟩

theorem instruction_accounts (here : loop.point = .head) (ran : loop.instruction setup = some (after, events)) :
    Accounts loop after events := by
  obtain ⟨sameLoad, sameSave, outcome⟩ := instruction_cases here ran
  refine .still sameLoad sameSave ?_
  obtain ⟨-, -, rfl, -⟩ | ⟨-, rfl | rfl, -⟩ := outcome
  · exact ⟨rfl, rfl, rfl, rfl, rfl⟩
  · exact ⟨rfl, rfl, rfl, rfl, rfl⟩
  · exact ⟨rfl, rfl, rfl, rfl, rfl⟩

theorem accepts_iff {handler : Bool} :
    loop.accepts handler = true ↔ handler = true ∧ ¬ loop.onLoad.valid ∧ ¬ loop.onSave.valid := by
  simp [accepts, and_assoc]

theorem load_accounts (ran : loop.load setup = (after, events)) : Accounts loop after events := by
  unfold Loop.load at ran
  split at ran
  next accepted =>
    obtain ⟨-, noLoad, noSave⟩ := accepts_iff.mp accepted
    cases ran
    constructor
    · simp [startedLoads, returned, Future.tasks_of_invalid _ noLoad]
    · intro _
      simp [returned, applied, Future.results_of_invalid _ noLoad]
    · simp [captured, called]
    · exact fun _ both => noSave both.2
  next =>
    cases ran
    exact .still rfl rfl ⟨rfl, rfl, rfl, rfl, rfl⟩

theorem save_accounts (ran : loop.save setup = some (after, events)) : Accounts loop after events := by
  unfold Loop.save at ran
  split at ran
  next accepted =>
    obtain ⟨-, noLoad, noSave⟩ := accepts_iff.mp accepted
    split at ran
    next state world saved =>
      cases ran
      constructor
      · simp [startedLoads, returned]
      · intro _
        simp [returned, applied]
      · simp [captured, called, Future.tasks_of_invalid _ noSave]
      · exact fun _ both => noLoad both.1
    next => cases ran
    next =>
      cases ran
      exact .still rfl rfl ⟨rfl, rfl, rfl, rfl, rfl⟩
    next =>
      cases ran
      exact .still rfl rfl ⟨rfl, rfl, rfl, rfl, rfl⟩
  next =>
    cases ran
    exact .still rfl rfl ⟨rfl, rfl, rfl, rfl, rfl⟩

theorem service_accounts {isr : ISR} (ran : loop.service setup isr = some (after, events)) :
    Accounts loop after events := by
  unfold service at ran
  split at ran
  next => exact load_accounts (Option.some.inj ran)
  next => exact save_accounts ran
  next =>
    cases ran
    exact .still rfl rfl ⟨rfl, rfl, rfl, rfl, rfl⟩
  next =>
    cases ran
    exact .still rfl rfl ⟨rfl, rfl, rfl, rfl, rfl⟩
  next =>
    split at ran
    next =>
      cases ran
      exact .still rfl rfl ⟨rfl, rfl, rfl, rfl, rfl⟩
    next =>
      cases ran
      exact .still rfl rfl ⟨rfl, rfl, rfl, rfl, rfl⟩

/-- Steps of the loop thread that only move its point or the buses. -/
def Moves (next : Loop ω → Loop ω) : Prop :=
  ∀ loop, (next loop).onLoad = loop.onLoad ∧ (next loop).onSave = loop.onSave

theorem moves_finish : Moves (finish : Loop ω → Loop ω) := fun _ => ⟨rfl, rfl⟩

theorem moves_goto (point : Point) : Moves (goto point : Loop ω → Loop ω) := fun _ => ⟨rfl, rfl⟩

theorem moves_powerOff : Moves (powerOff : Loop ω → Loop ω) := fun _ => ⟨rfl, rfl⟩

/-- A collected result is applied, unless it is an exception to rethrow. -/
theorem loadFrom_cases {next : Loop ω → Loop ω} (moves : Moves next) {result : Option (Except Fault String)}
    (ran : loop.loadFrom setup result next = (after, events)) :
    after.onLoad = loop.onLoad ∧ after.onSave = loop.onSave ∧ startedLoads events = 0 ∧ returned events = [] ∧
      captured events = [] ∧ called events = [] ∧
      ((∀ fault, after.point ≠ .failed fault) → result.toList = (applied events).map .ok) := by
  unfold loadFrom at ran
  split at ran
  next =>
    cases ran
    exact ⟨(moves _).1, (moves _).2, rfl, rfl, rfl, rfl, fun _ => rfl⟩
  next fault =>
    cases ran
    exact ⟨rfl, rfl, rfl, rfl, rfl, rfl, fun failed => absurd rfl (failed fault)⟩
  next str =>
    split at ran
    next =>
      cases ran
      exact ⟨(moves _).1, (moves _).2, rfl, rfl, rfl, rfl, fun _ => rfl⟩
    next =>
      cases ran
      exact ⟨rfl, rfl, rfl, rfl, rfl, rfl, fun _ => rfl⟩

/-- A load future that is collected in any way: what it ran is returned, what it gave is applied. -/
theorem collect_accounts {next : Loop ω → Loop ω} (moves : Moves next) {run : Unit → Except Fault String}
    {future : Future Unit (Except Fault String)} {result : Option (Except Fault String)} {applying : List (Event ω)}
    (tasks : loop.onLoad.runs ++ future.tasks = loop.onLoad.tasks)
    (results : result.toList ++ future.results = loop.onLoad.results ++ loop.onLoad.runs.map run)
    (valid : future.valid → loop.onLoad.valid)
    (ran : { loop with onLoad := future }.loadFrom setup result next = (after, applying)) :
    Accounts loop after ((loop.onLoad.runs.map run).map .returned ++ applying) := by
  obtain ⟨sameLoad, sameSave, started, silent, captures, calls, collected⟩ := loadFrom_cases moves ran
  obtain ⟨starts, returns, applies, captures', calls'⟩ := projections_returned (ω := ω) (loop.onLoad.runs.map run)
  dsimp only at sameLoad sameSave
  constructor
  · rw [startedLoads_append, returned_append, starts, started, returns, silent, sameLoad, ← tasks]
    simp
  · intro running
    rw [returned_append, applied_append, returns, silent, applies, List.append_nil, List.nil_append, sameLoad,
      ← collected running, results]
  · rw [captured_append, called_append, captures, captures', calls, calls', sameSave]
    simp
  · rw [sameLoad, sameSave]
    exact fun apart both => apart ⟨valid both.1, both.2⟩

theorem checkLoad_accounts {next : Loop ω → Loop ω} (moves : Moves next) {onLoad : Except Fault (Option String)}
    (ran : loop.checkLoad setup onLoad next = (after, events)) : Accounts loop after events := by
  cases ran
  exact collect_accounts moves (Future.poll_tasks _ _) (Future.poll_results _ _) (Future.poll_valid _ _) rfl

theorem quitLoad_accounts {onLoad : Except Fault (Option String)}
    (ran : loop.quitLoad setup onLoad = some (after, events)) : Accounts loop after events := by
  unfold quitLoad at ran
  split at ran
  next =>
    obtain ⟨result, got, ran⟩ := Option.bind_eq_some_iff.mp ran
    generalize collected : loadFrom setup (some result) (goto .quitSave) { loop with onLoad := .invalid } = out at ran
    obtain ⟨reached, applying⟩ := out
    cases ran
    refine collect_accounts (moves_goto _) ?_ ?_ ?_ collected
    · rw [Future.get_tasks _ _ got]
      exact List.append_nil _
    · rw [← Future.get_results _ _ got]
      rfl
    · intro impossible
      cases impossible
  next =>
    cases ran
    exact .still rfl rfl ⟨rfl, rfl, rfl, rfl, rfl⟩

theorem discard_keeps {next : Loop ω → Loop ω} (moves : Moves next) (result : Option (Except Fault String)) :
    (loop.discard result next).onLoad = loop.onLoad ∧ (loop.discard result next).onSave = loop.onSave := by
  unfold Loop.discard
  split
  · exact ⟨rfl, rfl⟩
  · exact moves loop

/-- A save future that is collected in any way: the handler has been called with the text. -/
theorem discard_accounts {next : Loop ω → Loop ω} (moves : Moves next) {future : Future String (Except Fault String)}
    {result : Option (Except Fault String)} (tasks : loop.onSave.runs ++ future.tasks = loop.onSave.tasks)
    (valid : future.valid → loop.onSave.valid) :
    Accounts loop ({ loop with onSave := future }.discard result next) (loop.onSave.runs.map .called) := by
  obtain ⟨sameLoad, sameSave⟩ : ({ loop with onSave := future }.discard result next).onLoad = loop.onLoad ∧
    ({ loop with onSave := future }.discard result next).onSave = future := discard_keeps moves result
  obtain ⟨starts, returns, applies, captures, calls⟩ := projections_called (ω := ω) loop.onSave.runs
  constructor
  · rw [starts, returns, sameLoad]
    rfl
  · intro _
    rw [returns, applies, sameLoad, List.append_nil]
    rfl
  · rw [captures, calls, sameSave, List.append_nil]
    exact tasks.symm
  · rw [sameLoad, sameSave]
    exact fun apart both => apart ⟨both.1, valid both.2⟩

theorem checkSave_accounts {next : Loop ω → Loop ω} (moves : Moves next) {onSave : Except Fault Unit}
    (ran : loop.checkSave onSave next = (after, events)) : Accounts loop after events := by
  cases ran
  exact discard_accounts moves (Future.poll_tasks _ _) (Future.poll_valid _ _)

theorem quitSave_accounts {onSave : Except Fault Unit} (ran : loop.quitSave onSave = some (after, events)) :
    Accounts loop after events := by
  unfold quitSave at ran
  split at ran
  next =>
    obtain ⟨result, got, ran⟩ := Option.bind_eq_some_iff.mp ran
    cases ran
    refine discard_accounts moves_powerOff ?_ ?_
    · rw [Future.get_tasks _ _ got]
      exact List.append_nil _
    · intro impossible
      cases impossible
  next =>
    cases ran
    exact .still rfl rfl ⟨rfl, rfl, rfl, rfl, rfl⟩

/-- Every move of the loop thread and of its surroundings keeps the books. -/
theorem step_accounts {choice : Choice ω} (moved : Loop.step setup choice loop = some (after, events)) :
    Accounts loop after events := by
  cases step_taken moved with
  | turn ran =>
    unfold turn at ran
    split at ran
    next here => exact instruction_accounts here ran
    next => exact service_accounts ran
    next => exact checkLoad_accounts moves_finish (Option.some.inj ran)
    next => exact checkSave_accounts moves_finish (Option.some.inj ran)
    next => exact checkLoad_accounts (moves_goto _) (Option.some.inj ran)
    next => exact checkSave_accounts moves_finish (Option.some.inj ran)
    next => exact quitLoad_accounts ran
    next => exact quitSave_accounts ran
    next => cases ran
    next => cases ran
  | loaded running =>
    constructor
    · simp [startedLoads, returned, running, Future.tasks]
    · intro _
      simp [returned, applied, running, Future.results]
    · simp [captured, called]
    · exact fun apart both => apart ⟨by rw [running]; rfl, both.2⟩
  | saved running =>
    constructor
    · simp [startedLoads, returned]
    · intro _
      simp [returned, applied]
    · simp [captured, called, running, Future.tasks]
    · exact fun apart both => apart ⟨both.1, by rw [running]; rfl⟩
  | outside => exact .still rfl rfl ⟨rfl, rfl, rfl, rfl, rfl⟩

end Moves

section Points

def Idle (loop : Loop ω) : Prop := ¬ loop.onLoad.valid ∧ ¬ loop.onSave.valid

/-- The power is off only once a quit has found no request in flight. -/
def Placed (loop : Loop ω) : Prop :=
  match loop.point with
  | .head => PoweredOn loop.sys.bus ∨ Idle loop
  | .quitSave => PoweredOn loop.sys.bus ∧ ¬ loop.onLoad.valid
  | .done => Idle loop
  | .failed _ => True
  | _ => PoweredOn loop.sys.bus

theorem loadFrom_reaches {next : Loop ω → Loop ω} {result : Option (Except Fault String)}
    (ran : loop.loadFrom setup result next = (after, events)) :
    (∃ fault, after.point = .failed fault) ∨
      ∃ sys : System ω, sys.bus = loop.sys.bus ∧ after = next { loop with sys } := by
  unfold loadFrom at ran
  split at ran
  next =>
    cases ran
    exact .inr ⟨loop.sys, rfl, rfl⟩
  next fault =>
    cases ran
    exact .inl ⟨fault, rfl⟩
  next str =>
    have kept := (bystander_loadMachineState setup.lib setup.build setup.opt setup.memoryController str).bus loop.sys
    split at ran
    next sys loaded =>
      cases ran
      rw [loaded] at kept
      exact .inr ⟨sys, kept, rfl⟩
    next fault sys failed =>
      cases ran
      exact .inl ⟨fault, rfl⟩

theorem discard_reaches (next : Loop ω → Loop ω) (result : Option (Except Fault String)) :
    (∃ fault, (loop.discard result next).point = .failed fault) ∨ loop.discard result next = next loop := by
  unfold Loop.discard
  split
  next fault => exact .inl ⟨fault, rfl⟩
  next => exact .inr rfl

theorem checkLoad_reaches {next : Loop ω → Loop ω} {onLoad : Except Fault (Option String)}
    (ran : loop.checkLoad setup onLoad next = (after, events)) :
    (∃ fault, after.point = .failed fault) ∨ ∃ (sys : System ω) (future : Future Unit (Except Fault String)),
      sys.bus = loop.sys.bus ∧ after = next { loop with sys, onLoad := future } := by
  unfold checkLoad at ran
  dsimp only at ran
  generalize collected : loadFrom setup _ next _ = out at ran
  obtain ⟨reached, applying⟩ := out
  cases ran
  rcases loadFrom_reaches collected with failed | ⟨sys, bus, reached⟩
  · exact .inl failed
  · exact .inr ⟨sys, _, bus, reached⟩

theorem checkSave_reaches {next : Loop ω → Loop ω} {onSave : Except Fault Unit}
    (ran : loop.checkSave onSave next = (after, events)) :
    (∃ fault, after.point = .failed fault) ∨ ∃ future : Future String (Except Fault String),
      after = next { loop with onSave := future } := by
  cases ran
  rcases discard_reaches next _ with failed | reached
  · exact .inl failed
  · exact .inr ⟨_, reached⟩

theorem quitLoad_reaches {onLoad : Except Fault (Option String)} (ran : loop.quitLoad setup onLoad = some (after, events)) :
    (∃ fault, after.point = .failed fault) ∨
      after.point = .quitSave ∧ after.sys.bus = loop.sys.bus ∧ ¬ after.onLoad.valid := by
  unfold quitLoad at ran
  split at ran
  next =>
    obtain ⟨result, -, ran⟩ := Option.bind_eq_some_iff.mp ran
    generalize collected : loadFrom setup (some result) (goto .quitSave) { loop with onLoad := .invalid } = out at ran
    obtain ⟨reached, applying⟩ := out
    cases ran
    rcases loadFrom_reaches collected with failed | ⟨sys, bus, rfl⟩
    · exact .inl failed
    · exact .inr ⟨rfl, bus, Bool.false_ne_true⟩
  next invalid =>
    cases ran
    exact .inr ⟨rfl, rfl, invalid⟩

theorem quitSave_reaches {onSave : Except Fault Unit} (ran : loop.quitSave onSave = some (after, events)) :
    (∃ fault, after.point = .failed fault) ∨
      after.point = .head ∧ after.sys.bus = ControlBus.send .powerOff loop.sys.bus ∧ after.onLoad = loop.onLoad ∧
        ¬ after.onSave.valid := by
  unfold quitSave at ran
  split at ran
  next =>
    obtain ⟨result, -, ran⟩ := Option.bind_eq_some_iff.mp ran
    cases ran
    have reaches : (∃ fault, ({ loop with onSave := .invalid }.discard (some result) powerOff).point = .failed fault) ∨
      { loop with onSave := .invalid }.discard (some result) powerOff = { loop with onSave := .invalid }.powerOff :=
      discard_reaches powerOff (some result)
    rcases reaches with failed | reached
    · exact .inl failed
    · rw [reached]
      exact .inr ⟨rfl, rfl, rfl, Bool.false_ne_true⟩
  next invalid =>
    cases ran
    exact .inr ⟨rfl, rfl, rfl, invalid⟩

/-- How the loop thread gets from one point to the next, and what that does to the
buses and to the validity of the futures. -/
inductive Advances (setup : Setup ω) (loop after : Loop ω) (events : List (Event ω)) : Prop
  | failed {fault : Fault} (there : after.point = .failed fault) (on : loop.point = .head → PoweredOn loop.sys.bus)
  | beside (there : after.point = loop.point) (bus : after.sys.bus = loop.sys.bus)
      (load : after.onLoad.valid = loop.onLoad.valid) (save : after.onSave.valid = loop.onSave.valid)
      (silent : Event.executed ∉ events)
  | ended (here : loop.point = .head) (off : ¬ PoweredOn loop.sys.bus) (there : after.point = .done) (silent : events = [])
      (bus : after.sys.bus = (ControlBus.receive .powerOff loop.sys.bus).2)
      (load : after.onLoad = loop.onLoad) (save : after.onSave = loop.onSave)
  | passed (here : loop.point = .head) (on : PoweredOn loop.sys.bus) (carried : Carried setup loop.sys.bus after.sys.bus)
      (there : after.point = .head ∨ ∃ isr, after.point = .serviced isr)
  | serviced (isr : ISR) (here : loop.point = .serviced isr) (bus : after.sys.bus = loop.sys.bus)
      (there : isr ≠ .quit ∧ after.point ∈ [.head, .startedLoad, .startedSave, .reapLoad] ∨
        isr = .quit ∧ after.point = .quitLoad)
  | raised (isr : ISR) (level : Byte) (here : loop.point = .serviced isr) (request : isr.cpuLevel = some level)
      (there : after.point = .head) (bus : after.sys.bus = signal level loop.sys.bus)
  | collected (here : loop.point ∈ [.startedLoad, .startedSave, .reapLoad, .reapSave])
      (there : after.point = .head ∨ after.point = .reapSave) (bus : after.sys.bus = loop.sys.bus)
  | quitLoad (here : loop.point = .quitLoad) (there : after.point = .quitSave) (bus : after.sys.bus = loop.sys.bus)
      (load : ¬ after.onLoad.valid)
  | quitSave (here : loop.point = .quitSave) (there : after.point = .head)
      (bus : after.sys.bus = ControlBus.send .powerOff loop.sys.bus) (load : after.onLoad = loop.onLoad)
      (save : ¬ after.onSave.valid)

theorem service_advances {isr : ISR} (here : loop.point = .serviced isr)
    (ran : loop.service setup isr = some (after, events)) : Advances setup loop after events := by
  unfold service at ran
  split at ran
  next =>
    unfold Loop.load at ran
    split at ran
    next =>
      cases ran
      exact .serviced .load here rfl (.inl ⟨by decide, by simp⟩)
    next =>
      cases ran
      exact .serviced .load here rfl (.inl ⟨by decide, by simp [finish]⟩)
  next =>
    unfold Loop.save at ran
    split at ran
    next =>
      split at ran
      next =>
        cases ran
        exact .serviced .save here rfl (.inl ⟨by decide, by simp⟩)
      next => cases ran
      next =>
        cases ran
        exact .serviced .save here rfl (.inl ⟨by decide, by simp [finish]⟩)
      next =>
        cases ran
        exact .failed rfl fun head => nomatch here.symm.trans head
    next =>
      cases ran
      exact .serviced .save here rfl (.inl ⟨by decide, by simp [finish]⟩)
  next =>
    cases ran
    exact .serviced .quit here rfl (.inr ⟨rfl, rfl⟩)
  next =>
    cases ran
    exact .serviced .noInterrupt here rfl (.inl ⟨by decide, by simp [goto]⟩)
  next notQuit _ =>
    split at ran
    next level request =>
      cases ran
      exact .raised isr level here request rfl rfl
    next =>
      cases ran
      exact .serviced isr here rfl (.inl ⟨notQuit, by simp [finish]⟩)

theorem step_advances {choice : Choice ω} (moved : Loop.step setup choice loop = some (after, events)) :
    Advances setup loop after events := by
  cases step_taken moved with
  | turn ran =>
    unfold turn at ran
    split at ran
    next here =>
      obtain ⟨load, save, outcome⟩ := instruction_cases here ran
      obtain ⟨off, done, silent, bus⟩ | ⟨on, -, ⟨fault, failed⟩ | ⟨carried, there⟩⟩ := outcome
      · exact .ended here off done silent bus load save
      · exact .failed failed fun _ => on
      · exact .passed here on carried there
    next isr here => exact service_advances here ran
    next here =>
      rcases checkLoad_reaches (Option.some.inj ran) with ⟨fault, failed⟩ | ⟨sys, future, bus, rfl⟩
      · exact .failed failed fun head => nomatch here.symm.trans head
      · exact .collected (by simp [here]) (.inl rfl) bus
    next here =>
      rcases checkSave_reaches (Option.some.inj ran) with ⟨fault, failed⟩ | ⟨future, rfl⟩
      · exact .failed failed fun head => nomatch here.symm.trans head
      · exact .collected (by simp [here]) (.inl rfl) rfl
    next here =>
      rcases checkLoad_reaches (Option.some.inj ran) with ⟨fault, failed⟩ | ⟨sys, future, bus, rfl⟩
      · exact .failed failed fun head => nomatch here.symm.trans head
      · exact .collected (by simp [here]) (.inr rfl) bus
    next here =>
      rcases checkSave_reaches (Option.some.inj ran) with ⟨fault, failed⟩ | ⟨future, rfl⟩
      · exact .failed failed fun head => nomatch here.symm.trans head
      · exact .collected (by simp [here]) (.inl rfl) rfl
    next here =>
      rcases quitLoad_reaches ran with ⟨fault, failed⟩ | ⟨there, bus, collected⟩
      · exact .failed failed fun head => nomatch here.symm.trans head
      · exact .quitLoad here there bus collected
    next here =>
      rcases quitSave_reaches ran with ⟨fault, failed⟩ | ⟨there, bus, load, collected⟩
      · exact .failed failed fun head => nomatch here.symm.trans head
      · exact .quitSave here there bus load collected
    next => cases ran
    next => cases ran
  | loaded running => exact .beside rfl rfl (by rw [running]; rfl) rfl (by simp)
  | saved running => exact .beside rfl rfl rfl (by rw [running]; rfl) (by simp)
  | outside => exact .beside rfl rfl rfl rfl List.not_mem_nil

theorem step_placed {choice : Choice ω} (placed : Placed loop)
    (moved : Loop.step setup choice loop = some (after, events)) : Placed after := by
  unfold Placed at placed ⊢
  cases step_advances moved with
  | failed there _ =>
    rw [there]
    trivial
  | beside there bus load save _ =>
    unfold Idle at placed ⊢
    rw [there, bus, load, save]
    exact placed
  | ended here off there silent bus load save =>
    rw [here] at placed
    rw [there]
    obtain ⟨noLoad, noSave⟩ := placed.resolve_left off
    exact ⟨load ▸ noLoad, save ▸ noSave⟩
  | passed here on carried there =>
    rcases there with there | ⟨isr, there⟩
    · rw [there]
      exact .inl (carried.poweredOn on)
    · rw [there]
      exact carried.poweredOn on
  | serviced isr here bus there =>
    rw [here] at placed
    have on : PoweredOn after.sys.bus := bus ▸ placed
    rcases there with ⟨-, there⟩ | ⟨-, there⟩
    · simp only [List.mem_cons, List.not_mem_nil, or_false] at there
      rcases there with there | there | there | there
      · rw [there]
        exact .inl on
      · rw [there]
        exact on
      · rw [there]
        exact on
      · rw [there]
        exact on
    · rw [there]
      exact on
  | raised isr level here request there bus =>
    rw [here] at placed
    rw [there, bus]
    exact .inl (send_staysOn (by decide : Signal.interrupt ≠ .powerOff) placed)
  | collected here there bus =>
    have on : PoweredOn after.sys.bus := by
      rw [bus]
      simp only [List.mem_cons, List.not_mem_nil, or_false] at here
      rcases here with here | here | here | here
      · rwa [here] at placed
      · rwa [here] at placed
      · rwa [here] at placed
      · rwa [here] at placed
    rcases there with there | there
    · rw [there]
      exact .inl on
    · rw [there]
      exact on
  | quitLoad here there bus load =>
    rw [here] at placed
    rw [there, bus]
    exact ⟨placed, load⟩
  | quitSave here there bus load save =>
    rw [here] at placed
    rw [there]
    exact .inr ⟨load ▸ placed.2, save⟩

theorem loadFrom_events {next : Loop ω → Loop ω} {result : Option (Except Fault String)}
    (ran : loop.loadFrom setup result next = (after, events)) : events = [] ∨ ∃ str, events = [.applied str] := by
  unfold loadFrom at ran
  split at ran
  next =>
    cases ran
    exact .inl rfl
  next =>
    cases ran
    exact .inl rfl
  next str =>
    split at ran
    next =>
      cases ran
      exact .inr ⟨str, rfl⟩
    next =>
      cases ran
      exact .inr ⟨str, rfl⟩

/-- Where the loop thread is when it emits an event, and what it has at hand there. -/
def Permits (setup : Setup ω) (loop : Loop ω) : Event ω → Prop
  | .executed => loop.point = .head
  | .ignored isr => loop.point = .serviced isr
  | .startedLoad => loop.point = .serviced .load
  | .startedSave s state => loop.point = .serviced .save ∧ loop.sys = s ∧
    ∃ world, saveState setup.lib setup.build setup.opt setup.memoryController s.cpu s.world = .ok (some state) world
  | .refusedSave => loop.point = .serviced .save
  | .applied _ => loop.point ∈ [.startedLoad, .reapLoad, .quitLoad]
  | .returned _ | .called _ => True

theorem permits_nil : ∀ event ∈ ([] : List (Event ω)), Permits setup loop event :=
  fun _ member => absurd member List.not_mem_nil

theorem permits_one {event : Event ω} (permits : Permits setup loop event) :
    ∀ other ∈ [event], Permits setup loop other := by
  intro other member
  rw [List.mem_singleton.mp member]
  exact permits

theorem service_permits {isr : ISR} (here : loop.point = .serviced isr)
    (ran : loop.service setup isr = some (after, events)) : ∀ event ∈ events, Permits setup loop event := by
  unfold service at ran
  split at ran
  next =>
    unfold Loop.load at ran
    split at ran
    next =>
      cases ran
      exact permits_one here
    next =>
      cases ran
      exact permits_one here
  next =>
    unfold Loop.save at ran
    split at ran
    next =>
      split at ran
      next state world saved =>
        cases ran
        exact permits_one ⟨here, rfl, world, saved⟩
      next => cases ran
      next =>
        cases ran
        exact permits_one here
      next =>
        cases ran
        exact permits_nil
    next =>
      cases ran
      exact permits_one here
  next =>
    cases ran
    exact permits_nil
  next =>
    cases ran
    exact permits_nil
  next =>
    split at ran
    next =>
      cases ran
      exact permits_nil
    next =>
      cases ran
      exact permits_nil

theorem collect_permits {before : Loop ω} {next : Loop ω → Loop ω} {result : Option (Except Fault String)}
    (results : List (Except Fault String)) (here : loop.point ∈ [.startedLoad, .reapLoad, .quitLoad])
    (ran : before.loadFrom setup result next = (after, events)) :
    ∀ event ∈ results.map Event.returned ++ events, Permits setup loop event := by
  intro event member
  rcases List.mem_append.mp member with member | member
  · obtain ⟨result, -, rfl⟩ := List.mem_map.mp member
    trivial
  · rcases loadFrom_events ran with rfl | ⟨str, rfl⟩
    · exact permits_nil event member
    · rw [List.mem_singleton.mp member]
      exact here

theorem called_permits (states : List String) : ∀ event ∈ states.map (Event.called (ω := ω)), Permits setup loop event := by
  intro event member
  obtain ⟨state, -, rfl⟩ := List.mem_map.mp member
  trivial

theorem step_permits {choice : Choice ω} (moved : Loop.step setup choice loop = some (after, events)) :
    ∀ event ∈ events, Permits setup loop event := by
  cases step_taken moved with
  | turn ran =>
    unfold turn at ran
    split at ran
    next here =>
      obtain ⟨-, -, ⟨-, -, rfl, -⟩ | ⟨-, rfl | rfl, -⟩⟩ := instruction_cases here ran
      · exact permits_nil
      · exact permits_nil
      · exact permits_one here
    next here => exact service_permits here ran
    next here =>
      cases ran
      exact collect_permits _ (by simp [here]) rfl
    next =>
      cases ran
      exact called_permits _
    next here =>
      cases ran
      exact collect_permits _ (by simp [here]) rfl
    next =>
      cases ran
      exact called_permits _
    next here =>
      unfold quitLoad at ran
      split at ran
      next =>
        obtain ⟨result, -, ran⟩ := Option.bind_eq_some_iff.mp ran
        cases ran
        exact collect_permits _ (by simp [here]) rfl
      next =>
        cases ran
        exact permits_nil
    next =>
      unfold quitSave at ran
      split at ran
      next =>
        obtain ⟨result, -, ran⟩ := Option.bind_eq_some_iff.mp ran
        cases ran
        exact called_permits _
      next =>
        cases ran
        exact permits_nil
    next => cases ran
    next => cases ran
  | loaded => exact permits_one trivial
  | saved => exact permits_one trivial
  | outside => exact permits_nil

end Points

section Runs

theorem step_failed {choice : Choice ω} {fault : Fault} (failed : loop.point = .failed fault)
    (moved : Loop.step setup choice loop = some (after, events)) : after.point = .failed fault := by
  cases step_taken moved with
  | turn ran => simp [turn, failed] at ran
  | loaded => exact failed
  | saved => exact failed
  | outside => exact failed

/-- The state of the requests after the events of `trace`. -/
structure Books (trace : List (Event ω)) (loop : Loop ω) : Prop where
  exclusive : ¬ (loop.onLoad.valid ∧ loop.onSave.valid)
  loads : startedLoads trace = (returned trace).length + loop.onLoad.tasks.length
  results : (∀ fault, loop.point ≠ .failed fault) → returned trace = (applied trace).map .ok ++ loop.onLoad.results
  saves : captured trace = called trace ++ loop.onSave.tasks
  placed : Placed loop

theorem Books.move {trace : List (Event ω)} {choice : Choice ω} (books : Books trace loop)
    (moved : Loop.step setup choice loop = some (after, events)) : Books (trace ++ events) after := by
  obtain ⟨loads, results, saves, exclusive⟩ := step_accounts moved
  constructor
  · exact exclusive books.exclusive
  · rw [startedLoads_append, returned_append, List.length_append, books.loads]
    omega
  · intro running
    have before : ∀ fault, loop.point ≠ .failed fault := fun fault failed => running fault (step_failed failed moved)
    rw [returned_append, applied_append, books.results before, List.append_assoc, results running, List.map_append,
      List.append_assoc]
  · rw [captured_append, called_append, books.saves, List.append_assoc, saves, List.append_assoc]
  · exact step_placed books.placed moved

variable {sys : System ω} {clock : CpuClock} {host : SteadyClock.Host} {start : Loop ω} {trace : List (Event ω)}

theorem start_books (entered : Loop.start setup sys clock host = .ok start) : Books [] start := by
  unfold Loop.start at entered
  obtain ⟨loadAsync, -, entered⟩ := ErrorState.except_bind_ok_iff.mp entered
  obtain ⟨saveAsync, -, entered⟩ := ErrorState.except_bind_ok_iff.mp entered
  cases entered
  exact ⟨(fun both => nomatch both.1), rfl, fun _ => rfl, rfl, .inr ⟨Bool.false_ne_true, Bool.false_ne_true⟩⟩

theorem run_books (entered : Loop.start setup sys clock host = .ok start) (run : Run (Loop.step setup) start trace loop) :
    Books trace loop :=
  run.invariant Books (start_books entered) fun books moved => books.move moved

/-- A request that arrives while a future is valid starts nothing. -/
theorem busy_ignored {isr : ISR} (request : isr = .load ∨ isr = .save) (arrives : loop.point = .serviced isr)
    (busy : loop.onLoad.valid ∨ loop.onSave.valid) (onLoad : Except Fault (Option String)) (onSave : Except Fault Unit) :
    Loop.step setup (.turn onLoad onSave) loop = some (loop.finish, [.ignored isr]) := by
  have refused (handler : Bool) : loop.accepts handler = false := by
    unfold accepts
    obtain valid | valid := busy
    · simp [valid]
    · simp [valid]
  simp only [Loop.step, turn, arrives]
  obtain rfl | rfl := request
  · simp [service, Loop.load, refused]
  · simp [service, Loop.save, refused]

/-- Requests along a run. Tasks in flight are those of the two futures; results come back
and are applied in the order in which their tasks were started. -/
structure Served (setup : Setup ω) (start : Loop ω) (trace : List (Event ω)) (loop : Loop ω) : Prop where
  exclusive : ¬ (loop.onLoad.valid ∧ loop.onSave.valid)
  ignored : ∀ isr, isr = .load ∨ isr = .save → loop.point = .serviced isr → loop.onLoad.valid ∨ loop.onSave.valid →
    ∀ onLoad onSave, Loop.step setup (.turn onLoad onSave) loop = some (loop.finish, [.ignored isr])
  loads : startedLoads trace = (returned trace).length + loop.onLoad.tasks.length
  once : (∀ fault, loop.point ≠ .failed fault) → returned trace = (applied trace).map .ok ++ loop.onLoad.results
  boundary : ∀ choice after events, Loop.step setup choice loop = some (after, events) →
    ∀ str, .applied str ∈ events → .executed ∉ events
  saves : captured trace = called trace ++ loop.onSave.tasks
  captures : ∀ sys state, .startedSave sys state ∈ trace →
    ∃ earlier before, Run (Loop.step setup) start earlier before ∧ earlier <+: trace ∧ before.point = .serviced .save ∧
      before.sys = sys ∧ ∃ world,
        saveState setup.lib setup.build setup.opt setup.memoryController sys.cpu sys.world = .ok (some state) world
  ended : loop.point = .done → startedLoads trace = (applied trace).length ∧
    returned trace = (applied trace).map .ok ∧ called trace = captured trace
  quit : loop.point = .serviced .quit → ∀ more after, Run (Loop.step setup) loop more after → .executed ∉ more

end Runs

section Script

def script : IController (PlainRam.Ram (List ISR)) :=
  PlainRam.deviceController ⟨fun _ isrs => (0, isrs), fun _ _ isrs => isrs⟩ fun _ _ isrs =>
    (isrs.headD .noInterrupt, isrs.tail)

def scripted (opt : Opt) : Setup (PlainRam.Ram (List ISR)) where
  lib := Codec.tabulated [] [] [] default
  build := ⟨true, true⟩
  opt
  memoryController := PlainRam.ramController (Vector.replicate 16 0x11)
  ioController := script
  ticksPerIsr := 0
  onLoad := true
  onSave := true

def scriptedLoop (policy : Launch) (isrs : List ISR) (readings : List Int) : Loop (PlainRam.Ram (List ISR)) where
  sys := { world := ⟨fun _ => 0, isrs⟩ }
  clock := {}
  host := ⟨0, readings, []⟩
  loadLaunchPolicy := policy
  saveLaunchPolicy := policy

end Script
end MachEmu.Proofs.Requests
