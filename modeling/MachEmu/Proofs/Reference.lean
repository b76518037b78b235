import MachEmu.Lib.Isa8080Board
import MachEmu.Proofs.Conversations

/-! Runs of the machine loop against the reference 8080. Between two instructions
the processor is left alone: requests, devices and others are all that reach the board. -/

namespace MachEmu.Proofs.Reference
open Intel8080 Isa8080 BusTransactions BusDiscipline Boundaries StatusByte PlainRam Instructions InstructionSet Interrupts
open Machine Loop Traces ErrorState Calls Timeline Deliveries Conversations

variable {δ : Type}

def requested (bus : SystemBus) : Option (BitVec 3) :=
  if bus.controlBus.getLsbD Signal.interrupt.lane then some (bus.dataBus.setWidth 3) else none

def board (loop : Loop (Ram δ)) : Board δ := ⟨view loop.sys, requested loop.sys.bus⟩

/-- Plain RAM, and ports beside a source of interrupts. -/
structure Wired (setup : Setup (Ram δ)) (io : Ports δ) (service : BitVec 64 → BitVec 64 → δ → ISR × δ) : Prop where
  memory : ∃ uuid, setup.memoryController = ramController uuid
  io : setup.ioController = deviceController io service

section Cycles
variable {setup : Setup (Ram δ)} {io : Ports δ} {service : BitVec 64 → BitVec 64 → δ → ISR × δ} {isr : ISR}
  {s : System (Ram δ)} {bus : SystemBus} {after : State δ}

theorem requested_quiet (quiet : Quiet bus) : requested bus = none := by
  unfold requested
  rw [quiet]
  rfl

theorem requested_deliver (quiet : Quiet bus) : requested (deliver isr bus) = isr.cpuLevel.map (·.setWidth 3) := by
  obtain ⟨addr, data, control⟩ := bus
  obtain rfl : control = 0#8 := quiet
  unfold deliver
  cases isr.cpuLevel with
  | none => exact requested_quiet rfl
  | some level => simp [requested, signal, ControlBus.send, DataBus.send, Signal.lane]

theorem wiring_ram {uuid : Uuid} (memory : setup.memoryController = ramController uuid)
    (ports : setup.ioController = deviceController io service) : setup.wiring = ramWiring setup.build uuid io := by
  rw [wiring_eq, memory, ports]
  rfl

/-- An execution on clear lanes is one instruction. -/
theorem execute_instr (wired : Wired setup io service) (form : StatusForm s.cpu.status) (quiet : Quiet s.bus)
    {instr : Instr} (decoded : decode ((view s).mem (view s).pc) = some instr) (runs : instr ≠ .hlt) :
    ∃ last, execute setup.wiring s = .ok (charge (view s).flags instr) last ∧ view last = exec io.device instr (view s) ∧
      StatusForm last.cpu.status ∧ Quiet last.bus := by
  obtain ⟨⟨uuid, memory⟩, ports⟩ := wired
  obtain ⟨cpu, ⟨addr, data, control⟩, ⟨mem, state⟩⟩ := s
  obtain rfl : control = 0#8 := quiet
  have performed := execute_performs setup.build uuid io cpu addr data mem state instr form decoded runs
  rw [wiring_ram memory ports]
  unfold Instructions.Simulates at performed
  split at performed
  next ticks last executed =>
    obtain ⟨charged, same, formed, bus⟩ := performed
    exact ⟨last, executed.trans (congrArg (EStateM.Result.ok · last) charged), same, formed, by rw [bus]; rfl⟩
  next => exact performed.elim

theorem execute_masked (wired : Wired setup io service) (form : StatusForm s.cpu.status) (quiet : Quiet s.bus)
    (masked : isr.cpuLevel = none ∨ s.cpu.iff = false) {instr : Instr}
    (decoded : decode ((view s).mem (view s).pc) = some instr) (runs : instr ≠ .hlt) :
    ∃ last, execute setup.wiring (interrupted isr s) = .ok (charge (view s).flags instr) last ∧
      view last = exec io.device instr (view s) ∧
      StatusForm last.cpu.status ∧ Quiet last.bus := by
  obtain ⟨last, executed, same, formed, clear⟩ := execute_instr wired form quiet decoded runs
  have agrees : Agrees (execute setup.wiring (interrupted isr s)) (execute setup.wiring s) :=
    (ignores_interrupted quiet masked).same s.bus quiet
  obtain ⟨observed, alike⟩ := agrees
  rw [executed] at observed alike
  cases again : execute setup.wiring (interrupted isr s) with
  | ok other reached =>
    cases alike other reached again
    exact ⟨last, rfl, same, formed, clear⟩
  | error fault reached =>
    rw [again] at observed
    cases congrArg Observation.ticks observed

theorem execute_entry (wired : Wired setup io service) (quiet : Quiet s.bus) {level : Byte}
    (request : isr.cpuLevel = some level) (enabled : s.cpu.iff = true) :
    ∃ last, execute setup.wiring (interrupted isr s) = .ok 11 last ∧ view last = (view s).interrupt (level.setWidth 3) ∧
      last.cpu.status = s.cpu.status ∧ Quiet last.bus := by
  obtain ⟨⟨uuid, memory⟩, ports⟩ := wired
  rw [wiring_eq, acknowledged_run _ _ _ quiet request enabled, memory]
  refine ⟨_, rfl, ?_, rfl, rfl⟩
  have vector : BitVec.ofNat 16 (8 * level.toNat) = (0#10 ++ level.setWidth 3 ++ 0#3 : BitVec 16) := by
    cases isr <;> cases request <;> rfl
  simp only [view, entering, State.interrupt, State.pushWord, State.store, vector, low_byte, high_byte]

/-- An execution is the cycle that takes the request on the buses. -/
theorem execute_cycle (wired : Wired setup io service) (form : StatusForm s.cpu.status) (quiet : Quiet s.bus)
    {reached : Board δ} (cycled : Board.cycle io.device ⟨view s, isr.cpuLevel.map (·.setWidth 3)⟩ = some reached) :
    ∃ ticks last, execute setup.wiring (interrupted isr s) = .ok ticks last ∧ reached = ⟨view last, none⟩ ∧
      StatusForm last.cpu.status ∧ Quiet last.bus := by
  have ignored (masked : isr.cpuLevel = none ∨ s.cpu.iff = false) {after : State δ}
      (ran : next io.device (view s) = some after) :
      ∃ ticks last, execute setup.wiring (interrupted isr s) = .ok ticks last ∧
        (⟨after, none⟩ : Board δ) = ⟨view last, none⟩ ∧
        StatusForm last.cpu.status ∧ Quiet last.bus := by
    obtain ⟨instr, decoded, runs, rfl⟩ := next_some ran
    obtain ⟨last, executed, same, formed, clear⟩ := execute_masked wired form quiet masked decoded runs
    exact ⟨_, last, executed, by rw [same], formed, clear⟩
  unfold Board.cycle at cycled
  cases request : isr.cpuLevel with
  | none =>
    rw [request] at cycled
    obtain ⟨after, ran, rfl⟩ := Option.map_eq_some_iff.mp cycled
    exact ignored (.inl request) ran
  | some level =>
    rw [request] at cycled
    dsimp only [Option.map_some] at cycled
    split at cycled
    next enabled =>
      cases cycled
      obtain ⟨last, executed, same, status, clear⟩ := execute_entry wired quiet request enabled
      exact ⟨11, last, executed, by rw [same], by rw [status]; exact form, clear⟩
    next disabled =>
      obtain ⟨after, ran, rfl⟩ := Option.map_eq_some_iff.mp cycled
      exact ignored (.inr (eq_false_of_ne_true disabled)) ran

end Cycles

section Moves
variable {ω : Type} {setup : Setup ω} {loop after : Loop ω} {events : List (Event ω)} {next : Loop ω → Loop ω}

/-- The processor, the world and the request are left as they are. -/
structure Unmoved (s after : System ω) : Prop where
  cpu : after.cpu = s.cpu
  world : after.world = s.world
  request : requested after.bus = requested s.bus

theorem Unmoved.refl (s : System ω) : Unmoved s s := ⟨rfl, rfl, rfl⟩

/-- No text is loaded, but for the empty one that stands for none. -/
def Unloaded (events : List (Event ω)) : Prop := ∀ text, .applied text ∈ events → text = ""

def loadedText : Event ω → Option String
  | .applied text => some text
  | _ => none

theorem unloaded_of {events : List (Event ω)} (none : events.filterMap loadedText = []) : Unloaded events := by
  intro text member
  have loaded : text ∈ events.filterMap loadedText := List.mem_filterMap.mpr ⟨_, member, rfl⟩
  rw [none] at loaded
  cases loaded

theorem unmoved_powerOff (loop : Loop ω) : Unmoved loop.sys loop.powerOff.sys := by
  refine ⟨rfl, rfl, ?_⟩
  simp [powerOff, finish, requested, ControlBus.send, Signal.lane]

theorem loadFrom_unmoved (loop : Loop ω) (keeps : ∀ loop, Unmoved loop.sys (next loop).sys)
    {result : Option (Except Fault String)} (unloaded : Unloaded (loop.loadFrom setup result next).2) :
      Unmoved loop.sys (loop.loadFrom setup result next).1.sys := by
  unfold loadFrom at unloaded ⊢
  split
  next => exact keeps loop
  next => exact .refl _
  next str =>
    dsimp only at unloaded
    have empty : str = "" := by
      refine unloaded str ?_
      split
      · exact List.mem_singleton_self _
      · exact List.mem_singleton_self _
    have skipped : loadMachineState setup.lib setup.build setup.opt setup.memoryController str loop.sys = .ok
        () loop.sys := by
      rw [loadMachineState, if_pos empty]
      rfl
    rw [skipped]
    exact keeps loop

theorem discard_unmoved (loop : Loop ω) (keeps : ∀ loop, Unmoved loop.sys (next loop).sys)
    (result : Option (Except Fault String)) : Unmoved loop.sys (loop.discard result next).sys := by
  unfold Loop.discard
  split
  · exact .refl _
  · exact keeps loop

theorem checkLoad_unmoved (keeps : ∀ loop, Unmoved loop.sys (next loop).sys) {handler : Except Fault (Option String)}
    (unloaded : Unloaded (loop.checkLoad setup handler next).2) :
      Unmoved loop.sys (loop.checkLoad setup handler next).1.sys :=
  loadFrom_unmoved { loop with onLoad := (loop.onLoad.poll _).2 } keeps fun text member =>
    unloaded text (List.mem_append_right _ member)

theorem checkSave_unmoved (keeps : ∀ loop, Unmoved loop.sys (next loop).sys) (handler : Except Fault Unit) :
    Unmoved loop.sys (loop.checkSave handler next).1.sys :=
  discard_unmoved { loop with onSave := (loop.onSave.poll _).2 } keeps _

theorem quitLoad_unmoved {handler : Except Fault (Option String)} (ran : loop.quitLoad setup handler = some (after, events))
    (unloaded : Unloaded events) : Unmoved loop.sys after.sys := by
  unfold quitLoad at ran
  split at ran
  next =>
    obtain ⟨result, -, ran⟩ := Option.bind_eq_some_iff.mp ran
    cases ran
    have goes (loop : Loop ω) : Unmoved loop.sys (loop.goto .quitSave).sys := .refl _
    exact loadFrom_unmoved { loop with onLoad := .invalid } goes fun text member =>
      unloaded text (List.mem_append_right _ member)
  next =>
    cases ran
    exact .refl _

theorem quitSave_unmoved {handler : Except Fault Unit} (ran : loop.quitSave handler = some (after, events)) :
    Unmoved loop.sys after.sys := by
  unfold quitSave at ran
  split at ran
  next =>
    obtain ⟨result, -, ran⟩ := Option.bind_eq_some_iff.mp ran
    cases ran
    exact discard_unmoved { loop with onSave := .invalid } unmoved_powerOff _
  next =>
    cases ran
    exact unmoved_powerOff loop

theorem save_unmoved (reads : ∀ addr, Frames id (setup.memoryController.read addr))
    (ran : loop.save setup = some (after, events)) : Unmoved loop.sys after.sys := by
  have reading (addr : Word) : Preserves (· = loop.sys.world) (setup.memoryController.read addr) :=
    fun world same => (reads addr world).trans same
  have kept := saveState_keeps setup.lib setup.build setup.opt reading loop.sys.cpu loop.sys.world rfl
  unfold Loop.save at ran
  split at ran
  next =>
    split at ran
    next state world saved =>
      rw [saved] at kept
      cases ran
      exact ⟨rfl, kept, rfl⟩
    next => cases ran
    next what world saved =>
      rw [saved] at kept
      cases ran
      exact ⟨rfl, kept, rfl⟩
    next fault world other saved =>
      rw [saved] at kept
      cases ran
      exact ⟨rfl, kept, rfl⟩
  next =>
    cases ran
    exact .refl _

end Moves

section Runs
variable {setup : Setup (Ram δ)} {io : Ports δ} {service : BitVec 64 → BitVec 64 → δ → ISR × δ}
  {loop after start : Loop (Ram δ)}
  {events : List (Event (Ram δ))} {moves : List (LoopMove (Ram δ))} {waiting : ISR}

theorem Unmoved.board (unmoved : Unmoved loop.sys after.sys) : board after = board loop := by
  obtain ⟨cpu, world, request⟩ := unmoved
  unfold Reference.board view
  rw [cpu, world, request]

/-- What a move makes happen on the board. An execution is a cycle, after which the
devices may be asked for interrupts. -/
def happenings (setup : Setup (Ram δ)) (service : BitVec 64 → BitVec 64 → δ → ISR × δ) (move : LoopMove (Ram δ)) :
    List (Happening δ) :=
  match move.input, move.before.point with
  | .turn _ _, .head =>
    if PoweredOn move.before.sys.bus then
      .cycle :: (served (calls setup move.input move.before)).map fun call =>
        .devices fun state => (service call.currTime call.cycles state).2
    else []
  | .turn _ _, .serviced isr => isr.cpuLevel.toList.map fun level => .raise (level.setWidth 3)
  | .outside world, _ => [.outside world.mem world.io]
  | _, _ => []

theorem service_happens (reads : ∀ addr, Frames id (setup.memoryController.read addr)) {isr : ISR}
    (quiet : Quiet loop.sys.bus) (ran : loop.service setup isr = some (after, events)) :
    Board.run io.device (isr.cpuLevel.toList.map fun level => .raise (level.setWidth 3)) (board loop) = some (board after) ∧
      after.sys.cpu = loop.sys.cpu := by
  have still {isr : ISR} (none : isr.cpuLevel = none) (unmoved : Unmoved loop.sys after.sys) :
      Board.run io.device (isr.cpuLevel.toList.map fun level => .raise (level.setWidth 3)) (board loop) = some
        (board after) ∧
        after.sys.cpu = loop.sys.cpu := by
    rw [none, unmoved.board]
    exact ⟨rfl, unmoved.cpu⟩
  unfold service at ran
  split at ran
  next =>
    obtain rfl := congrArg Prod.fst (Option.some.inj ran)
    refine still rfl ?_
    unfold Loop.load
    split
    · exact .refl _
    · exact .refl _
  next => exact still rfl (save_unmoved reads ran)
  next =>
    cases ran
    exact still rfl (.refl _)
  next =>
    cases ran
    exact still rfl (.refl _)
  next =>
    split at ran
    next level request =>
      cases ran
      have raised : requested (signal level loop.sys.bus) = some (level.setWidth 3) := by
        have delivered : requested (deliver isr loop.sys.bus) = isr.cpuLevel.map (·.setWidth 3) := requested_deliver quiet
        rw [deliver, request] at delivered
        exact delivered
      rw [request, Option.toList_some, List.map_singleton, Board.run_one, Board.react]
      refine ⟨?_, rfl⟩
      rw [← raised]
      rfl
    next none =>
      cases ran
      exact still none (.refl _)

theorem turn_happens (reads : ∀ addr, Frames id (setup.memoryController.read addr)) {loaded : Except Fault (Option String)}
    {saved : Except Fault Unit} (away : loop.point ≠ .head) (waits : Waits waiting loop)
    (ran : loop.turn setup loaded saved = some (after, events)) (unloaded : Unloaded events) :
    Board.run io.device (happenings setup service ⟨loop, .turn loaded saved, events, after⟩) (board loop) = some
      (board after) ∧
      after.sys.cpu = loop.sys.cpu := by
  have collects {point : Point} (here : loop.point = point) (away : point ≠ .head) (other : ∀ isr, point ≠ .serviced isr)
      (unmoved : Unmoved loop.sys after.sys) :
      Board.run io.device (happenings setup service ⟨loop, .turn loaded saved, events, after⟩) (board loop) = some
        (board after) ∧
        after.sys.cpu = loop.sys.cpu := by
    have none : happenings setup service ⟨loop, .turn loaded saved, events, after⟩ = [] := by
      unfold happenings
      rw [here]
      cases point with
      | head => exact absurd rfl away
      | serviced isr => exact absurd rfl (other isr)
      | _ => rfl
    rw [none, unmoved.board]
    exact ⟨rfl, unmoved.cpu⟩
  have finishes (loop : Loop (Ram δ)) : Unmoved loop.sys loop.finish.sys := .refl _
  have goes (loop : Loop (Ram δ)) : Unmoved loop.sys (loop.goto .reapSave).sys := .refl _
  unfold turn at ran
  split at ran
  next here => exact absurd here away
  next isr here =>
    have quiet : Quiet loop.sys.bus := by
      unfold Waits at waits
      rw [here] at waits
      exact waits.1
    have raises : happenings setup service ⟨loop, .turn loaded saved, events, after⟩ =
        isr.cpuLevel.toList.map fun level => .raise (level.setWidth 3) := by
      unfold happenings
      rw [here]
    rw [raises]
    exact service_happens reads quiet ran
  next here =>
    cases ran
    exact collects here nofun nofun (checkLoad_unmoved finishes unloaded)
  next here =>
    cases ran
    exact collects here nofun nofun (checkSave_unmoved finishes saved)
  next here =>
    cases ran
    exact collects here nofun nofun (checkLoad_unmoved goes unloaded)
  next here =>
    cases ran
    exact collects here nofun nofun (checkSave_unmoved finishes saved)
  next here => exact collects here nofun nofun (quitLoad_unmoved ran unloaded)
  next here => exact collects here nofun nofun (quitSave_unmoved ran)
  next => cases ran
  next => cases ran

theorem pass_happens (wired : Wired setup io service) (form : StatusForm loop.sys.cpu.status) (here : loop.point = .head)
    (waits : Waits waiting loop) {loaded : Except Fault (Option String)} {saved : Except Fault Unit}
    (pass : Pass setup loop after (calls setup (.turn loaded saved) loop)) {reached : Board δ}
    (ran : Board.run io.device (happenings setup service ⟨loop, .turn loaded saved, events, after⟩) (board loop) =
      some reached) :
    reached = board after ∧ StatusForm after.sys.cpu.status := by
  have turns : happenings setup service ⟨loop, .turn loaded saved, events, after⟩ =
      if PoweredOn loop.sys.bus then
        .cycle :: (served (calls setup (.turn loaded saved) loop)).map fun call =>
          .devices fun state => (service call.currTime call.cycles state).2
      else [] := by
    unfold happenings
    rw [here]
  rw [turns] at ran
  clear turns
  generalize calls setup (.turn loaded saved) loop = made at pass ran
  by_cases on : PoweredOn loop.sys.bus
  · obtain ⟨bus, quiet, begun⟩ := pending_interrupted waits here on
    have bussed : loop.sys.bus = deliver waiting bus := congrArg System.bus ((pending_on on).symm.trans begun)
    have line : board loop = ⟨view { loop.sys with bus }, waiting.cpuLevel.map (·.setWidth 3)⟩ := by
      unfold board
      rw [bussed, requested_deliver quiet]
      rfl
    rw [if_pos on, Board.run, List.foldlM_cons, line] at ran
    obtain ⟨mid, cycled, ran⟩ := Option.bind_eq_some_iff.mp ran
    have formed : StatusForm ({ loop.sys with bus } : System (Ram δ)).cpu.status := form
    obtain ⟨taken, last, execution, rfl, lastForm, clear⟩ := execute_cycle wired formed quiet cycled
    rw [← begun] at execution
    cases pass with
    | off off => exact absurd on off
    | failed _ failed => cases execution.symm.trans failed
    | counted _ executed _ _ only =>
      cases execution.symm.trans executed
      rw [served_transfers only] at ran
      cases ran
      refine ⟨?_, lastForm⟩
      unfold board
      rw [← requested_quiet clear]
      rfl
    | serviced _ executed _ _ called only =>
      cases execution.symm.trans executed
      rw [served_last only] at ran
      rw [wired.io] at called
      cases ran
      cases called
      refine ⟨?_, lastForm⟩
      unfold board
      rw [← requested_quiet clear]
      rfl
    | threw _ _ _ _ called =>
      rw [wired.io] at called
      cases called
  · cases pass with
    | off =>
      rw [if_neg on] at ran
      cases ran
      refine ⟨?_, form⟩
      simp [board, view, requested, pending, Loop.goto, ControlBus.receive, Signal.lane]
    | failed powered => exact absurd powered on
    | counted powered => exact absurd powered on
    | serviced powered => exact absurd powered on
    | threw powered => exact absurd powered on

theorem step_happens (wired : Wired setup io service) (form : StatusForm loop.sys.cpu.status) (waits : Waits waiting loop)
    {choice : Choice (Ram δ)} (moved : Loop.step setup choice loop = some (after, events)) (unloaded : Unloaded events)
    {reached : Board δ}
    (ran : Board.run io.device (happenings setup service ⟨loop, choice, events, after⟩) (board loop) = some reached) :
    reached = board after ∧ StatusForm after.sys.cpu.status := by
  have reads (addr : Word) : Frames id (setup.memoryController.read addr) := by
    obtain ⟨uuid, memory⟩ := wired.memory
    rw [memory]
    exact fun _ => rfl
  by_cases passes : loop.point = .head ∧ ∃ loaded saved, choice = .turn loaded saved
  · obtain ⟨here, loaded, saved, rfl⟩ := passes
    rcases step_calls moved with ⟨-, -, pass⟩ | ⟨apart, -⟩
    · exact pass_happens wired form here waits pass ran
    · exact absurd rfl (apart.resolve_left (not_not.mpr here) loaded saved)
  · cases Requests.step_taken moved with
    | @turn loaded saved _ _ turned =>
      have away : loop.point ≠ .head := fun here => passes ⟨here, loaded, saved, rfl⟩
      have happened :
          Board.run io.device (happenings setup service ⟨loop, .turn loaded saved, events, after⟩) (board loop) =
          some (board after) ∧ after.sys.cpu = loop.sys.cpu := turn_happens reads away waits turned unloaded
      obtain ⟨same, cpu⟩ := happened
      cases same.symm.trans ran
      exact ⟨rfl, by rw [cpu]; exact form⟩
    | loaded =>
      cases ran
      exact ⟨rfl, form⟩
    | saved =>
      cases ran
      exact ⟨rfl, form⟩
    | outside =>
      cases ran
      exact ⟨rfl, form⟩

/-- A loop is entered on the board that is reset. -/
theorem Entered.board {lib : Libraries} {build : Build} (entered : Lifecycle.Entered lib build setup start) :
    board start = ⟨.reset start.sys.cpu.pc start.sys.world.mem start.sys.world.io, none⟩ ∧
      StatusForm start.sys.cpu.status := by
  obtain ⟨quiet, -⟩ := entered.begins
  have cleared := entered.cleared
  have flags : Flags.ofByte 0b00000010 = ⟨false, false, false, false, false⟩ := by decide
  unfold Reference.board view
  rw [requested_quiet quiet, cleared]
  exact ⟨by rw [flags]; rfl, (by decide : StatusForm 0b00000010)⟩

/-- However interrupts are signalled, the devices and others act and the state is saved:
as far as the reference machine goes from its reset, the loop is where that machine is. -/
theorem run_refines {lib : Libraries} {build : Build} (entered : Lifecycle.Entered lib build setup start)
    (wired : Wired setup io service)
    (run : Run (recorded (Loop.step setup)) start moves loop) (unloaded : ∀ move ∈ moves, Unloaded move.events)
    {reached : Board δ} (ran : Board.run io.device (moves.flatMap (happenings setup service))
      ⟨.reset start.sys.cpu.pc start.sys.world.mem start.sys.world.io, none⟩ = some reached) :
    reached = board loop := by
  obtain ⟨quiet, here, -, -⟩ := entered.begins
  obtain ⟨initial, form⟩ := Entered.board entered
  rw [← initial] at ran
  have along : (∃ waiting, Waits waiting loop) ∧ ((∀ move ∈ moves, Unloaded move.events) → ∀ {reached : Board δ},
      Board.run io.device (moves.flatMap (happenings setup service)) (board start) = some reached →
        reached = board loop ∧ StatusForm loop.sys.cpu.status) := by
    refine run.invariant (fun moves loop => (∃ waiting, Waits waiting loop) ∧ ((∀ move ∈ moves, Unloaded move.events) →
      ∀ {reached : Board δ}, Board.run io.device (moves.flatMap (happenings setup service)) (board start) = some reached →
        reached = board loop ∧ StatusForm loop.sys.cpu.status)) ⟨⟨.noInterrupt, waits_head here quiet rfl⟩, ?_⟩ ?_
    · rintro - reached ⟨⟩
      exact ⟨rfl, form⟩
    · intro moves loop choice after added ⟨⟨waiting, waits⟩, before⟩ moved
      obtain ⟨events, stepped, rfl⟩ := recorded_some moved
      refine ⟨⟨_, @step_waits _ _ _ _ _ _ ⟨[], waiting⟩ waits stepped⟩, fun unloaded reached ran => ?_⟩
      obtain ⟨earlier, last⟩ := List.forall_mem_append.mp unloaded
      rw [List.flatMap_append, Board.run_append] at ran
      obtain ⟨mid, ran, more⟩ := Option.bind_eq_some_iff.mp ran
      obtain ⟨rfl, formed⟩ := before earlier ran
      rw [List.flatMap_singleton] at more
      exact step_happens wired formed waits stepped (last _ (List.mem_singleton_self _)) more
  exact (along.2 unloaded ran).1

end Runs

section Session
open Lifecycle

def raising : Nat → ISR × Nat
  | 0 => (.one, 1)
  | 1 => (.noInterrupt, 2)
  | count => (.quit, count + 1)

def raisingWorld : Ram Nat where
  mem addr := if addr = 0 then 0xFB else if addr = 8 then 0x04 else 0
  io := 0

def quietPorts : Ports Nat := ⟨fun _ count => (0, count), fun _ _ count => count⟩

def raisingController : IController (Ram Nat) := deviceController quietPorts fun _ _ => raising

def raisingSetup : Setup (Ram Nat) := { askingSetup .noInterrupt with
  memoryController := ramController (Vector.replicate 16 0)
  ioController := raisingController }

def raisingStart : Loop (Ram Nat) where
  sys := { world := raisingWorld }
  clock := CpuClock.make 2000000 1
  host := ⟨0, [1, 2, 3], []⟩

def raisingRun : Option (Loop (Ram Nat) × List (LoopMove (Ram Nat))) :=
  Traces.run (recorded (Loop.step raisingSetup)) (List.replicate 11 (.turn (.ok none) (.ok ()))) raisingStart

/-- The restart of an interrupt is executed by the reference machine and by the loop. -/
theorem raising_refines : ∃ (moves : List (LoopMove (Ram Nat))) (loop : Loop (Ram Nat)) (reached : Board Nat),
    Run (recorded (Loop.step raisingSetup)) raisingStart moves loop ∧ loop.point = .done ∧
      reached.processor.pc = 9 ∧ reached.processor.b = 1 ∧ reached.processor.mem 0xFFFE = 1 ∧ reached = board loop := by
  have entered : enter sessionLibraries ⟨true, false⟩ raisingWorld
      [.setMemoryController (some (ramController (Vector.replicate 16 0))),
        .setIoController (some raisingController)] 0 [1, 2, 3] =
        some (raisingSetup, raisingStart) := by
    with_unfolding_all rfl
  have outcome : raisingRun.map (fun out => (out.1.point, out.2.flatMap fun move => move.events.filterMap loadedText)) =
      some (.done, []) := by
    decide +kernel
  have reference : (raisingRun.bind fun out =>
      Board.run quietPorts.device (out.2.flatMap (happenings raisingSetup fun _ _ => raising))
      ⟨.reset 0 raisingWorld.mem 0, none⟩).map
        (fun board => (board.processor.pc, board.processor.b, board.processor.mem 0xFFFE)) =
        some (9, 1, 1) := by
    decide +kernel
  obtain ⟨⟨loop, moves⟩, ran, same⟩ := Option.map_eq_some_iff.mp outcome
  simp only [Prod.mk.injEq, List.flatMap_eq_nil_iff] at same
  obtain ⟨done, silent⟩ := same
  rw [ran, Option.bind_some] at reference
  obtain ⟨reached, referred, same⟩ := Option.map_eq_some_iff.mp reference
  simp only [Prod.mk.injEq] at same
  obtain ⟨pc, b, pushed⟩ := same
  have run : Run (recorded (Loop.step raisingSetup)) raisingStart moves loop := Run.of_run ran
  refine ⟨moves, loop, reached, run, done, pc, b, pushed, ?_⟩
  exact run_refines (enter_entered entered) ⟨⟨_, rfl⟩, rfl⟩ run
    (fun move member => unloaded_of (silent move member)) referred

end Session
end MachEmu.Proofs.Reference
