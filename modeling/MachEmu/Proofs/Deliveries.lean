import MachEmu.Proofs.DirectCalls
import MachEmu.Proofs.Starvation

/-! The interrupt that each execution of a run finds on the buses, and what becomes
of it. Between two executions nothing is put there but a result of `ServiceInterrupts`. -/

namespace MachEmu.Proofs.Deliveries
open Intel8080 Machine Loop Traces BusTransactions BusDiscipline Boundaries StatusByte Interrupts Calls DirectCalls
  Timeline Starvation ErrorState

variable {ω : Type} {setup : Setup ω}

def accesses (setup : Setup ω) (s : System ω) : List Access :=
  (ErrorState.final (execute (listening setup).wiring { s with world := (s.world, []) })).world.2

section Executions

structure Enters (setup : Setup ω) (level : Byte) (s : System ω) : Prop where
  returns : ∀ ticks after, execute setup.wiring s = .ok ticks after ↔
    ticks = 11 ∧ ∃ mid, setup.memoryController.write (s.cpu.sp - 1) ((s.cpu.pc >>> 8).setWidth 8) s.world = .ok () mid ∧
      setup.memoryController.write (s.cpu.sp - 2) (s.cpu.pc.setWidth 8) mid = .ok () after.world ∧ after.bus = {} ∧
      after.cpu = { s.cpu with
        sp := s.cpu.sp - 2
        pc := BitVec.ofNat 16 (8 * level.toNat)
        iff := false
        opcode := 0xC7 ||| level <<< 3 }
  /-- The program counter is stored, and nothing is fetched. -/
  calls : (∃ answer, accesses setup s =
      [.write .memory (s.cpu.sp - 1) ((s.cpu.pc >>> 8).setWidth 8) (.ok ()),
        .write .memory (s.cpu.sp - 2) (s.cpu.pc.setWidth 8) answer]) ∨
    ∃ fault, accesses setup s = [.write .memory (s.cpu.sp - 1) ((s.cpu.pc >>> 8).setWidth 8) (.error fault)]

/-- An execution that goes as if nothing but clear lanes had been on the buses. -/
structure Ignores (setup : Setup ω) (s : System ω) : Prop where
  same : ∀ bus, Quiet bus → Agrees (execute setup.wiring s) (execute setup.wiring { s with bus })
  calls : ∀ bus, Quiet bus → accesses setup s = accesses setup { s with bus }

structure Execution (ω : Type) where
  isr : ISR
  system : System ω

/-- The execution consumes the result. -/
structure Delivered (setup : Setup ω) (e : Execution ω) : Prop where
  acknowledged : ∀ level, e.isr.cpuLevel = some level → e.system.cpu.iff = true → Enters setup level e.system
  masked : e.isr.cpuLevel = none ∨ e.system.cpu.iff = false → Ignores setup e.system
  consumed : ∀ ticks after, execute setup.wiring e.system = .ok ticks after → Quiet after.bus

variable {isr : ISR} {s : System ω}

theorem wiring_eq (setup : Setup ω) : setup.wiring = wiring setup.build setup.memoryController setup.ioController := rfl

/-- The registers at the entry, with the stack pointer lowered and the interrupt acknowledged. -/
def entering (level : Byte) (sp : Word) (self : Intel8080) : Intel8080 :=
  { self with sp, iff := false, opcode := 0xC7 ||| level <<< 3 }

theorem acknowledged_run (build : Build) (memory io : IController ω) (quiet : Quiet s.bus) {level : Byte}
    (request : isr.cpuLevel = some level) (enabled : s.cpu.iff = true) :
    execute (wiring build memory io) (interrupted isr s) =
      match memory.write (s.cpu.sp - 1) ((s.cpu.pc >>> 8).setWidth 8) s.world with
      | .error fault world => .error fault ⟨entering level (s.cpu.sp - 1) s.cpu, {}, world⟩
      | .ok _ world =>
        match memory.write (s.cpu.sp - 2) (s.cpu.pc.setWidth 8) world with
        | .error fault world => .error fault ⟨entering level (s.cpu.sp - 2) s.cpu, {}, world⟩
        | .ok _ world =>
          .ok 11 ⟨{ entering level (s.cpu.sp - 2) s.cpu with pc := BitVec.ofNat 16 (8 * level.toNat) }, {}, world⟩ := by
  obtain ⟨⟨addr, data, control⟩, clear, ran⟩ := execute_interrupted (wiring build memory io) isr quiet
  obtain rfl : control = 0#8 := clear
  have below : s.cpu.sp - 1 - 1 = s.cpu.sp - 2 := pred_pred s.cpu.sp
  have vector : ((0xC7 ||| level <<< 3 : Byte) &&& 0x38).setWidth 16 = BitVec.ofNat 16 (8 * level.toNat) :=
    vector_eq request
  rw [ran, acknowledged, if_pos enabled, request, dispatch_some_run]
  simp only [below, vector, Option.isNone_some, Bool.and_false]
  cases memory.write (s.cpu.sp - 1) ((s.cpu.pc >>> 8).setWidth 8) s.world with
  | error fault world => rfl
  | ok _ world =>
    dsimp only
    cases memory.write (s.cpu.sp - 2) (s.cpu.pc.setWidth 8) world with
    | error fault world => rfl
    | ok _ world => rfl

/-- Where the flip-flop is set, the interrupt is entered. -/
theorem enters_interrupted (quiet : Quiet s.bus) {level : Byte} (request : isr.cpuLevel = some level)
    (enabled : s.cpu.iff = true) : Enters setup level (interrupted isr s) := by
  constructor
  · intro ticks after
    rw [wiring_eq, acknowledged_run _ _ _ quiet request enabled]
    change _ ↔ ticks = 11 ∧ ∃ mid,
      setup.memoryController.write (s.cpu.sp - 1) ((s.cpu.pc >>> 8).setWidth 8) s.world = .ok () mid ∧
      setup.memoryController.write (s.cpu.sp - 2) (s.cpu.pc.setWidth 8) mid = .ok () after.world ∧ after.bus = {} ∧
      after.cpu = { entering level (s.cpu.sp - 2) s.cpu with pc := BitVec.ofNat 16 (8 * level.toNat) }
    cases first : setup.memoryController.write (s.cpu.sp - 1) ((s.cpu.pc >>> 8).setWidth 8) s.world with
    | error fault world => simp
    | ok _ world =>
      dsimp only
      cases second : setup.memoryController.write (s.cpu.sp - 2) (s.cpu.pc.setWidth 8) world with
      | error fault last =>
        constructor
        · rintro ⟨⟩
        · rintro ⟨-, _, ⟨⟩, wrote, -⟩
          cases second.symm.trans wrote
      | ok _ last =>
        constructor
        · rintro ⟨⟩
          exact ⟨rfl, world, rfl, second, rfl, rfl⟩
        · rintro ⟨rfl, _, ⟨⟩, wrote, bus, cpu⟩
          obtain ⟨_, _, _⟩ := after
          cases second.symm.trans wrote
          cases bus
          cases cpu
          rfl
  · have heard : execute (listening setup).wiring { interrupted isr s with world := (s.world, []) } = _ :=
      acknowledged_run (s := { s with world := (s.world, []) }) setup.build (listen .memory setup.memoryController)
        (listen .io setup.ioController) quiet request enabled
    dsimp only at heard
    have write (addr : Word) (value : Byte) : (listen .memory setup.memoryController).write addr value =
        Calls.heard (.write .memory addr value) (setup.memoryController.write addr value) := rfl
    rw [write, write] at heard
    rw [accesses, show (interrupted isr s).world = s.world from rfl, heard]
    cases first : setup.memoryController.write (s.cpu.sp - 1) ((s.cpu.pc >>> 8).setWidth 8) s.world with
    | error fault world =>
      rw [heard_error _ _ first]
      exact .inr ⟨fault, rfl⟩
    | ok _ world =>
      rw [heard_ok _ _ first]
      refine .inl ?_
      dsimp only
      cases second : setup.memoryController.write (s.cpu.sp - 2) (s.cpu.pc.setWidth 8) world with
      | error fault last =>
        rw [heard_error _ _ second]
        exact ⟨.error fault, rfl⟩
      | ok _ last =>
        rw [heard_ok _ _ second]
        exact ⟨.ok (), rfl⟩

/-- Where the flip-flop is clear, or no interrupt is asked for, the execution goes on regardless. -/
theorem ignores_interrupted (quiet : Quiet s.bus) (ignored : isr.cpuLevel = none ∨ s.cpu.iff = false) :
    Ignores setup (interrupted isr s) := by
  have agrees (bus : SystemBus) (clear : Quiet bus) {ν : Type} (memory io : IController ν) (world : ν) :
      Agrees (execute (wiring setup.build memory io) (interrupted isr { s with world }))
        (execute (wiring setup.build memory io) ⟨s.cpu, bus, world⟩) := by
    have alike : Alike ({ s with world } : System ν) ⟨s.cpu, bus, world⟩ := ⟨rfl, rfl, quiet, clear⟩
    have agreed : Agrees (execute (wiring setup.build memory io) (interrupted isr { s with world }))
        (execute (wiring setup.build memory io) (interrupted .noInterrupt ⟨s.cpu, bus, world⟩)) :=
          execute_agrees alike ignored
    exact agreed
  constructor
  · intro bus clear
    exact agrees bus clear setup.memoryController setup.ioController s.world
  · intro bus clear
    obtain ⟨observed, -⟩ := agrees bus clear (listen .memory setup.memoryController)
      (listen .io setup.ioController) (s.world, [])
    have final (result : EStateM.Result Fault (System (Listened ω)) Byte) :
        (ErrorState.final result).world = (observe result).world := by cases result <;> rfl
    rw [accesses, accesses, final, final]
    exact congrArg (fun seen => seen.world.2) observed

theorem delivered_interrupted (quiet : Quiet s.bus) : Delivered setup ⟨isr, interrupted isr s⟩ where
  acknowledged _ request enabled := enters_interrupted quiet request enabled
  masked ignored := ignores_interrupted quiet ignored
  consumed _ _ ran := execute_quiet quiet ran

end Executions

section Runs
variable {loop after start : Loop ω} {events : List (Event ω)} {move : LoopMove ω} {moves : List (LoopMove ω)}

def begins (move : LoopMove ω) : Option (System ω) :=
  match move.input with
  | .turn _ _ => if move.before.point = .head ∧ PoweredOn move.before.sys.bus then some (pending move.before) else none
  | _ => none

def result (setup : Setup ω) (move : LoopMove ω) : ISR :=
  match (served (calls setup move.input move.before)).map Served.result with
  | [.ok isr] => isr
  | _ => .noInterrupt

/-- The executions up to a point of a run, and the result that waits for the next one. -/
structure Progress (ω : Type) where
  done : List (Execution ω) := []
  waiting : ISR := .noInterrupt

def advance (setup : Setup ω) (progress : Progress ω) (move : LoopMove ω) : Progress ω :=
  match begins move with
  | some system => ⟨progress.done ++ [⟨progress.waiting, system⟩], result setup move⟩
  | none => progress

def progress (setup : Setup ω) (moves : List (LoopMove ω)) : Progress ω := moves.foldl (advance setup) {}

def executions (setup : Setup ω) (moves : List (LoopMove ω)) : List (Execution ω) := (progress setup moves).done

theorem progress_append (move : LoopMove ω) :
    progress setup (moves ++ [move]) = advance setup (progress setup moves) move := by
  rw [progress, List.foldl_append]
  rfl

theorem begins_some {system : System ω} (begun : begins move = some system) :
    move.before.point = .head ∧ PoweredOn move.before.sys.bus := by
  unfold begins at begun
  split at begun
  next =>
    split at begun
    next both => exact both
    next => cases begun
  next => cases begun

theorem begins_apart (apart : move.before.point ≠ .head ∨ ∀ loaded saved, move.input ≠ .turn loaded saved) :
    begins move = none := by
  unfold begins
  split
  next loaded saved turn =>
    rcases apart with away | other
    · exact if_neg fun here => away here.1
    · exact absurd turn (other loaded saved)
  next => rfl

theorem advance_apart (apart : move.before.point ≠ .head ∨ ∀ loaded saved, move.input ≠ .turn loaded saved)
    (progress : Progress ω) : advance setup progress move = progress := by
  rw [advance, begins_apart apart]

theorem advance_turn {loaded : Except Fault (Option String)} {saved : Except Fault Unit} (here : loop.point = .head)
    (on : PoweredOn loop.sys.bus) (progress : Progress ω) :
    advance setup progress ⟨loop, .turn loaded saved, events, after⟩ =
      ⟨progress.done ++ [⟨progress.waiting, pending loop⟩], result setup ⟨loop, .turn loaded saved, events, after⟩⟩ := by
  have some : begins (⟨loop, .turn loaded saved, events, after⟩ : LoopMove ω) = some (pending loop) := if_pos ⟨here, on⟩
  rw [advance, some]

/-- What waits on the buses at a point of a run. -/
def Waits (waiting : ISR) (loop : Loop ω) : Prop :=
  match loop.point with
  | .head => (∃ bus, Quiet bus ∧ loop.sys.bus = deliver waiting bus) ∨ ¬ PoweredOn loop.sys.bus
  | .serviced isr => Quiet loop.sys.bus ∧ waiting = isr
  | .done => True
  | .failed _ => True
  | _ => Quiet loop.sys.bus ∧ waiting.cpuLevel = none

theorem service_waits {isr : ISR} (quiet : Quiet loop.sys.bus) (ran : loop.service setup isr = some (after, events)) :
    Waits isr after := by
  have unasked {request : ISR} (none : request.cpuLevel = none) :
      ∃ bus, Quiet bus ∧ loop.sys.bus = deliver request bus := by
    refine ⟨loop.sys.bus, quiet, ?_⟩
    rw [deliver, none]
  unfold service at ran
  split at ran
  next =>
    unfold Loop.load at ran
    split at ran
    next =>
      cases ran
      exact ⟨quiet, rfl⟩
    next =>
      cases ran
      exact .inl (unasked rfl)
  next =>
    unfold Loop.save at ran
    split at ran
    next =>
      split at ran
      next =>
        cases ran
        exact ⟨quiet, rfl⟩
      next => cases ran
      next =>
        cases ran
        exact .inl (unasked rfl)
      next =>
        cases ran
        trivial
    next =>
      cases ran
      exact .inl (unasked rfl)
  next =>
    cases ran
    exact ⟨quiet, rfl⟩
  next =>
    cases ran
    exact ⟨quiet, rfl⟩
  next isr _ _ _ _ =>
    split at ran
    next level request =>
      cases ran
      refine .inl ⟨loop.sys.bus, quiet, ?_⟩
      rw [deliver, request]
      rfl
    next none =>
      cases ran
      exact .inl (unasked none)

theorem pending_on (on : PoweredOn loop.sys.bus) : pending loop = loop.sys := by
  have kept : ∀ lanes : BitVec 8, lanes.getLsbD Signal.powerOff.lane = false →
      lanes &&& ~~~(1#8 <<< Signal.powerOff.lane) = lanes := by decide
  rw [pending, ControlBus.receive, kept _ on]

theorem pending_interrupted {waiting : ISR} (waits : Waits waiting loop) (here : loop.point = .head)
    (on : PoweredOn loop.sys.bus) : ∃ bus, Quiet bus ∧ pending loop = interrupted waiting { loop.sys with bus } := by
  unfold Waits at waits
  rw [here] at waits
  obtain ⟨bus, quiet, same⟩ := waits.resolve_right fun off => off on
  refine ⟨bus, quiet, ?_⟩
  rw [pending_on on, interrupted, ← same]

section Points
variable {waiting : ISR}

theorem waits_head (there : after.point = .head) {bus : SystemBus} (quiet : Quiet bus)
    (same : after.sys.bus = deliver waiting bus) : Waits waiting after := by
  unfold Waits
  rw [there]
  exact .inl ⟨bus, quiet, same⟩

theorem waits_failed {fault : Fault} (there : after.point = .failed fault) : Waits waiting after := by
  unfold Waits
  rw [there]
  trivial

theorem Waits.beside (waits : Waits waiting loop) (there : after.point = loop.point) (bus : after.sys.bus = loop.sys.bus) :
    Waits waiting after := by
  unfold Waits at waits ⊢
  rw [there, bus]
  exact waits

theorem Waits.collecting (waits : Waits waiting loop)
    (here : loop.point ∈ [.startedLoad, .startedSave, .reapLoad, .reapSave, .quitLoad, .quitSave]) :
    Quiet loop.sys.bus ∧ loop.sys.bus = deliver waiting loop.sys.bus ∧ waiting.cpuLevel = none := by
  have idle : Quiet loop.sys.bus ∧ waiting.cpuLevel = none := by
    unfold Waits at waits
    simp only [List.mem_cons, List.not_mem_nil, or_false] at here
    rcases here with here | here | here | here | here | here
    all_goals
      rw [here] at waits
      exact waits
  refine ⟨idle.1, ?_, idle.2⟩
  rw [deliver, idle.2]

/-- Away from the condition of the loop, what waits is put on the buses on the way back to it. -/
theorem turn_waits {loaded : Except Fault (Option String)} {saved : Except Fault Unit} (waits : Waits waiting loop)
    (away : loop.point ≠ .head) (moved : Loop.step setup (.turn loaded saved) loop = some (after, events)) :
      Waits waiting after := by
  have serviced {isr : ISR} (here : loop.point = .serviced isr) : Waits waiting after := by
    simp only [Loop.step, Loop.turn, here] at moved
    unfold Waits at waits
    rw [here] at waits
    obtain ⟨quiet, rfl⟩ := waits
    exact service_waits quiet moved
  cases Requests.step_advances moved with
  | failed there on => exact waits_failed there
  | beside there bus load save silent => exact waits.beside there bus
  | ended here off there silent bus load save => exact absurd here away
  | passed here on carried there => exact absurd here away
  | serviced isr here bus there => exact serviced here
  | raised isr level here request there bus => exact serviced here
  | collected here there bus =>
    have points : loop.point ∈ [.startedLoad, .startedSave, .reapLoad, .reapSave, .quitLoad, .quitSave] :=
      List.mem_append_left [Point.quitLoad, Point.quitSave] here
    obtain ⟨quiet, same, none⟩ := waits.collecting points
    rcases there with head | reap
    · exact waits_head head quiet (bus.trans same)
    · unfold Waits
      rw [reap, bus]
      exact ⟨quiet, none⟩
  | quitLoad here there bus load =>
    obtain ⟨quiet, -, none⟩ := waits.collecting (by simp [here])
    unfold Waits
    rw [there, bus]
    exact ⟨quiet, none⟩
  | quitSave here there bus load save =>
    unfold Waits
    rw [there, bus]
    exact .inr (sent_powerOff loop.sys.bus)

end Points

theorem step_waits {choice : Choice ω} {progress : Progress ω} (waits : Waits progress.waiting loop)
    (moved : Loop.step setup choice loop = some (after, events)) :
    Waits (advance setup progress ⟨loop, choice, events, after⟩).waiting after := by
  rcases step_calls moved with ⟨here, ⟨loaded, saved, rfl⟩, pass⟩ | ⟨apart, -⟩
  · by_cases on : PoweredOn loop.sys.bus
    · obtain ⟨bus, quiet, begun⟩ := pending_interrupted waits here on
      have clear {ticks : Byte} {sys : System ω} (ran : execute setup.wiring (pending loop) = .ok ticks sys) :
          Quiet sys.bus := by
        rw [begun, wiring_eq] at ran
        exact execute_quiet quiet ran
      rw [advance_turn here on]
      dsimp only
      unfold result
      dsimp only
      generalize calls setup (.turn loaded saved) loop = made at pass
      cases pass with
      | off off => exact absurd on off
      | failed on ran only => trivial
      | counted on ran ticked early only =>
        have quiet := clear ran
        rw [served_transfers only]
        exact waits_head here quiet rfl
      | serviced on ran ticked due called only =>
        have quiet := clear ran
        rw [served_last only]
        exact ⟨quiet, rfl⟩
      | threw on ran ticked due called only => trivial
    · generalize calls setup (.turn loaded saved) loop = made at pass
      cases pass with
      | off off => trivial
      | failed on' => exact absurd on' on
      | counted on' => exact absurd on' on
      | serviced on' => exact absurd on' on
      | threw on' => exact absurd on' on
  · rw [advance_apart apart]
    cases Requests.step_taken moved with
    | turn ran => exact turn_waits waits (apart.resolve_right fun other => other _ _ rfl) ran
    | loaded => exact waits.beside rfl rfl
    | saved => exact waits.beside rfl rfl
    | outside => exact waits.beside rfl rfl

theorem run_delivered (quiet : Quiet start.sys.bus) (here : start.point = .head)
    (run : Run (recorded (Loop.step setup)) start moves loop) :
    Waits (progress setup moves).waiting loop ∧ ∀ e ∈ executions setup moves, Delivered setup e := by
  refine run.invariant (fun moves loop => Waits (progress setup moves).waiting loop ∧ ∀ e ∈ executions setup moves,
    Delivered setup e)
    ⟨waits_head here quiet rfl, List.forall_mem_nil _⟩ ?_
  intro moves loop choice after added ⟨waits, before⟩ moved
  obtain ⟨events, stepped, rfl⟩ := recorded_some moved
  unfold executions at before ⊢
  rw [progress_append]
  refine ⟨step_waits waits stepped, ?_⟩
  rcases step_calls stepped with ⟨head, ⟨loaded, saved, rfl⟩, -⟩ | ⟨apart, -⟩
  · by_cases on : PoweredOn loop.sys.bus
    · obtain ⟨bus, clear, begun⟩ := pending_interrupted waits head on
      rw [advance_turn head on, begun]
      exact List.forall_mem_append.mpr ⟨before, List.forall_mem_singleton.mpr (delivered_interrupted clear)⟩
    · have none : begins (⟨loop, .turn loaded saved, events, after⟩ : LoopMove ω) = none := if_neg fun both => on both.2
      rw [advance, none]
      exact before
  · rw [advance_apart apart]
    exact before

end Runs

section Links
variable {loop after start : Loop ω} {events : List (Event ω)} {moves : List (LoopMove ω)} {choice : Choice ω}
  {first last : System ω} {done more : List (Execution ω)} {e : Execution ω}

/-- What the execution with this number follows: the beginning, or the outcome of the one before. -/
def predecessor (setup : Setup ω) (first : System ω) (done : List (Execution ω)) : Nat → Option (System ω)
  | 0 => some first
  | k + 1 => (done[k]?).bind fun e =>
    match execute setup.wiring e.system with
    | .ok _ after => some after
    | .error _ _ => none

/-- Each execution follows one that returned, and begins on clear lanes but for its interrupt. -/
def Linked (setup : Setup ω) (first : System ω) (done : List (Execution ω)) : Prop :=
  ∀ k e, done[k]? = some e → (∃ last, predecessor setup first done k = some last) ∧
    ∃ bus, Quiet bus ∧ e.system = interrupted e.isr { e.system with bus }

def Kept (setup : Setup ω) (first : System ω) (done : List (Execution ω)) : Prop :=
  ∀ k e last, done[k]? = some e → predecessor setup first done k = some last → e.system.cpu = last.cpu

theorem predecessor_append {k : Nat} (inside : k ≤ done.length) :
    predecessor setup first (done ++ more) k = predecessor setup first done k := by
  cases k with
  | zero => rfl
  | succ k => rw [predecessor, predecessor, List.getElem?_append_left inside]

theorem predecessor_last {ticks : Byte} (ran : execute setup.wiring e.system = .ok ticks last) :
    predecessor setup first (done ++ [e]) (done ++ [e]).length = some last := by
  rw [List.length_append, List.length_singleton, predecessor, List.getElem?_concat_length, Option.bind_some, ran]

theorem predecessor_succ {k : Nat} (before : predecessor setup first done (k + 1) = some last) :
    ∃ e ticks, done[k]? = some e ∧ execute setup.wiring e.system = .ok ticks last := by
  obtain ⟨e, found, outcome⟩ := Option.bind_eq_some_iff.mp before
  split at outcome
  next ticks after ran =>
    cases outcome
    exact ⟨e, ticks, found, ran⟩
  next => cases outcome

theorem found_append {k : Nat} {other : Execution ω} (found : (done ++ [e])[k]? = some other) :
    k = done.length ∧ other = e ∨ k < done.length ∧ done[k]? = some other := by
  rcases Nat.lt_trichotomy k done.length with inside | rfl | outside
  · rw [List.getElem?_append_left inside] at found
    exact .inr ⟨inside, found⟩
  · rw [List.getElem?_concat_length] at found
    cases found
    exact .inl ⟨rfl, rfl⟩
  · rw [List.getElem?_eq_none (by simp; omega)] at found
    cases found

theorem Linked.append (linked : Linked setup first done) (before : predecessor setup first done done.length = some last)
    {bus : SystemBus} (quiet : Quiet bus) (begun : e.system = interrupted e.isr { e.system with bus }) :
    Linked setup first (done ++ [e]) := by
  intro k other found
  rcases found_append found with ⟨rfl, rfl⟩ | ⟨inside, found⟩
  · rw [predecessor_append (Nat.le_refl _)]
    exact ⟨⟨last, before⟩, bus, quiet, begun⟩
  · rw [predecessor_append (Nat.le_of_lt inside)]
    exact linked k other found

theorem Kept.append (kept : Kept setup first done)
    (registers : ∀ last, predecessor setup first done done.length = some last → e.system.cpu = last.cpu) :
    Kept setup first (done ++ [e]) := by
  intro k other last found before
  rcases found_append found with ⟨rfl, rfl⟩ | ⟨inside, found⟩
  · rw [predecessor_append (Nat.le_refl _)] at before
    exact registers last before
  · rw [predecessor_append (Nat.le_of_lt inside)] at before
    exact kept k other last found before

/-- A move without an execution, or with one that returns or ends the run. -/
theorem step_begins (moved : Loop.step setup choice loop = some (after, events)) :
    begins (⟨loop, choice, events, after⟩ : LoopMove ω) = none ∨
      begins (⟨loop, choice, events, after⟩ : LoopMove ω) = some (pending loop) ∧
        ((∃ ticks last, execute setup.wiring (pending loop) = .ok ticks last ∧ after.sys.cpu = last.cpu) ∨
          ∃ fault, after.point = .failed fault) := by
  rcases step_calls moved with ⟨here, ⟨loaded, saved, rfl⟩, pass⟩ | ⟨apart, -⟩
  · have begun (on : PoweredOn loop.sys.bus) :
        begins (⟨loop, .turn loaded saved, events, after⟩ : LoopMove ω) = some (pending loop) := if_pos ⟨here, on⟩
    generalize calls setup (.turn loaded saved) loop = made at pass
    cases pass with
    | off off => exact .inl (if_neg fun both => off both.2)
    | failed on ran only => exact .inr ⟨begun on, .inr ⟨_, rfl⟩⟩
    | counted on ran ticked early only => exact .inr ⟨begun on, .inl ⟨_, _, ran, rfl⟩⟩
    | serviced on ran ticked due called only => exact .inr ⟨begun on, .inl ⟨_, _, ran, rfl⟩⟩
    | threw on ran ticked due called only => exact .inr ⟨begun on, .inr ⟨_, rfl⟩⟩
  · exact .inl (begins_apart apart)

theorem executions_none {move : LoopMove ω} (none : begins move = none) :
    executions setup (moves ++ [move]) = executions setup moves := by
  rw [executions, progress_append, advance, none, executions]

theorem executions_some {move : LoopMove ω} {system : System ω} (begun : begins move = some system) :
    executions setup (moves ++ [move]) = executions setup moves ++ [⟨(progress setup moves).waiting, system⟩] := by
  rw [executions, progress_append, advance, begun, executions]

structure Ongoing (setup : Setup ω) (first : System ω) (moves : List (LoopMove ω)) (loop : Loop ω) : Prop where
  waits : Waits (progress setup moves).waiting loop
  linked : Linked setup first (executions setup moves)
  last : (∃ last, predecessor setup first (executions setup moves) (executions setup moves).length = some last) ∨
    ∃ fault, loop.point = .failed fault

theorem Ongoing.step (ongoing : Ongoing setup first moves loop)
    (moved : Loop.step setup choice loop = some (after, events)) :
    Ongoing setup first (moves ++ [⟨loop, choice, events, after⟩]) after := by
  obtain ⟨waits, linked, position⟩ := ongoing
  have waits' := step_waits waits moved
  rw [← progress_append] at waits'
  rcases step_begins moved with none | ⟨begun, outcome⟩
  · have same : executions setup (moves ++ [⟨loop, choice, events, after⟩]) = executions setup moves := executions_none none
    refine ⟨waits', same ▸ linked, ?_⟩
    rw [same]
    exact position.imp_right fun ⟨fault, failed⟩ => ⟨fault, Requests.step_failed failed moved⟩
  · obtain ⟨head, on⟩ := begins_some begun
    dsimp only at head on
    obtain ⟨bus, clear, pended⟩ := pending_interrupted waits head on
    obtain ⟨last, before⟩ := position.resolve_right fun ⟨fault, failed⟩ => by
      rw [head] at failed
      cases failed
    have resumed : pending loop = interrupted (progress setup moves).waiting { pending loop with bus } := pended
    refine ⟨waits', ?_, ?_⟩
    · rw [executions_some begun]
      exact linked.append before clear resumed
    · rw [executions_some begun]
      exact outcome.imp_left fun ⟨ticks, final, ran, _⟩ => ⟨final, predecessor_last ran⟩

theorem run_ongoing (quiet : Quiet start.sys.bus) (here : start.point = .head)
    (run : Run (recorded (Loop.step setup)) start moves loop) : Ongoing setup start.sys moves loop := by
  refine run.invariant (fun moves loop => Ongoing setup start.sys moves loop)
    ⟨waits_head here quiet rfl, nofun, .inl ⟨start.sys, rfl⟩⟩ ?_
  intro moves loop choice after added ongoing moved
  obtain ⟨events, stepped, rfl⟩ := recorded_some moved
  exact ongoing.step stepped

end Links

section Requests
variable {loop after start : Loop ω} {events : List (Event ω)} {moves : List (LoopMove ω)} {choice : Choice ω}
  {first : System ω}

def Unrequested (setup : Setup ω) (moves : List (LoopMove ω)) : Prop :=
  ∀ move ∈ moves, result setup move ≠ .load ∧ result setup move ≠ .save

structure Unhandled (loop : Loop ω) : Prop where
  onLoad : loop.onLoad = .invalid
  onSave : loop.onSave = .invalid
  point : loop.point ∉ [.serviced .load, .serviced .save, .startedLoad, .startedSave]

theorem turn_unhandled {loaded : Except Fault (Option String)} {saved : Except Fault Unit} (unhandled : Unhandled loop)
    (away : loop.point ≠ .head) (moved : Loop.step setup (.turn loaded saved) loop = some (after, events)) :
    Unhandled after ∧ after.sys.cpu = loop.sys.cpu := by
  obtain ⟨onLoad, onSave, point⟩ := unhandled
  unfold Loop.step Loop.turn at moved
  dsimp only at moved
  split at moved
  next here => exact absurd here away
  next isr here =>
    unfold service at moved
    split at moved
    next => exact absurd (by simp [here]) point
    next => exact absurd (by simp [here]) point
    next =>
      cases moved
      exact ⟨⟨onLoad, onSave, by simp [goto]⟩, rfl⟩
    next =>
      cases moved
      exact ⟨⟨onLoad, onSave, by simp [goto]⟩, rfl⟩
    next =>
      split at moved
      next =>
        cases moved
        exact ⟨⟨onLoad, onSave, by simp [finish]⟩, rfl⟩
      next =>
        cases moved
        exact ⟨⟨onLoad, onSave, by simp [finish]⟩, rfl⟩
  next here => exact absurd (by simp [here]) point
  next here => exact absurd (by simp [here]) point
  next =>
    rw [checkLoad, onLoad] at moved
    cases moved
    exact ⟨⟨rfl, onSave, by simp [goto]⟩, rfl⟩
  next =>
    rw [checkSave, onSave] at moved
    cases moved
    exact ⟨⟨onLoad, rfl, by simp [Loop.discard, finish]⟩, rfl⟩
  next =>
    rw [quitLoad, onLoad] at moved
    cases moved
    exact ⟨⟨onLoad, onSave, by simp [goto]⟩, rfl⟩
  next =>
    rw [quitSave, onSave] at moved
    cases moved
    exact ⟨⟨onLoad, onSave, by simp [powerOff, finish]⟩, rfl⟩
  next => cases moved
  next => cases moved

theorem step_unhandled (unhandled : Unhandled loop)
    (unrequested : result setup ⟨loop, choice, events, after⟩ ≠ .load ∧ result setup ⟨loop, choice, events, after⟩ ≠ .save)
    (moved : Loop.step setup choice loop = some (after, events)) :
    Unhandled after ∧ (begins (⟨loop, choice, events, after⟩ : LoopMove ω) = none → after.sys.cpu = loop.sys.cpu) := by
  rcases step_calls moved with ⟨here, ⟨loaded, saved, rfl⟩, pass⟩ | ⟨apart, -⟩
  · obtain ⟨onLoad, onSave, point⟩ := unhandled
    unfold result at unrequested
    dsimp only at unrequested
    generalize calls setup (.turn loaded saved) loop = made at pass unrequested
    have awake (on : PoweredOn loop.sys.bus) : begins (⟨loop, .turn loaded saved, events, after⟩ : LoopMove ω) ≠ none := by
      rw [show begins (⟨loop, .turn loaded saved, events, after⟩ : LoopMove ω) = some (pending loop) from if_pos ⟨here, on⟩]
      exact Option.some_ne_none _
    cases pass with
    | off off => exact ⟨⟨onLoad, onSave, by simp [goto]⟩, fun _ => rfl⟩
    | failed on ran only => exact ⟨⟨onLoad, onSave, by simp [fail, goto]⟩, fun none => absurd none (awake on)⟩
    | counted on ran ticked early only => exact ⟨⟨onLoad, onSave, point⟩, fun none => absurd none (awake on)⟩
    | @serviced ticks sys clock host isr world transfers on ran ticked due called only =>
      rw [served_last only] at unrequested
      have notLoad : isr ≠ .load := unrequested.1
      have notSave : isr ≠ .save := unrequested.2
      exact ⟨⟨onLoad, onSave, by simp [goto, notLoad, notSave]⟩, fun none => absurd none (awake on)⟩
    | threw on ran ticked due called only =>
      exact ⟨⟨onLoad, onSave, by simp [fail, goto]⟩, fun none => absurd none (awake on)⟩
  · cases Requests.step_taken moved with
    | turn ran =>
      obtain ⟨still, cpu⟩ := turn_unhandled unhandled (apart.resolve_right fun other => other _ _ rfl) ran
      exact ⟨still, fun _ => cpu⟩
    | loaded running =>
      rw [unhandled.onLoad] at running
      cases running
    | saved running =>
      rw [unhandled.onSave] at running
      cases running
    | outside => exact ⟨⟨unhandled.onLoad, unhandled.onSave, unhandled.point⟩, fun _ => rfl⟩

/-- A run in which nothing but the executions has touched the registers. -/
structure Undisturbed (setup : Setup ω) (first : System ω) (moves : List (LoopMove ω)) (loop : Loop ω) : Prop where
  unhandled : Unhandled loop
  kept : Kept setup first (executions setup moves)
  registers : (∀ last, predecessor setup first (executions setup moves) (executions setup moves).length = some last →
    loop.sys.cpu = last.cpu) ∨ ∃ fault, loop.point = .failed fault

theorem Undisturbed.step (undisturbed : Undisturbed setup first moves loop)
    (unrequested : result setup ⟨loop, choice, events, after⟩ ≠ .load ∧ result setup ⟨loop, choice, events, after⟩ ≠ .save)
    (moved : Loop.step setup choice loop = some (after, events)) :
    Undisturbed setup first (moves ++ [⟨loop, choice, events, after⟩]) after := by
  obtain ⟨unhandled, kept, registers⟩ := undisturbed
  obtain ⟨still, alone⟩ := step_unhandled unhandled unrequested moved
  rcases step_begins moved with none | ⟨begun, outcome⟩
  · have same : executions setup (moves ++ [⟨loop, choice, events, after⟩]) = executions setup moves := executions_none none
    refine ⟨still, same ▸ kept, ?_⟩
    rw [same]
    rcases registers with registers | ⟨fault, failed⟩
    · exact .inl fun last before => (alone none).trans (registers last before)
    · exact .inr ⟨fault, Requests.step_failed failed moved⟩
  · have head : loop.point = .head := (begins_some begun).1
    have live := registers.resolve_right fun ⟨fault, failed⟩ => by
      rw [head] at failed
      cases failed
    refine ⟨still, ?_, ?_⟩
    · rw [executions_some begun]
      exact kept.append live
    · rw [executions_some begun]
      rcases outcome with ⟨ticks, final, ran, cpu⟩ | failed
      · refine .inl fun last before => ?_
        rw [predecessor_last (e := ⟨(progress setup moves).waiting, pending loop⟩) ran] at before
        obtain rfl := Option.some.inj before
        exact cpu
      · exact .inr failed

theorem run_undisturbed (unhandled : Unhandled start) (run : Run (recorded (Loop.step setup)) start moves loop)
    (unrequested : Unrequested setup moves) : Undisturbed setup start.sys moves loop := by
  have along : Unrequested setup moves → Undisturbed setup start.sys moves loop := by
    refine run.invariant (fun moves loop => Unrequested setup moves → Undisturbed setup start.sys moves loop) ?_ ?_
    · intro _
      refine ⟨unhandled, nofun, .inl fun last same => ?_⟩
      obtain rfl := Option.some.inj same
      rfl
    · intro moves loop choice after added before moved unrequested
      obtain ⟨events, stepped, rfl⟩ := recorded_some moved
      obtain ⟨earlier, now⟩ := List.forall_mem_append.mp unrequested
      exact (before earlier).step (now _ (List.mem_singleton_self _)) stepped
  exact along unrequested

end Requests

section Pairs
variable {ν : Type} {R : ω → ν → Prop} {other : Setup ν} {first : System ω} {second : System ν} {done : List (Execution ω)}
  {more : List (Execution ν)} {e : Execution ω} {d : Execution ν}

/-- The interrupts differ at most where the flip-flop is clear. -/
def Masks (done : List (Execution ω)) (more : List (Execution ν)) : Prop :=
  ∀ (k : Nat) (e : Execution ω) (d : Execution ν), done[k]? = some e → more[k]? = some d →
    e.isr.cpuLevel = d.isr.cpuLevel ∨ e.system.cpu.iff = false

/-- Where two runs have come equally far and match, what goes on before the next executions lets them match again. -/
def Together (R : ω → ν → Prop) (setup : Setup ω) (first : System ω) (done : List (Execution ω)) (other : Setup ν)
    (second : System ν) (more : List (Execution ν)) : Prop :=
  ∀ k e d last last', done[k]? = some e → more[k]? = some d → predecessor setup first done k = some last →
    predecessor other second more k = some last' → visible last.cpu = visible last'.cpu → R last.world last'.world →
    visible e.system.cpu = visible d.system.cpu ∧ R e.system.world d.system.world

/-- Two executions that begin on systems that match, but for the interrupts. -/
def Abreast (R : ω → ν → Prop) (e : Execution ω) (d : Execution ν) : Prop :=
  ∃ s t, Facing R s t ∧ e.system = interrupted e.isr s ∧ d.system = interrupted d.isr t

theorem abreast_matches (devices : Devices R setup other) (abreast : Abreast R e d)
    (masks : e.isr.cpuLevel = d.isr.cpuLevel ∨ e.system.cpu.iff = false) :
    Matches R (observe (execute setup.wiring e.system)) (observe (execute other.wiring d.system)) := by
  obtain ⟨s, t, facing, first, second⟩ := abreast
  have flag : e.system.cpu.iff = s.cpu.iff := by rw [first]; rfl
  rw [flag] at masks
  rw [first, second]
  exact execute_matches devices facing masks

theorem abreast_of {k : Nat} (linked : Linked setup first done) (linked' : Linked other second more)
    (together : Together R setup first done other second more) (found : done[k]? = some e) (found' : more[k]? = some d)
    (alike : ∀ last last', predecessor setup first done k = some last → predecessor other second more k = some last' →
      visible last.cpu = visible last'.cpu ∧ R last.world last'.world) : Abreast R e d := by
  obtain ⟨⟨last, before⟩, bus, quiet, begun⟩ := linked k e found
  obtain ⟨⟨last', before'⟩, bus', quiet', begun'⟩ := linked' k d found'
  obtain ⟨cpu, world⟩ := alike last last' before before'
  obtain ⟨registers, worlds⟩ := together k e d last last' found found' before before' cpu world
  exact ⟨{ e.system with bus }, { d.system with bus := bus' }, ⟨registers, worlds, quiet, quiet'⟩, begun, begun'⟩

/-- As long as the interrupts that differ are masked, two runs stay abreast. -/
theorem linked_abreast (devices : Devices R setup other) (linked : Linked setup first done)
    (linked' : Linked other second more)
    (cpu : visible first.cpu = visible second.cpu) (world : R first.world second.world)
    (together : Together R setup first done other second more) (masks : Masks done more) {k : Nat}
    (found : done[k]? = some e) (found' : more[k]? = some d) : Abreast R e d := by
  induction k generalizing e d with
  | zero =>
    refine abreast_of linked linked' together found found' ?_
    intro last last' before before'
    obtain rfl := Option.some.inj before
    obtain rfl := Option.some.inj before'
    exact ⟨cpu, world⟩
  | succ k ih =>
    refine abreast_of linked linked' together found found' ?_
    intro last last' before before'
    obtain ⟨e, ticks, found, ran⟩ := predecessor_succ before
    obtain ⟨d, ticks', found', ran'⟩ := predecessor_succ before'
    have same := abreast_matches devices (ih found found') (masks k e d found found')
    rw [ran, ran'] at same
    exact ⟨same.cpu, same.world⟩

def shown (setup : Setup ω) (s : System ω) : Observation (Listened ω) :=
  observe (execute (listening setup).wiring { s with world := (s.world, []) })

theorem abreast_shown (devices : Devices R setup other) (abreast : Abreast R e d)
    (masks : e.isr.cpuLevel = d.isr.cpuLevel ∨ e.system.cpu.iff = false) :
    Matches (Hearing R) (shown setup e.system) (shown other d.system) := by
  obtain ⟨s, t, facing, first, second⟩ := abreast
  have flag : e.system.cpu.iff = s.cpu.iff := by rw [first]; rfl
  have heard : Facing (Hearing R) { s with world := (s.world, []) } { t with world := (t.world, []) } :=
    ⟨facing.cpu, ⟨facing.world, rfl⟩, facing.quiet⟩
  rw [flag] at masks
  have same : Matches (Hearing R)
      (observe (execute (listening setup).wiring (interrupted e.isr { s with world := (s.world, []) })))
      (observe (execute (listening other).wiring (interrupted d.isr { t with world := (t.world, []) }))) :=
    execute_matches devices.listening heard masks
  rw [shown, shown, first, second]
  exact same

end Pairs

section Entries
open Lifecycle
variable {lib lib' : Libraries} {build build' : Build} {other : Setup ω} {start start' loop loop' : Loop ω}
  {moves moves' : List (LoopMove ω)}

/-- Two runs on controllers that answer alike, with the same registers and related worlds
at the beginning and whenever something else has happened in between. -/
theorem runs_shown {ν : Type} {R : ω → ν → Prop} {other : Setup ν} {start' loop' : Loop ν} {moves' : List (LoopMove ν)}
    (entered : Entered lib build setup start) (run : Run (recorded (Loop.step setup)) start moves loop)
    (entered' : Entered lib' build' other start') (run' : Run (recorded (Loop.step other)) start' moves' loop')
    (devices : Devices R setup other) (cpu : visible start.sys.cpu = visible start'.sys.cpu)
    (world : R start.sys.world start'.sys.world)
    (together : Together R setup start.sys (executions setup moves) other start'.sys (executions other moves'))
    (masks : Masks (executions setup moves) (executions other moves')) {k : Nat} {e : Execution ω} {d : Execution ν}
    (found : (executions setup moves)[k]? = some e) (found' : (executions other moves')[k]? = some d) :
    Abreast R e d ∧ Matches (Hearing R) (shown setup e.system) (shown other d.system) := by
  obtain ⟨quiet, head, -, -⟩ := entered.begins
  obtain ⟨quiet', head', -, -⟩ := entered'.begins
  have linked := (run_ongoing quiet head run).linked
  have linked' := (run_ongoing quiet' head' run').linked
  have abreast := linked_abreast devices linked linked' cpu world together masks found found'
  exact ⟨abreast, abreast_shown devices abreast (masks k e d found found')⟩

/-- Two setups whose controllers differ at most in `ServiceInterrupts`. -/
structure SameDevices (setup other : Setup ω) : Prop where
  build : setup.build = other.build
  memory : setup.memoryController.read = other.memoryController.read ∧
    setup.memoryController.write = other.memoryController.write
  io : setup.ioController.read = other.ioController.read ∧ setup.ioController.write = other.ioController.write

theorem SameDevices.devices (same : SameDevices setup other) : Devices (· = ·) setup other where
  build := same.build
  reads device addr := by
    cases device with
    | memory => exact Simulates.of_eq (congrFun same.memory.1 addr)
    | io => exact Simulates.of_eq (congrFun same.io.1 addr)
  writes device addr value := by
    cases device with
    | memory => exact Simulates.of_eq (congrFun (congrFun same.memory.2 addr) value)
    | io => exact Simulates.of_eq (congrFun (congrFun same.io.2 addr) value)

/-- Ahead of each execution the rest of the world does what `env` says. -/
def Surrounded (setup : Setup ω) (first : System ω) (env : Nat → ω → ω) (done : List (Execution ω)) : Prop :=
  ∀ k e last, done[k]? = some e → predecessor setup first done k = some last → e.system.world = env k last.world

/-- Where nothing is loaded or saved, the registers stay as they are between two executions. -/
theorem entered_kept (entered : Entered lib build setup start) (run : Run (recorded (Loop.step setup)) start moves loop)
    (unrequested : Unrequested setup moves) : Kept setup start.sys (executions setup moves) := by
  obtain ⟨-, head, onLoad, onSave⟩ := entered.begins
  exact (run_undisturbed ⟨onLoad, onSave, by simp [head]⟩ run unrequested).kept

theorem matches_eq {seen again : Observation (Listened ω)} (same : Matches (Hearing (· = ·)) seen again) :
    seen = again := by
  obtain ⟨ticks, cpu, world⟩ := seen
  obtain ⟨ticks', cpu', world'⟩ := again
  obtain ⟨rfl, rfl, worlds, calls⟩ := same
  obtain rfl : world = world' := Prod.ext worlds calls
  rfl

/-- Two runs on the same devices and from the same state. Nothing is loaded or saved, and
what goes on besides the machine is the same in both. -/
structure Comparable (setup other : Setup ω) (start start' : Loop ω) (moves moves' : List (LoopMove ω))
    (env : Nat → ω → ω) : Prop where
  devices : SameDevices setup other
  cpu : visible start.sys.cpu = visible start'.sys.cpu
  world : start.sys.world = start'.sys.world
  unrequested : Unrequested setup moves ∧ Unrequested other moves'
  surrounded : Surrounded setup start.sys env (executions setup moves) ∧
    Surrounded other start'.sys env (executions other moves')

/-- Each execution of a run consumes the result that was returned since the one before, and
a run with other results goes the same way as long as these find the flip-flop clear. -/
theorem run_delivers (entered : Entered lib build setup start) (run : Run (recorded (Loop.step setup)) start moves loop) :
    (∀ e ∈ executions setup moves, Delivered setup e) ∧
    ∀ {lib' : Libraries} {build' : Build} {other : Setup ω} {start' loop' : Loop ω} {moves' : List (LoopMove ω)}
    {env : Nat → ω → ω},
      Entered lib' build' other start' → Run (recorded (Loop.step other)) start' moves' loop' →
      Comparable setup other start start' moves moves' env → Masks (executions setup moves) (executions other moves') →
      ∀ (k : Nat) (e d : Execution ω), (executions setup moves)[k]? = some e → (executions other moves')[k]? = some d →
        shown setup e.system = shown other d.system := by
  obtain ⟨quiet, head, -, -⟩ := entered.begins
  refine ⟨(run_delivered quiet head run).2, ?_⟩
  intro lib' build' other start' loop' moves' env entered' run' comparable masks k e d found found'
  obtain ⟨devices, cpu, world, ⟨unrequested, unrequested'⟩, surrounded, surrounded'⟩ := comparable
  have kept := entered_kept entered run unrequested
  have kept' := entered_kept entered' run' unrequested'
  have together : Together (· = ·) setup start.sys (executions setup moves) other start'.sys (executions other moves') := by
    intro k e d last last' found found' before before' cpu world
    constructor
    · rw [kept k e last found before, kept' k d last' found' before', cpu]
    · rw [surrounded k e last found before, surrounded' k d last' found' before', world]
  obtain ⟨-, same⟩ := runs_shown entered run entered' run' devices.devices cpu world together masks found found'
  exact matches_eq same

end Entries

section Session
open Lifecycle

def asking (isr : ISR) : IController Unit where
  read _ := return 0
  write _ _ := return ()
  serviceInterrupts _ cycles := return if cycles = 4 then isr else .quit

def askingCalls (isr : ISR) : List (Machine.Call Unit) :=
  [.setMemoryController (some (quitter (return 0))), .setIoController (some (asking isr))]

def askingSetup (isr : ISR) : Setup Unit where
  lib := sessionLibraries
  build := ⟨true, false⟩
  opt := ⟨.object [("clockResolution", .integer (-1)), ("compressor", .string "none"), ("cpu", .string "i8080"),
    ("encoder", .string "base64"), ("isrFreq", .integer 0), ("loadAsync", .bool false),
    ("ram", .object [("block", .array [.object [("offset", .integer 0), ("size", .integer 0)]])]),
    ("rom", .object [("file", .array [.object [("offset", .integer 0), ("size", .integer 0)]])]),
    ("runAsync", .bool false), ("saveAsync", .bool false)]⟩
  memoryController := quitter (return 0)
  ioController := asking isr
  ticksPerIsr := 0
  onLoad := false
  onSave := false

def askingStart : Loop Unit where
  sys := { world := () }
  clock := CpuClock.make 2000000 1
  host := ⟨0, [1, 2], []⟩

theorem asking_entered : Entered sessionLibraries ⟨true, false⟩ (askingSetup .three) askingStart ∧
    Entered sessionLibraries ⟨true, false⟩ (askingSetup .noInterrupt) askingStart := by
  have raised : enter sessionLibraries ⟨true, false⟩ () (askingCalls .three) 0 [1, 2] = some
      (askingSetup .three, askingStart) := by
    with_unfolding_all rfl
  have silent : enter sessionLibraries ⟨true, false⟩ () (askingCalls .noInterrupt) 0 [1, 2] =
      some (askingSetup .noInterrupt, askingStart) := by
    with_unfolding_all rfl
  exact ⟨enter_entered raised, enter_entered silent⟩

def askingRun (isr : ISR) (turns : Nat) : Option (List ISR × List ISR × List Bool) :=
  (Traces.run (recorded (Loop.step (askingSetup isr)))
    (List.replicate turns (.turn (.ok none) (.ok ()))) askingStart).map fun out =>
    (out.2.map (result (askingSetup isr)), (executions (askingSetup isr) out.2).map Execution.isr,
      (executions (askingSetup isr) out.2).map fun e => e.system.cpu.iff)

theorem asking_runs {isr : ISR} {turns : Nat} {asked interrupts : List ISR} {flags : List Bool}
    (ran : askingRun isr turns = some (asked, interrupts, flags)) :
    ∃ moves loop, Run (recorded (Loop.step (askingSetup isr))) askingStart moves loop ∧
      moves.map (result (askingSetup isr)) = asked ∧ (executions (askingSetup isr) moves).map Execution.isr = interrupts ∧
      (executions (askingSetup isr) moves).map (fun e => e.system.cpu.iff) = flags := by
  obtain ⟨⟨loop, moves⟩, moved, same⟩ := Option.map_eq_some_iff.mp ran
  simp only [Prod.mk.injEq] at same
  exact ⟨moves, loop, Run.of_run moved, same⟩

theorem unrequested_of {isr : ISR} {moves : List (LoopMove Unit)} {asked : List ISR}
    (same : moves.map (result (askingSetup isr)) = asked) (none : .load ∉ asked ∧ .save ∉ asked) :
    Unrequested (askingSetup isr) moves := by
  intro move member
  have among : result (askingSetup isr) move ∈ asked := same ▸ List.mem_map_of_mem member
  exact ⟨fun load => none.1 (load ▸ among), fun save => none.2 (save ▸ among)⟩

theorem masks_of {isr : ISR} {moves : List (LoopMove Unit)} {flags : List Bool} {more : List (Execution Unit)}
    (same : (executions (askingSetup isr) moves).map (fun e => e.system.cpu.iff) = flags)
    (clear : ∀ flag ∈ flags, flag = false) : Masks (executions (askingSetup isr) moves) more := by
  intro k e d found found'
  have among : e.system.cpu.iff ∈ flags := same ▸ List.mem_map_of_mem (List.mem_of_getElem? found)
  exact .inr (clear _ among)

/-- An interrupt that is masked makes no difference to the second instruction. -/
theorem run_delivers_masked :
    ∃ moves loop moves' loop', Run (recorded (Loop.step (askingSetup .three))) askingStart moves loop ∧
      Run (recorded (Loop.step (askingSetup .noInterrupt))) askingStart moves' loop' ∧
      (executions (askingSetup .three) moves).map Execution.isr = [.noInterrupt, .three] ∧
      (executions (askingSetup .noInterrupt) moves').map Execution.isr = [.noInterrupt, .noInterrupt] ∧
      (∀ e ∈ executions (askingSetup .three) moves, Delivered (askingSetup .three) e) ∧
      ∀ (k : Nat) (e d : Execution Unit), (executions (askingSetup .three) moves)[k]? = some e →
        (executions (askingSetup .noInterrupt) moves')[k]? = some d →
        shown (askingSetup .three) e.system = shown (askingSetup .noInterrupt) d.system := by
  obtain ⟨moves, loop, run, asked, interrupts, flags⟩ := asking_runs (by with_unfolding_all rfl : askingRun .three 7 =
    some ([.three, .noInterrupt, .quit, .noInterrupt, .noInterrupt, .noInterrupt, .noInterrupt],
      [.noInterrupt, .three], [false, false]))
  obtain ⟨moves', loop', run', asked', interrupts', flags'⟩ :=
    asking_runs (by with_unfolding_all rfl : askingRun .noInterrupt 9 =
    some ([.noInterrupt, .noInterrupt, .noInterrupt, .noInterrupt, .quit, .noInterrupt, .noInterrupt,
      .noInterrupt, .noInterrupt],
      [.noInterrupt, .noInterrupt], [false, false]))
  obtain ⟨raised, silent⟩ := asking_entered
  obtain ⟨delivered, same⟩ := run_delivers raised run
  refine ⟨moves, loop, moves', loop', run, run', interrupts, interrupts', delivered, ?_⟩
  have devices : SameDevices (askingSetup .three) (askingSetup .noInterrupt) := ⟨rfl, ⟨rfl, rfl⟩, ⟨rfl, rfl⟩⟩
  have comparable : Comparable (askingSetup .three)
      (askingSetup .noInterrupt) askingStart askingStart moves moves' fun _ => id :=
    ⟨devices, rfl, rfl, ⟨unrequested_of asked (by decide), unrequested_of asked' (by decide)⟩,
      ⟨fun _ _ _ _ _ => rfl, fun _ _ _ _ _ => rfl⟩⟩
  exact same silent run' comparable (masks_of flags (by simp))

end Session
end MachEmu.Proofs.Deliveries
