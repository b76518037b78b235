import MachEmu.Proofs.Boundaries

/-! The entry of an interrupt, and executions one after the other. An interrupt
number waits on the buses for the next execution, which takes it whether or not
the flip-flop is set. Nothing else on the buses reaches an execution. -/

namespace MachEmu.Proofs.Interrupts
open Intel8080 BusTransactions BusDiscipline Boundaries StatusByte

variable {ω : Type}

/-- The result of a service routine, put on the buses if it is an interrupt for the cpu. -/
def deliver (isr : ISR) (bus : SystemBus) : SystemBus :=
  match isr.cpuLevel with
  | some level => Machine.Loop.signal level bus
  | none => bus

def acknowledged (isr : ISR) (enabled : Bool) : Option Byte := if enabled then isr.cpuLevel else none

section Entry
variable (build : Build) (memory io : IController ω) (self : Intel8080) (addr : Word) (data : Byte) (world : ω)

theorem decSp_eq (w : Wiring ω) (s : System ω) :
    (decSp : CpuM ω Word) w s = .ok (s.cpu.sp - 1) { s with cpu := { s.cpu with sp := s.cpu.sp - 1 } } := by
  simp [pred_eq]

theorem dispatch_none_run :
    dispatch none (wiring build memory io) ⟨self, ⟨addr, data, 0#8⟩, world⟩ =
      match memory.read self.pc world with
      | .ok opcode world => switch { self with opcode } (wiring build memory io) ⟨{ self with opcode }, {}, world⟩
      | .error fault world => .error fault ⟨self, ⟨0#16, data, 0#8⟩, world⟩ := by
  simp only [dispatch, fetch, bind_run, cpu_run, readFromAddress_memory]
  cases memory.read self.pc world with
  | ok opcode world => simp
  | error fault world => rfl

/-- The program counter is stored below the stack pointer, high byte first. -/
theorem pushPcAndJump_run (location : Word) :
    pushPcAndJump location (wiring build memory io) ⟨self, ⟨addr, data, 0#8⟩, world⟩ =
      match memory.write (self.sp - 1) ((self.pc >>> 8).setWidth 8) world with
      | .error fault world => .error fault ⟨{ self with sp := self.sp - 1 }, {}, world⟩
      | .ok _ world =>
        match memory.write (self.sp - 1 - 1) (self.pc.setWidth 8) world with
        | .error fault world => .error fault ⟨{ self with sp := self.sp - 1 - 1 }, {}, world⟩
        | .ok _ world => .ok () ⟨{ self with sp := self.sp - 1 - 1, pc := location }, {}, world⟩ := by
  unfold pushPcAndJump
  rw [bind_run, decSp_eq]
  dsimp only
  rw [bind_run, cpu_run]
  dsimp only
  rw [bind_run, writeToAddress_memory]
  cases memory.write (self.sp - 1) ((self.pc >>> 8).setWidth 8) world with
  | error fault world => rfl
  | ok _ world =>
    dsimp only
    rw [bind_run, decSp_eq]
    dsimp only
    rw [bind_run, cpu_run]
    dsimp only
    rw [bind_run, writeToAddress_memory]
    cases memory.write (self.sp - 1 - 1) (self.pc.setWidth 8) world with
    | error fault world => rfl
    | ok _ world => rfl

theorem dispatch_some_run (level : Byte) :
    dispatch (some level) (wiring build memory io) ⟨self, ⟨addr, data, 0#8⟩, world⟩ =
      match memory.write (self.sp - 1) ((self.pc >>> 8).setWidth 8) world with
      | .error fault world => .error fault ⟨{ self with sp := self.sp - 1, opcode := 0xC7 ||| level <<< 3 }, {}, world⟩
      | .ok _ world =>
        match memory.write (self.sp - 1 - 1) (self.pc.setWidth 8) world with
        | .error fault world =>
          .error fault ⟨{ self with sp := self.sp - 1 - 1, opcode := 0xC7 ||| level <<< 3 }, {}, world⟩
        | .ok _ world =>
          .ok 11 ⟨{ self with
            sp := self.sp - 1 - 1
            pc := ((0xC7 ||| level <<< 3) &&& 0x38).setWidth 16
            opcode := 0xC7 ||| level <<< 3 }, {}, world⟩ := by
  simp only [dispatch, rstInterrupt]
  rw [bind_run, modifyCpu_run]
  dsimp only
  rw [bind_run, cpu_run]
  dsimp only
  rw [bind_run, pushPcAndJump_run]
  dsimp only
  cases memory.write (self.sp - 1) ((self.pc >>> 8).setWidth 8) world with
  | error fault world => rfl
  | ok _ world =>
    dsimp only
    cases memory.write (self.sp - 1 - 1) (self.pc.setWidth 8) world with
    | error fault world => rfl
    | ok _ world => rfl

theorem vector_eq : ∀ {isr : ISR} {level : Byte}, isr.cpuLevel = some level →
    ((0xC7#8 ||| level <<< 3) &&& 0x38#8).setWidth 16 = BitVec.ofNat 16 (8 * level.toNat) := by
  intro isr level request
  cases isr <;> cases request <;> rfl

end Entry

section Observations

/-- What an execution shows: the ticks or the fault, the registers and the world. The
opcode register is scratch, and so are the buses. -/
structure Observation (ω : Type) where
  ticks : Except Fault Byte
  cpu : Intel8080
  world : ω

def visible (cpu : Intel8080) : Intel8080 := { cpu with opcode := 0 }

def observe : EStateM.Result Fault (System ω) Byte → Observation ω
  | .ok ticks after => ⟨.ok ticks, visible after.cpu, after.world⟩
  | .error fault after => ⟨.error fault, visible after.cpu, after.world⟩

/-- The same execution, but for what a fault leaves in the scratch registers. -/
def Agrees (result other : EStateM.Result Fault (System ω) Byte) : Prop :=
  observe result = observe other ∧ ∀ ticks after, result = .ok ticks after → other = .ok ticks after

structure Alike (s t : System ω) : Prop where
  cpu : visible s.cpu = visible t.cpu
  world : s.world = t.world
  quiet : Quiet s.bus ∧ Quiet t.bus

variable {build : Build} {memory io : IController ω}

/-- The first transaction sets the buses, and the opcode register is written before it is read. -/
theorem dispatch_agrees (isr : Option Byte) {s t : System ω} (alike : Alike s t) :
    Agrees (dispatch isr (wiring build memory io) s) (dispatch isr (wiring build memory io) t) := by
  obtain ⟨⟨a, b, c, d, e, h, l, pc, sp, status, iff, opcode⟩, ⟨addr, data, control⟩, world⟩ := s
  obtain ⟨⟨a', b', c', d', e', h', l', pc', sp', status', iff', opcode'⟩, ⟨addr', data', control'⟩, world'⟩ := t
  obtain ⟨cpu, sameWorld, clear, clear'⟩ := alike
  obtain rfl : world = world' := sameWorld
  obtain rfl : control = 0#8 := clear
  obtain rfl : control' = 0#8 := clear'
  cases cpu
  cases isr with
  | none =>
    rw [dispatch_none_run, dispatch_none_run]
    dsimp only
    cases memory.read pc world with
    | ok opcode world => exact ⟨rfl, fun _ _ => id⟩
    | error fault world => exact ⟨rfl, nofun⟩
  | some level =>
    rw [dispatch_some_run, dispatch_some_run]
    exact ⟨rfl, fun _ _ => id⟩

end Observations

section Deliveries

def interrupted (isr : ISR) (s : System ω) : System ω := { s with bus := deliver isr s.bus }

/-- The number leaves the buses with the first execution. It is acknowledged where the
flip-flop is set, which clears the flip-flop, and is lost otherwise. -/
theorem execute_delivered (isr : ISR) (self : Intel8080) {bus : SystemBus} (quiet : Quiet bus) :
    ∃ received, Quiet received ∧ ∀ {ν : Type} (w : Wiring ν) (world : ν), execute w ⟨self, deliver isr bus, world⟩ =
      dispatch (acknowledged isr self.iff) w ⟨{ self with iff := self.iff && isr.cpuLevel.isNone }, received, world⟩ := by
  obtain ⟨addr, data, control⟩ := bus
  obtain rfl : control = 0#8 := quiet
  cases request : isr.cpuLevel with
  | none =>
    have same : deliver isr ⟨addr, data, 0#8⟩ = ⟨addr, data, 0#8⟩ := by
      rw [deliver, request]
    have unset : ¬ (0#8).getLsbD Signal.interrupt.lane = true := by decide
    refine ⟨(ControlBus.receive .interrupt ⟨addr, data, 0#8⟩).2, by simp [ControlBus.receive, Quiet], ?_⟩
    intro ν w world
    rw [same, execute_run, if_neg unset, acknowledged, request, ite_self, Option.isNone_none, Bool.and_true]
  | some level =>
    have raised : deliver isr ⟨addr, data, 0#8⟩ = ⟨addr, level, 2#8⟩ := by
      simp [deliver, request, Machine.Loop.signal, ControlBus.send, DataBus.send, Signal.lane]
    have set : (2#8).getLsbD Signal.interrupt.lane = true := by decide
    refine ⟨(DataBus.receive (ControlBus.receive .interrupt ⟨addr, level, 2#8⟩).2).2, by
      simp [ControlBus.receive, DataBus.receive, Signal.lane, Quiet], ?_⟩
    intro ν w world
    rw [raised, execute_run, if_pos set, acknowledged, request, Option.isNone_some, Bool.and_false]
    cases enabled : self.iff with
    | true => rw [if_pos rfl, if_pos rfl]
    | false =>
      have cleared : { self with iff := false } = self := by rw [← enabled]
      rw [if_neg Bool.false_ne_true, if_neg Bool.false_ne_true, cleared]

theorem execute_interrupted (w : Wiring ω) (isr : ISR) {s : System ω} (quiet : Quiet s.bus) :
    ∃ bus, Quiet bus ∧ execute w (interrupted isr s) =
      dispatch (acknowledged isr s.cpu.iff) w ⟨{ s.cpu with iff := s.cpu.iff && isr.cpuLevel.isNone }, bus, s.world⟩ := by
  obtain ⟨received, clear, ran⟩ := execute_delivered isr s.cpu quiet
  exact ⟨received, clear, ran w s.world⟩

variable {build : Build} {memory io : IController ω}

/-- Where the flip-flop is clear it makes no difference which interrupt is delivered. -/
theorem execute_agrees {isr other : ISR} {s t : System ω} (alike : Alike s t)
    (masked : isr.cpuLevel = other.cpuLevel ∨ s.cpu.iff = false) :
    Agrees (execute (wiring build memory io) (interrupted isr s))
    (execute (wiring build memory io) (interrupted other t)) := by
  obtain ⟨bus, quiet, ran⟩ := execute_interrupted (wiring build memory io) isr alike.quiet.1
  obtain ⟨bus', quiet', ran'⟩ := execute_interrupted (wiring build memory io) other alike.quiet.2
  have enabled : (visible s.cpu).iff = (visible t.cpu).iff := congrArg Intel8080.iff alike.cpu
  change s.cpu.iff = t.cpu.iff at enabled
  have same : acknowledged isr s.cpu.iff = acknowledged other t.cpu.iff ∧
      (s.cpu.iff && isr.cpuLevel.isNone) = (t.cpu.iff && other.cpuLevel.isNone) := by
    rcases masked with level | clear
    · rw [acknowledged, acknowledged, level, enabled]
      exact ⟨rfl, rfl⟩
    · rw [← enabled, clear]
      exact ⟨rfl, rfl⟩
  rw [ran, ran', same.1, same.2]
  have cpu := alike.cpu
  refine dispatch_agrees _ ⟨?_, alike.world, quiet, quiet'⟩
  unfold visible at cpu ⊢
  simp only [Intel8080.mk.injEq] at cpu ⊢
  obtain ⟨a, b, c, d, e, h, l, pc, sp, status, -, opcode⟩ := cpu
  exact ⟨a, b, c, d, e, h, l, pc, sp, status, trivial, trivial⟩

theorem execute_quiet {isr : ISR} {s after : System ω} {ticks : Byte} (quiet : Quiet s.bus)
    (ran : execute (wiring build memory io) (interrupted isr s) = .ok ticks after) : Quiet after.bus := by
  obtain ⟨bus, clear, same⟩ := execute_interrupted (wiring build memory io) isr quiet
  rw [same] at ran
  exact (dispatch_keeps Quiet (wiring build memory io) _).kept clear ran

end Deliveries

section Replays

/-- What reaches the cpu ahead of an execution: the result of a service routine, and
what others have done to the world. -/
structure Input (ω : Type) where
  isr : ISR
  others : ω → ω

def Input.begin (input : Input ω) (s : System ω) : System ω :=
  interrupted input.isr { s with world := input.others s.world }

def beginnings (w : Wiring ω) : List (Input ω) → System ω → List (System ω)
  | [], _ => []
  | input :: inputs, s =>
    input.begin s :: match execute w (input.begin s) with
      | .ok _ after => beginnings w inputs after
      | .error _ _ => []

def record (w : Wiring ω) (begun : List (System ω)) : List (Observation ω) := begun.map fun s => observe (execute w s)

def replay (w : Wiring ω) (inputs : List (Input ω)) (s : System ω) : List (Observation ω) :=
  record w (beginnings w inputs s)

variable {build : Build} {memory io : IController ω}

/-- The inputs differ at most in interrupts that find the flip-flop clear. -/
def Masked (w : Wiring ω) : List (Input ω) → List (Input ω) → System ω → Prop
  | [], [], _ => True
  | input :: inputs, other :: others, s =>
    input.others = other.others ∧ (input.isr.cpuLevel = other.isr.cpuLevel ∨ s.cpu.iff = false) ∧
      ∀ ticks after, execute w (input.begin s) = .ok ticks after → Masked w inputs others after
  | _, _, _ => False

theorem Masked.refl (w : Wiring ω) (inputs : List (Input ω)) (s : System ω) : Masked w inputs inputs s := by
  induction inputs generalizing s with
  | nil => trivial
  | cons input inputs ih => exact ⟨rfl, .inl rfl, fun _ after _ => ih after⟩

theorem replay_cons (w : Wiring ω) (input : Input ω) (inputs : List (Input ω)) (s : System ω) :
    replay w (input :: inputs) s = observe (execute w (input.begin s)) ::
      match execute w (input.begin s) with
      | .ok _ after => replay w inputs after
      | .error _ _ => [] := by
  unfold replay record
  rw [beginnings, List.map_cons]
  cases execute w (input.begin s) <;> rfl

/-- Executions from alike systems, on inputs that differ only where they are masked, are the same. -/
theorem replay_masked {inputs others : List (Input ω)} {s t : System ω} (alike : Alike s t)
    (masked : Masked (wiring build memory io) inputs others s) :
    replay (wiring build memory io) inputs s = replay (wiring build memory io) others t := by
  induction inputs generalizing others s t with
  | nil =>
    cases others with
    | nil => rfl
    | cons other others => exact masked.elim
  | cons input inputs ih =>
    cases others with
    | nil => exact masked.elim
    | cons other others =>
      obtain ⟨sameWorld, clear, rest⟩ := masked
      have begun : Alike { s with world := input.others s.world } { t with world := other.others t.world } := by
        rw [sameWorld, alike.world]
        exact ⟨alike.cpu, rfl, alike.quiet⟩
      have agrees : Agrees (execute (wiring build memory io) (input.begin s))
          (execute (wiring build memory io) (other.begin t)) :=
        execute_agrees begun clear
      obtain ⟨observed, same⟩ := agrees
      rw [replay_cons, replay_cons, observed]
      cases ran : execute (wiring build memory io) (input.begin s) with
      | ok ticks after =>
        have quiet : Quiet after.bus := execute_quiet begun.quiet.1 ran
        rw [same ticks after ran]
        exact congrArg _ (ih ⟨rfl, rfl, quiet, quiet⟩ (rest ticks after ran))
      | error fault after =>
        rw [ran] at observed
        cases ran' : execute (wiring build memory io) (other.begin t) with
        | ok ticks after =>
          rw [ran'] at observed
          cases congrArg Observation.ticks observed
        | error fault after => rfl

end Replays
end MachEmu.Proofs.Interrupts
