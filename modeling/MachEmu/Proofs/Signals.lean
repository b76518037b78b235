import MachEmu.TestControllers
import MachEmu.Proofs.Conversations
import MachEmu.Proofs.Reference

/-! Programs ask for the end of their run, and for saves and loads, by writing to
ports of the test controllers. A request waits for the next service, where it is
answered at most once, and is lost to any request that comes before. -/

namespace MachEmu.Proofs.Signals
open Machine Loop Traces PlainRam Calls InstructionPrograms Timeline Reference Conversations DirectCalls Cadence

section Devices
variable {δ : Type} {setup : Setup (Ram δ)} {io : Ports δ} {service : BitVec 64 → BitVec 64 → δ → ISR × δ}
  {world after : Ram δ}
  {events : List Access}

def OnMemory : Access → Prop
  | .read .memory .. => True
  | .write .memory .. => True
  | _ => False

inductive Exchange (io : Ports δ) (service : BitVec 64 → BitVec 64 → δ → ISR × δ) (state : δ) : Access → δ → Prop
  | memory {access : Access} (there : OnMemory access) : Exchange io service state access state
  | read (addr : Word) : Exchange io service state (.read .io addr (.ok (io.read addr state).1)) (io.read addr state).2
  | write (addr : Word) (value : Byte) : Exchange io service state (.write .io addr value (.ok ()))
    (io.write addr value state)
  | service (currTime cycles : BitVec 64) : Exchange io service state
      (.serviceInterrupts .io currTime cycles (.ok (service currTime cycles state).1)) (service currTime cycles state).2

theorem respond_exchange (wired : Wired setup io service) {request : Request}
    (responded : respond setup request world = some (after, events)) :
    ∃ access, events = [access] ∧ Exchange io service world.io access after.io := by
  obtain ⟨⟨uuid, memory⟩, ports⟩ := wired
  cases request with
  | read device addr =>
    cases device with
    | memory =>
      simp only [respond, controller, memory] at responded
      cases responded
      exact ⟨_, rfl, .memory trivial⟩
    | io =>
      simp only [respond, controller, ports] at responded
      cases responded
      exact ⟨_, rfl, .read addr⟩
  | write device addr value =>
    cases device with
    | memory =>
      simp only [respond, controller, memory] at responded
      cases responded
      exact ⟨_, rfl, .memory trivial⟩
    | io =>
      simp only [respond, controller, ports] at responded
      cases responded
      exact ⟨_, rfl, .write addr value⟩
  | serviceInterrupts currTime cycles =>
    simp only [respond, ports] at responded
    cases responded
    exact ⟨_, rfl, .service currTime cycles⟩

end Devices

section Requests
variable {before : List Access} {access : Access} {port : Word} {quiet : Access → Prop}

/-- A port was written, with nothing but `quiet` calls since. -/
def Since (port : Word) (quiet : Access → Prop) (before : List Access) : Prop :=
  ∃ earlier value later, before = earlier ++ .write .io port value (.ok ()) :: later ∧ ∀ access ∈ later, quiet access

theorem since_nil : ¬ Since port quiet [] := by
  rintro ⟨earlier, value, later, split, -⟩
  simp at split

theorem since_snoc : Since port quiet (before ++ [access]) ↔
    (∃ value, access = .write .io port value (.ok ())) ∨ quiet access ∧ Since port quiet before := by
  constructor
  · rintro ⟨earlier, value, later, split, only⟩
    obtain ⟨rfl, rfl, rfl⟩ | ⟨rest, rfl, rfl⟩ := append_eq_cons split
    · exact .inl ⟨value, rfl⟩
    · obtain ⟨rest, last⟩ := List.forall_mem_append.mp only
      exact .inr ⟨last _ (List.mem_singleton_self _), _, _, _, rfl, rest⟩
  · rintro (⟨value, rfl⟩ | ⟨silent, earlier, value, later, rfl, only⟩)
    · exact ⟨before, value, [], rfl, List.forall_mem_nil _⟩
    · exact ⟨earlier, value,
        later ++ [access], by simp, List.forall_mem_append.mpr ⟨only, List.forall_mem_singleton.mpr silent⟩⟩

/-- A call that has nothing to do with the requests. -/
def Apart : Access → Prop
  | .read .. => True
  | .write .memory .. => True
  | .write .io port _ _ => port = 0
  | .serviceInterrupts .. => False

/-- Also a service that asks for a save leaves the request of a load. -/
def Passes : Access → Prop
  | .serviceInterrupts _ _ _ (.ok .save) => True
  | access => Apart access

theorem apart_passes (apart : Apart access) : Passes access := by
  cases access with
  | read => exact apart
  | write => exact apart
  | serviceInterrupts => exact apart.elim

theorem since_apart (apart : Apart access) (silent : quiet access) (named : port ≠ 0) :
    Since port quiet (before ++ [access]) ↔ Since port quiet before := by
  rw [since_snoc]
  constructor
  · rintro (⟨value, rfl⟩ | ⟨-, since⟩)
    · exact absurd apart named
    · exact since
  · exact fun since => .inr ⟨silent, since⟩

theorem since_write {value : Byte} {other : Word} (loud : ¬ quiet (.write .io other value (.ok ()))) :
    Since port quiet (before ++ [.write .io other value (.ok ())]) ↔ other = port := by
  rw [since_snoc]
  constructor
  · rintro (⟨_, same⟩ | ⟨silent, -⟩)
    · cases same
      rfl
    · exact absurd silent loud
  · rintro rfl
    exact .inl ⟨value, rfl⟩

theorem since_service {currTime cycles : BitVec 64} {answer : Except Fault ISR} :
    Since port quiet (before ++ [.serviceInterrupts .io currTime cycles answer]) ↔
      quiet (.serviceInterrupts .io currTime cycles answer) ∧ Since port quiet before := by
  rw [since_snoc]
  constructor
  · rintro (⟨_, impossible⟩ | since)
    · cases impossible
    · exact since
  · exact .inr

/-- The requests that wait, told from the calls before. There is never more than one. -/
structure Pending (count : BitVec 64) (before : List Access) (base : BaseIoController) : Prop where
  powerOff : base.powerOff = true ↔ Since 0xFF Apart before
  save : base.save = true ↔ Since 0xFE Apart before
  load : base.load = true ↔ Since 0xFD Passes before
  single : base.powerOff.toNat + base.save.toNat + base.load.toNat ≤ 1
  saveCycleCount : base.saveCycleCount = count

variable {count : BitVec 64} {base : BaseIoController}

theorem Pending.nil (count : BitVec 64) : Pending count [] { saveCycleCount := count } :=
  ⟨by simp [since_nil], by simp [since_nil], by simp [since_nil], by simp, rfl⟩

theorem Pending.apart (pending : Pending count before base) (apart : Apart access) :
    Pending count (before ++ [access]) base := by
  obtain ⟨powerOff, save, load, single, cycles⟩ := pending
  refine ⟨?_, ?_, ?_, single, cycles⟩
  · rw [since_apart apart apart (by decide)]
    exact powerOff
  · rw [since_apart apart apart (by decide)]
    exact save
  · rw [since_apart apart (apart_passes apart) (by decide)]
    exact load

theorem Pending.write (pending : Pending count before base) (value : Byte) (named : port ≠ 0) :
    Pending count (before ++ [.write .io port value (.ok ())]) (base.write port value) := by
  have apart : ¬ Apart (.write .io port value (.ok ())) := named
  have passes : ¬ Passes (.write .io port value (.ok ())) := named
  refine ⟨?_, ?_, ?_, ?_, pending.saveCycleCount⟩
  · rw [since_write apart]
    exact beq_iff_eq
  · rw [since_write apart]
    exact beq_iff_eq
  · rw [since_write passes]
    exact beq_iff_eq
  · change (port == 0xFF).toNat + (port == 0xFE).toNat + (port == 0xFD).toNat ≤ 1
    by_cases quit : port = 0xFF
    · rw [quit]
      decide
    · by_cases save : port = 0xFE
      · rw [save]
        decide
      · rw [beq_eq_false_iff_ne.mpr quit, beq_eq_false_iff_ne.mpr save]
        cases port == 0xFD <;> decide

/-- What a service answers, told from the calls before. -/
structure Answers (count : BitVec 64) (before : List Access) (cycles : BitVec 64) (isr : ISR) : Prop where
  quit : isr = .quit ↔ Since 0xFF Apart before
  save : isr = .save ↔ ¬ Since 0xFF Apart before ∧ (Since 0xFE Apart before ∨ cycles = count)
  load : isr = .load ↔ ¬ Since 0xFF Apart before ∧ ¬ (Since 0xFE Apart before ∨ cycles = count) ∧ Since 0xFD Passes before

/-- An interrupt of the cpu takes the place of no interrupt. -/
def Stands (isr plain : ISR) : Prop := isr = plain ∨ plain = .noInterrupt ∧ isr = .one

theorem Pending.answers (pending : Pending count before base) {cycles : BitVec 64} {isr : ISR}
    (quit : isr = .quit ↔ base.powerOff = true)
    (save : isr = .save ↔ ¬ base.powerOff = true ∧ (base.save = true ∨ cycles = base.saveCycleCount))
    (load : isr = .load ↔ ¬ base.powerOff = true ∧ ¬ (base.save = true ∨ cycles = base.saveCycleCount) ∧ base.load = true) :
    Answers count before cycles isr := by
  obtain ⟨powerOff, saves, loads, -, rfl⟩ := pending
  rw [powerOff] at quit
  rw [powerOff, saves] at save
  rw [powerOff, saves, loads] at load
  exact ⟨quit, save, load⟩

/-- A service takes what waited, and leaves a load to wait for the next one if it was a save. -/
theorem Pending.serviced (pending : Pending count before base) {currTime cycles : BitVec 64} {isr : ISR}
    {after : BaseIoController} (powerOff : after.powerOff = false) (save : after.save = false)
    (load : after.load = true ↔ isr = .save ∧ base.load = true)
    (same : after.saveCycleCount = base.saveCycleCount) :
    Pending count (before ++ [.serviceInterrupts .io currTime cycles (.ok isr)]) after := by
  have apart {port : Word} : ¬ Since port Apart (before ++ [.serviceInterrupts .io currTime cycles (.ok isr)]) :=
    fun since => (since_service.mp since).1
  refine ⟨iff_of_false (ne_true_of_eq_false powerOff) apart, iff_of_false (ne_true_of_eq_false save) apart, ?_, ?_,
    same.trans pending.saveCycleCount⟩
  · rw [since_service, ← pending.load, load]
    cases isr <;> simp [Passes, Apart]
  · rw [powerOff, save]
    cases after.load <;> decide

theorem Pending.service (pending : Pending count before base) (currTime cycles : BitVec 64) {isr : ISR}
    (stands : Stands isr (base.serviceInterrupts currTime cycles).1) :
    Pending count (before ++ [.serviceInterrupts .io currTime cycles (.ok isr)])
    (base.serviceInterrupts currTime cycles).2 ∧
      Answers count before cycles isr := by
  have single := pending.single
  unfold BaseIoController.serviceInterrupts at stands ⊢
  by_cases quits : base.powerOff = true
  · have others : base.save = false ∧ base.load = false := by
      rw [quits] at single
      cases saving : base.save <;> cases loading : base.load <;> simp_all
    rw [if_pos quits] at stands ⊢
    obtain rfl : isr = .quit := by simpa [Stands] using stands
    exact ⟨pending.serviced rfl others.1 (by simp [others.2]) rfl,
      pending.answers (by simp [quits]) (by simp [quits]) (by simp [quits])⟩
  · rw [if_neg quits] at stands ⊢
    have off : base.powerOff = false := eq_false_of_ne_true quits
    by_cases saves : (base.save || base.saveCycleCount == cycles) = true
    · rw [if_pos saves] at stands ⊢
      obtain rfl : isr = .save := by simpa [Stands] using stands
      have answered : base.save = true ∨ cycles = base.saveCycleCount := by
        rw [Bool.or_eq_true, beq_iff_eq] at saves
        exact saves.imp_right Eq.symm
      exact ⟨pending.serviced off rfl
        (by simp) rfl, pending.answers (by simp [quits]) (by simp [quits, answered]) (by simp [answered])⟩
    · rw [if_neg saves] at stands ⊢
      have refused : ¬ (base.save = true ∨ cycles = base.saveCycleCount) := by
        rw [Bool.or_eq_true, beq_iff_eq] at saves
        exact fun answered => saves (answered.imp_right Eq.symm)
      have unsaved : base.save = false := eq_false_of_ne_true (not_or.mp refused).1
      by_cases loads : base.load = true
      · rw [if_pos loads] at stands ⊢
        obtain rfl : isr = .load := by simpa [Stands] using stands
        exact ⟨pending.serviced off unsaved (by simp) rfl,
          pending.answers (by simp [quits]) (by simp [refused]) (by simp [quits, refused, loads])⟩
      · rw [if_neg loads] at stands ⊢
        have other : isr = .noInterrupt ∨ isr = .one := by simpa [Stands] using stands
        refine ⟨pending.serviced off unsaved (by simp [loads]) rfl, pending.answers ?_ ?_ ?_⟩
        · rcases other with rfl | rfl <;> simp [quits]
        · rcases other with rfl | rfl <;> simp [refused]
        · rcases other with rfl | rfl <;> simp [loads]

end Requests

section TestPorts
variable {setup : Setup (Ram TestIoController)} {world last : Ram TestIoController} {io after : TestIoController}
  {count : BitVec 64}
  {before log : List Access} {access : Access}

def testPorts : Ports TestIoController := ⟨fun port io => (io.read port, io), TestIoController.write⟩

theorem serviceInterrupts_stands (currTime cycles : BitVec 64) (io : TestIoController) :
    Stands (io.serviceInterrupts currTime cycles).1 (io.toBaseIoController.serviceInterrupts currTime cycles).1 ∧
      (io.serviceInterrupts currTime cycles).2.toBaseIoController =
        (io.toBaseIoController.serviceInterrupts currTime cycles).2 := by
  unfold TestIoController.serviceInterrupts
  dsimp only
  split
  next idle =>
    split
    next =>
      split
      next => exact ⟨.inr ⟨idle, rfl⟩, rfl⟩
      next => exact ⟨.inl rfl, rfl⟩
    next => exact ⟨.inl rfl, rfl⟩
  next => exact ⟨.inl rfl, rfl⟩

theorem exchange_pending (pending : Pending count before io.toBaseIoController)
    (exchange : Exchange testPorts TestIoController.serviceInterrupts io access after) :
    Pending count (before ++ [access]) after.toBaseIoController ∧
      ∀ {currTime cycles isr}, access = .serviceInterrupts .io currTime cycles (.ok isr) →
      Answers count before cycles isr := by
  cases exchange with
  | @memory access there =>
    cases access with
    | read => exact ⟨pending.apart trivial, nofun⟩
    | write device =>
      cases device with
      | memory => exact ⟨pending.apart trivial, nofun⟩
      | io => exact there.elim
    | serviceInterrupts => exact there.elim
  | read addr => exact ⟨pending.apart trivial, nofun⟩
  | write addr value =>
    refine ⟨?_, nofun⟩
    change Pending count _ (io.write addr value).toBaseIoController
    unfold TestIoController.write
    split
    next zero => exact pending.apart zero
    next named => exact pending.write value named
  | service currTime cycles =>
    obtain ⟨stands, base⟩ := serviceInterrupts_stands currTime cycles io
    obtain ⟨kept, answers⟩ := pending.service currTime cycles stands
    refine ⟨base ▸ kept, fun same => ?_⟩
    cases same
    exact answers

theorem respond_answers (wired : Wired setup testPorts TestIoController.serviceInterrupts)
    (fresh : world.io.toBaseIoController = { saveCycleCount := count }) (run : Run (respond setup) world log last) :
    Pending count log last.io.toBaseIoController ∧
      ∀ {before currTime cycles isr after}, log = before ++ .serviceInterrupts .io currTime cycles (.ok isr) :: after →
        Answers count before cycles isr := by
  refine run.invariant (fun log last => Pending count log last.io.toBaseIoController ∧
    ∀ {before currTime cycles isr after}, log = before ++ .serviceInterrupts .io currTime cycles (.ok isr) :: after →
      Answers count before cycles isr) ⟨fresh ▸ Pending.nil count, by simp⟩ ?_
  intro log last request next events ⟨pending, answered⟩ responded
  obtain ⟨access, rfl, exchange⟩ := respond_exchange wired responded
  obtain ⟨kept, answers⟩ := exchange_pending pending exchange
  refine ⟨kept, fun {before currTime cycles isr after} split => ?_⟩
  obtain ⟨rfl, same, rfl⟩ | ⟨rest, rfl, rfl⟩ := append_eq_cons split
  · exact answers same
  · exact answered rfl

end TestPorts

section Runs
variable {lib : Libraries} {build : Build} {setup : Setup (Ram TestIoController)} {start loop : Loop (Ram TestIoController)}
  {moves : List (LoopMove (Ram TestIoController))} {count : BitVec 64}

/-- What every service of a run answers to the requests of its program. -/
theorem run_signals (entered : Lifecycle.Entered lib build setup start)
    (wired : Wired setup testPorts TestIoController.serviceInterrupts)
    (fresh : start.sys.world.io.toBaseIoController = { saveCycleCount := count })
    (run : Run (recorded (Loop.step setup)) start moves loop)
    (alone : Alone moves) {before after : List Access} {currTime cycles : BitVec 64} {isr : ISR}
    (serviced : traffic setup moves = before ++ .serviceInterrupts .io currTime cycles (.ok isr) :: after) :
    Answers count before cycles isr :=
  (respond_answers wired fresh (run_conversed entered run alone)).2 serviced

def exitWorld : Ram TestIoController where
  mem := match MemoryController.load (some ⟨4, [0xD3, 0xFE, 0xD3, 0xFF]⟩) 0 {} with
    | .ok _ loaded => loaded.memory
    | .error _ failed => failed.memory
  io := {}

def exitController : IController (Ram TestIoController) := deviceController testPorts TestIoController.serviceInterrupts

def exitSetup : Setup (Ram TestIoController) := { Deliveries.askingSetup .noInterrupt with
  memoryController := ramController MemoryController.uuid
  ioController := exitController }

def exitStart : Loop (Ram TestIoController) where
  sys := { world := exitWorld }
  clock := CpuClock.make 2000000 1
  host := ⟨0, [1, 2, 3], []⟩

def exitRun : Option (Loop (Ram TestIoController) × List (LoopMove (Ram TestIoController))) :=
  Traces.run (recorded (Loop.step exitSetup)) (List.replicate 7 (.turn (.ok none) (.ok ()))) exitStart

def exitTraffic : List Access := [.read .memory 0 (.ok 0xD3), .read .memory 1 (.ok 0xFE), .write .io 0xFE 0 (.ok ()),
  .serviceInterrupts .io 1 10 (.ok .save), .read .memory 2 (.ok 0xD3), .read .memory 3 (.ok 0xFF),
    .write .io 0xFF 0 (.ok ())]

/-- A program that asks for a save and for its end. -/
theorem exit_signals : ∃ (moves : List (LoopMove (Ram TestIoController))) (loop : Loop (Ram TestIoController)),
    Run (recorded (Loop.step exitSetup)) exitStart moves loop ∧ loop.point = .done ∧
      traffic exitSetup moves = exitTraffic ++ [.serviceInterrupts .io 2 20 (.ok .quit)] ∧
      Answers (-1) (exitTraffic.take 3) 10 .save ∧ Answers (-1) exitTraffic 20 .quit := by
  have entered : Lifecycle.enter Lifecycle.sessionLibraries ⟨true, false⟩ exitWorld
      [.setMemoryController (some (ramController MemoryController.uuid)),
        .setIoController (some exitController)] 0 [1, 2, 3] =
        some (exitSetup, exitStart) := by
    with_unfolding_all rfl
  have outcome : exitRun.map (fun out => (out.1.point, out.2.map (·.input), traffic exitSetup out.2)) =
      some (.done, List.replicate 7 (.turn (.ok none) (.ok ())),
        exitTraffic ++ [.serviceInterrupts .io 2 20 (.ok .quit)]) := by
    with_unfolding_all rfl
  obtain ⟨⟨loop, moves⟩, ran, same⟩ := Option.map_eq_some_iff.mp outcome
  simp only [Prod.mk.injEq] at same
  obtain ⟨done, inputs, heard⟩ := same
  have alone : Alone moves := alone_of (by rw [inputs]; exact fun choice member => ⟨_, _, List.eq_of_mem_replicate member⟩)
  have run : Run (recorded (Loop.step exitSetup)) exitStart moves loop := Run.of_run ran
  have signals {before after : List Access} {currTime cycles : BitVec 64} {isr : ISR}
      (serviced : traffic exitSetup moves = before ++ .serviceInterrupts .io currTime cycles (.ok isr) :: after) :
      Answers (-1) before cycles isr :=
    run_signals (Lifecycle.enter_entered entered) ⟨⟨_, rfl⟩, rfl⟩ rfl run alone serviced
  exact ⟨moves, loop, run, done, heard, signals heard, signals heard⟩

end Runs
end MachEmu.Proofs.Signals
