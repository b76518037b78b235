import MachEmu.Proofs.Halt

/-! When an interrupt that is signalled behind EI is acknowledged, and how many
service routines that end with EI and RET can be on the stack at once. -/

namespace MachEmu.Proofs.EnableInterrupts
open Intel8080 Isa8080 BusTransactions BusDiscipline InstructionSet Instructions Interrupts Starvation Halt
open Machine Loop

variable {ω : Type}

/-- A service routine: the stack pointer at its entry, and whether its final EI is over. -/
structure Frame where
  sp : Word
  leaving : Bool

variable (setup : Setup ω)

/-- One move of a program and its service routines. The routines that have not returned are listed, the last
one first. A routine keeps interrupts disabled until EI, which is followed by RET, and these find the stack
pointer where it was at the entry. The program does as it likes, and at any time anything may be signalled. -/
inductive Step : System ω × List Frame → System ω × List Frame → Prop
  | signal {s : System ω} {frames : List Frame} (bus : SystemBus) (begins : Begins bus) :
      Step (s, frames) ({ s with bus }, frames)
  | enter {s after : System ω} {frames : List Frame} {level ticks : Byte} (begins : Begins s.bus)
    (acknowledged : acknowledges s = some level)
      (ran : execute setup.wiring s = .ok ticks after) : Step (s, frames) (after, ⟨s.cpu.sp - 2, false⟩ :: frames)
  | proceed {s after : System ω} {ticks : Byte} (begins : Begins s.bus) (unacknowledged : acknowledges s = none)
      (ran : execute setup.wiring s = .ok ticks after) : Step (s, []) (after, [])
  | serve {s after : System ω} {frame : Frame} {frames : List Frame} {ticks : Byte} (begins : Begins s.bus)
      (unacknowledged : acknowledges s = none) (serving : frame.leaving = false)
      (ran : execute setup.wiring s = .ok ticks after) (disabled : after.cpu.iff = false) :
      Step (s, frame :: frames) (after, frame :: frames)
  | enable {s after : System ω} {frame : Frame} {frames : List Frame} {ticks : Byte} (begins : Begins s.bus)
      (ei : Fetches setup s 0xFB) (serving : frame.leaving = false) (balanced : s.cpu.sp = frame.sp)
      (ran : execute setup.wiring s = .ok ticks after) :
        Step (s, frame :: frames) (after, { frame with leaving := true } :: frames)
  | leave {s after : System ω} {frame : Frame} {frames : List Frame} {ticks : Byte} (begins : Begins s.bus)
      (ret : Fetches setup s 0xC9) (leaving : frame.leaving = true) (balanced : s.cpu.sp = frame.sp)
      (ran : execute setup.wiring s = .ok ticks after) : Step (s, frame :: frames) (after, frames)

/-- No interrupt is acknowledged between EI and RET. -/
def Undisturbed (state next : System ω × List Frame) : Prop :=
  Step setup state next ∧ ∀ frame, state.2.head? = some frame → frame.leaving = true → acknowledges state.1 = none

/-- At most one routine, which either has interrupts disabled or is leaving. -/
def Orderly (state : System ω × List Frame) : Prop :=
  state.2.length ≤ 1 ∧ ∀ frame, state.2.head? = some frame → frame.leaving = false → state.1.cpu.iff = false

variable {setup} {s first after : System ω} {state next : System ω × List Frame} {level ticks : Byte}

theorem interrupts_enabled (acknowledged : acknowledges s = some level) : s.cpu.iff = true := by
  unfold acknowledges at acknowledged
  split at acknowledged
  next pending => exact (Bool.and_eq_true_iff.mp pending).2
  next => cases acknowledged

theorem entered_disabled (begins : Begins s.bus) (acknowledged : acknowledges s = some level)
    (ran : execute setup.wiring s = .ok ticks after) : after.cpu.iff = false := by
  obtain ⟨⟨addr, data, control⟩, quiet, dispatched⟩ := execute_dispatch setup.wiring begins
  obtain rfl : control = 0#8 := quiet
  have off : (entering s).iff = false := by simp [entering, acknowledged]
  rw [ran, acknowledged] at dispatched
  change _ = dispatch (some level) (wiring setup.build setup.memoryController setup.ioController) _ at dispatched
  rw [dispatch_some_run] at dispatched
  split at dispatched
  next => cases dispatched
  next =>
    split at dispatched
    next => cases dispatched
    next =>
      cases dispatched
      exact off

theorem Orderly.step (orderly : Orderly state) (undisturbed : Undisturbed setup state next) : Orderly next := by
  obtain ⟨most, serving⟩ := orderly
  obtain ⟨step, quiet⟩ := undisturbed
  cases step with
  | signal => exact ⟨most, serving⟩
  | @enter s after frames level ticks begins acknowledged ran =>
    -- A routine that is serving has interrupts disabled, and one that is leaving is not disturbed.
    have alone : frames = [] := by
      cases frames with
      | nil => rfl
      | cons frame frames =>
        cases left : frame.leaving with
        | false => exact absurd (interrupts_enabled acknowledged) (Bool.eq_false_iff.mp (serving frame rfl left))
        | true => cases acknowledged.symm.trans (quiet frame rfl left)
    subst alone
    exact ⟨Nat.le_refl 1, fun frame top new => entered_disabled begins acknowledged ran⟩
  | proceed => exact ⟨most, nofun⟩
  | serve begins unacknowledged left ran disabled => exact ⟨most, fun _ _ _ => disabled⟩
  | enable =>
    refine ⟨most, fun frame top entered => ?_⟩
    cases top
    cases entered
  | @leave s after frame frames ticks begins ret left balanced ran =>
    have alone : frames = [] := List.eq_nil_of_length_eq_zero (Nat.le_zero.mp (Nat.le_of_succ_le_succ most))
    subst alone
    exact ⟨Nat.zero_le 1, nofun⟩

theorem run_orderly (run : Relation.ReflTransGen (Undisturbed setup) (first, []) state) : Orderly state := by
  induction run with
  | refl => exact ⟨Nat.zero_le 1, nofun⟩
  | tail _ step ih => exact ih.step step

theorem execute_ei (begins : Begins s.bus) (ei : Fetches setup s 0xFB) :
    ∃ world, execute setup.wiring s = .ok 4 ⟨{ s.cpu with pc := s.cpu.pc + 1, iff := true, opcode := 0xFB },
      {}, world⟩ := by
  obtain ⟨unacknowledged, world, read⟩ := ei
  obtain ⟨bus, fetched⟩ := execute_fetched setup.build setup.memoryController setup.ioController begins unacknowledged
  rw [read] at fetched
  dsimp only at fetched
  rw [switch_eq] at fetched
  have decoded : decode 0xFB = some .ei := by decide
  dsimp only at fetched
  rw [decoded] at fetched
  exact ⟨world, fetched⟩

theorem execute_signalled (begins : Begins s.bus) (pending : s.bus.controlBus.getLsbD Signal.interrupt.lane = true)
    (enabled : s.cpu.iff = true) : ∃ quiet, Quiet quiet ∧
      execute setup.wiring s = dispatch (some s.bus.dataBus) setup.wiring ⟨{ s.cpu with iff := false },
        quiet, s.world⟩ := by
  have acknowledged : acknowledges s = some s.bus.dataBus := by simp [acknowledges, pending, enabled]
  have entered : entering s = { s.cpu with iff := false } := by simp [entering, acknowledged]
  obtain ⟨quiet, clear, dispatched⟩ := execute_dispatch setup.wiring begins
  rw [acknowledged, entered] at dispatched
  exact ⟨quiet, clear, dispatched⟩

/-- The execution behind EI acknowledges what is signalled, before the next instruction. Unless it does that at
the end of a service routine, no two routines are on the stack. -/
theorem enabled_at_once :
    (∀ s : System ω, Begins s.bus → Fetches setup s 0xFB → ∃ ticks after, execute setup.wiring s = .ok ticks after ∧
      after.cpu = { s.cpu with pc := s.cpu.pc + 1, iff := true, opcode := 0xFB } ∧
      ∀ bus, Begins bus → bus.controlBus.getLsbD Signal.interrupt.lane = true → ∃ quiet, Quiet quiet ∧
        execute setup.wiring { after with bus } =
          dispatch (some bus.dataBus) setup.wiring ⟨{ after.cpu with iff := false }, quiet, after.world⟩) ∧
    ∀ {first s : System ω} {frames : List Frame},
      Relation.ReflTransGen (Undisturbed setup) (first, []) (s, frames) → frames.length ≤ 1 := by
  refine ⟨?_, fun run => (run_orderly run).1⟩
  intro s begins ei
  obtain ⟨world, ran⟩ := execute_ei begins ei
  exact ⟨_, _, ran, rfl, fun bus begins pending => execute_signalled begins pending rfl⟩

section Nested

def serviced : Setup Unit := { slowSetup 0x00 with
  memoryController := { (slowSetup 0x00).memoryController with
    read := fun addr world => .ok (if addr = 8 then 0xFB else if addr = 9 then 0xC9 else 0x00) world } }

def signalled : SystemBus := ControlBus.send .interrupt (DataBus.send 1 {})

theorem begins_signalled : Begins signalled := by
  with_unfolding_all rfl

theorem first_entry : Step serviced (⟨{ iff := true }, signalled, ()⟩, [])
    (⟨{ pc := 8, sp := 0xFFFE, opcode := 0xCF }, {}, ()⟩, [⟨0xFFFE, false⟩]) :=
  .enter begins_signalled (by with_unfolding_all rfl) (by with_unfolding_all rfl)

theorem routine_fetches (bus : SystemBus) : Fetches serviced ⟨{ pc := 8, sp := 0xFFFE, opcode := 0xCF }, bus, ()⟩ 0xFB :=
  ⟨by simp [acknowledges], (), rfl⟩

/-- With an interrupt at every service point the second one is entered before the first RET. -/
theorem routines_nest :
    (∃ s : System Unit, Begins s.bus ∧ Fetches serviced s 0xFB ∧ s.cpu.iff = false ∧
      ∃ ticks after, execute serviced.wiring s = .ok ticks after ∧ acknowledges { after with bus := signalled } = some 1) ∧
    ∃ (first s : System Unit) (last earlier : Frame),
      Relation.ReflTransGen (Step serviced) (first, []) (s, [last, earlier]) := by
  have enabled : execute serviced.wiring ⟨{ pc := 8, sp := 0xFFFE, opcode := 0xCF }, signalled, ()⟩ =
      .ok 4 ⟨{ pc := 9, sp := 0xFFFE, iff := true, opcode := 0xFB }, {}, ()⟩ := by with_unfolding_all rfl
  have ei : Step serviced (⟨{ pc := 8, sp := 0xFFFE, opcode := 0xCF }, signalled, ()⟩, [⟨0xFFFE, false⟩])
      (⟨{ pc := 9, sp := 0xFFFE, iff := true, opcode := 0xFB }, {}, ()⟩, [⟨0xFFFE, true⟩]) :=
    .enable begins_signalled (routine_fetches signalled) rfl rfl enabled
  have again : Step serviced (⟨{ pc := 9, sp := 0xFFFE, iff := true, opcode := 0xFB }, signalled, ()⟩, [⟨0xFFFE, true⟩])
      (⟨{ pc := 8, sp := 0xFFFC, opcode := 0xCF }, {}, ()⟩, [⟨0xFFFC, false⟩, ⟨0xFFFE, true⟩]) :=
    .enter begins_signalled (by with_unfolding_all rfl) (by with_unfolding_all rfl)
  have nested := ((((Relation.ReflTransGen.single first_entry).tail (.signal signalled begins_signalled)).tail ei).tail
    (.signal signalled begins_signalled)).tail again
  exact ⟨⟨_, begins_signalled, routine_fetches signalled, rfl, _, _,
    enabled, by with_unfolding_all rfl⟩, _, _, _, _, nested⟩

theorem enabled_at_once_routine :
    (∃ ticks after, execute serviced.wiring ⟨{ pc := 8, sp := 0xFFFE, opcode := 0xCF }, {}, ()⟩ = .ok ticks after ∧
      after.cpu.iff = true) ∧
    ∃ (first s : System Unit) (frames : List Frame), Relation.ReflTransGen (Undisturbed serviced) (first, []) (s, frames) ∧
      frames ≠ [] ∧ frames.length ≤ 1 := by
  obtain ⟨immediately, alone⟩ := @enabled_at_once Unit serviced
  obtain ⟨ticks, after, ran, same, -⟩ := immediately _ begins_clear (routine_fetches {})
  have run := Relation.ReflTransGen.single (show Undisturbed serviced _ _ from ⟨first_entry, nofun⟩)
  exact ⟨⟨ticks, after, ran, by rw [same]⟩, _, _, _, run, List.cons_ne_nil _ _, alone run⟩

end Nested
end MachEmu.Proofs.EnableInterrupts
