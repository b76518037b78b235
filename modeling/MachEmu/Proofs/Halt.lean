import MachEmu.Proofs.Starvation

/-! Whether HLT stops the cpu until an interrupt. The controllers keep a list of
their calls, in which a fetch shows. -/

namespace MachEmu.Proofs.Halt
open Intel8080 Isa8080 BusTransactions BusDiscipline InstructionSet InstructionPrograms Instructions Interrupts
  Calls Starvation
open Machine Loop ErrorState

variable {ω : Type}

/-- No lane but that of an interrupt is set when an execution begins. -/
abbrev Begins (bus : SystemBus) : Prop := Quiet (ControlBus.receive .interrupt bus).2

/-- Executions that acknowledge nothing. Each of them finds the buses as the machine left them. -/
inductive Idles (w : Wiring ω) : System ω → System ω → Prop
  | none (s : System ω) : Idles w s s
  | execute {s mid after : System ω} {ticks : Byte} (bus : SystemBus) (begins : Begins bus)
      (unacknowledged : acknowledges { s with bus } = none) (ran : execute w { s with bus } = .ok ticks mid)
      (rest : Idles w mid after) : Idles w s after

variable (setup : Setup ω)

/-- Time advances and nothing else happens. The calls are part of the world. -/
def Rests (s : System (Listened ω)) : Prop := ∃ ticks after, execute (listening setup).wiring s = .ok ticks after ∧
  0 < ticks.toNat ∧ { after.cpu with opcode := s.cpu.opcode } = s.cpu ∧ after.world = s.world

/-- The address is pushed and the interrupt is entered. -/
def Wakes (s : System (Listened ω)) (addr : Word) (n : Byte) : Prop := ∃ ticks mid after,
  execute (listening setup).wiring s = .ok ticks after ∧ after.cpu.pc = 8 * n.setWidth 16 ∧ after.cpu.sp = s.cpu.sp - 2 ∧
  (listening setup).memoryController.write (s.cpu.sp - 1) (addr.extractLsb' 8 8) s.world = .ok () mid ∧
  (listening setup).memoryController.write (s.cpu.sp - 2) (addr.extractLsb' 0 8) mid = .ok () after.world

def Stops (s : System (Listened ω)) : Prop := ∃ ticks halted, execute (listening setup).wiring s = .ok ticks halted ∧
  halted.cpu.pc = s.cpu.pc + 1 ∧ ∀ later, Idles (listening setup).wiring halted later → ∀ bus, Begins bus →
    (acknowledges { later with bus } = none → Rests setup { later with bus }) ∧
    ∀ n, n.toNat < 8 → acknowledges { later with bus } = some n → Wakes setup { later with bus } (s.cpu.pc + 1) n

variable {setup} {s after : System (Listened ω)} {ticks : Byte}

theorem switch_lists (self : Intel8080) {world : Listened ω} {cpu : Intel8080}
    (ran : switch self (listening setup).wiring ⟨cpu, {}, world⟩ = .ok ticks after) :
    ∃ added, after.world.2 = world.2 ++ added := by
  obtain ⟨p, written⟩ := (switch_written self).written
  have simulates := (@emulator_heard _ world.2 setup).run p
  have related : Heard world.2 ⟨cpu, {}, world.1⟩ ⟨cpu, {}, world⟩ := ⟨rfl, rfl, World.refl world.1⟩
  rw [written] at ran
  obtain ⟨last, -, same⟩ := simulates.symm.ok related ran
  obtain ⟨-, added, listed, -⟩ := same.world
  exact ⟨added, listed⟩

/-- An execution that acknowledges nothing calls the memory controller, so nothing rests. -/
theorem fetches (begins : Begins s.bus) (unacknowledged : acknowledges s = none) : ¬ Rests setup s := by
  rintro ⟨ticks, after, ran, -, -, same⟩
  obtain ⟨bus, fetched⟩ := execute_fetched setup.build (listen .memory setup.memoryController)
    (listen .io setup.ioController) begins unacknowledged
  rw [← listening_wiring, ran] at fetched
  cases read : (listen .memory setup.memoryController).read s.cpu.pc s.world with
  | error fault world => simp [read] at fetched
  | ok opcode world =>
    simp only [read] at fetched
    obtain ⟨added, listed⟩ := switch_lists _ fetched.symm
    have heard := heard_ok (.read .memory s.cpu.pc) s.world.2 (read_heard read)
    injection read.symm.trans heard with _ kept
    rw [same, kept] at listed
    simp at listed

theorem begins_clear : Begins {} := by
  decide

theorem unacknowledged_clear (s : System ω) : acknowledges { s with bus := {} } = none := by
  simp [acknowledges]

theorem hlt_passes (w : Wiring ω) (s : System ω) (compiledOut : w.build.ndebug = true) :
    hlt w s = .ok 7 { s with cpu := { s.cpu with pc := s.cpu.pc + 1 } } := by
  unfold hlt
  rw [bind_run, assert0_eq, compiledOut]
  rfl

/-- The next execution fetches again, whatever the first one was. -/
theorem not_stops : ¬ Stops setup s := by
  rintro ⟨ticks, halted, -, -, stopped⟩
  have unacknowledged := unacknowledged_clear halted
  obtain ⟨rests, -⟩ := stopped halted (.none halted) {} begins_clear
  exact fetches begins_clear unacknowledged (rests unacknowledged)

theorem execute_hlt (begins : Begins s.bus) (halts : Fetches (listening setup) s 0x76) :
    ∃ world, execute (listening setup).wiring s = hlt
      (listening setup).wiring ⟨{ s.cpu with opcode := 0x76 }, {}, world⟩ := by
  obtain ⟨unacknowledged, world, read⟩ := halts
  change (listen .memory setup.memoryController).read s.cpu.pc s.world = .ok 0x76 world at read
  obtain ⟨bus, fetched⟩ := execute_fetched setup.build (listen .memory setup.memoryController)
    (listen .io setup.ioController) begins unacknowledged
  rw [read] at fetched
  dsimp only at fetched
  rw [switch_eq] at fetched
  dsimp only at fetched
  rw [(decode_hlt 0x76).mpr rfl] at fetched
  exact ⟨world, fetched⟩

/-- HLT fails an assertion where these are compiled in, and is a long NOP elsewhere. -/
theorem never_stops (begins : Begins s.bus) (halts : Fetches (listening setup) s 0x76) :
    ¬ Stops setup s ∧
    (setup.build.ndebug = false → ∃ after, execute (listening setup).wiring s = .error .assertion after) ∧
    (setup.build.ndebug = true → ∃ halted, execute (listening setup).wiring s = .ok 7 halted ∧
      halted.cpu.pc = s.cpu.pc + 1 ∧
      ∀ bus, Begins bus → acknowledges { halted with bus } = none → ¬ Rests setup { halted with bus }) := by
  obtain ⟨world, ran⟩ := execute_hlt begins halts
  refine ⟨not_stops, fun asserts => ?_, fun compiledOut => ?_⟩
  · exact ⟨_, ran.trans (hlt_run _ _ asserts)⟩
  · refine ⟨_, ran.trans (hlt_passes _ _ compiledOut), rfl, fun bus begins unacknowledged => ?_⟩
    exact fetches begins unacknowledged

section Machine

def halting (ndebug : Bool) : Setup Unit := { slowSetup 0x76 with build := ⟨ndebug, false⟩ }

theorem halting_fetches (ndebug : Bool) : Fetches (listening (halting ndebug)) ⟨{}, {}, ((), [])⟩ 0x76 :=
  ⟨unacknowledged_clear ⟨{}, {}, ((), [])⟩, _, rfl⟩

theorem runs_on : ¬ Stops (halting true) ⟨{}, {}, ((), [])⟩ := by
  rintro ⟨ticks, halted, ran, -, stopped⟩
  have first : execute (listening (halting true)).wiring ⟨{}, {}, ((), [])⟩ =
      .ok 7 ⟨{ pc := 1, opcode := 0x76 }, {}, ((), [.read .memory 0 (.ok 0x76)])⟩ := by
    with_unfolding_all rfl
  cases first.symm.trans ran
  obtain ⟨rests, -⟩ := stopped _ (.none _) {} begins_clear
  obtain ⟨ticks, next, again, -, same, -⟩ := rests (unacknowledged_clear _)
  have second : execute (listening (halting true)).wiring
      ⟨{ pc := 1, opcode := 0x76 }, {}, ((), [.read .memory 0 (.ok 0x76)])⟩ =
      .ok 7 ⟨{ pc := 2, opcode := 0x76 }, {}, ((), [.read .memory 0 (.ok 0x76), .read .memory 1 (.ok 0x76)])⟩ := by
    with_unfolding_all rfl
  cases second.symm.trans again
  cases same

theorem never_stops_halting : ¬ Stops (halting false) ⟨{}, {}, ((), [])⟩ ∧
    ∃ after, execute (listening (halting false)).wiring ⟨{}, {}, ((), [])⟩ = .error .assertion after := by
  obtain ⟨stops, asserts, -⟩ := never_stops (s := ⟨{}, {}, ((), [])⟩) begins_clear (halting_fetches false)
  exact ⟨stops, asserts rfl⟩

end Machine

end MachEmu.Proofs.Halt
